import Rollout.Proofs.StickyRuns
import Rollout.Proofs.Yield

/-!
# Slots of stored assignments

An assignment is stored in a slot: under the storage key of the user, by the name of the entity. An
evaluation reads and changes no other slot than its own (`Context.evaluate_congr`,
`Context.slot_of_change`), so a question leaves the answers to others alone whose slots are
different (`Question.isolated_iff`).

Gates, configs and layers have names of their own, but the slot does not say which of these an
entity is. So two entities of one name share a slot for users of one key, and one takes up the
assignment of the other (`not_forall_isolated`).
-/

namespace Rollout

/-! ### The storage by slots -/

/-- The storage key and the entity that the change is about. -/
def StickyChange.slot : StickyChange → String × String
  | .save key entity _ => (key, entity)
  | .delete key entity => (key, entity)

/-- What the change puts in the slot. -/
def StickyChange.value? : StickyChange → Option StickyValues
  | .save _ _ v => some v
  | .delete _ _ => none

theorem Dict.get?_of_isEmpty {α : Type} {d : Dict α} (h : d.isEmpty = true) (k : String) :
    d.get? k = none := by
  have hnil : d.entries = [] := List.isEmpty_iff.1 h
  unfold get?
  rw [hnil]
  rfl

namespace StickyStorage

/-- The assignment in a slot. -/
def slot? (s : StickyStorage) (slot : String × String) : Option StickyValues :=
  (s.users.get? slot.1).bind (·.get? slot.2)

/-- Whether the change fails. -/
def refuses (s : StickyStorage) : StickyChange → Bool
  | .save _ _ _ => s.saveFails
  | .delete _ _ => s.deleteFails

variable {s s' : StickyStorage} {key entity : String} {slot : String × String}

theorem look_bind (s : StickyStorage) (key entity : String) :
    (s.look key).bind (·.get? entity) = if s.loadFails then none else s.slot? (key, entity) := by
  unfold look load slot?
  cases s.loadFails <;> rfl

theorem slot?_save (h : s.saveFails = false) (key entity : String) (v : StickyValues)
    (slot : String × String) :
    (s.save key entity v).2.slot? slot =
      if (key, entity) = slot then some v else s.slot? slot := by
  obtain ⟨key', entity'⟩ := slot
  unfold save slot?
  rw [h, if_neg Bool.false_ne_true]
  dsimp only
  rw [Dict.get?_insert]
  by_cases hkey : key' = key
  · subst hkey
    rw [if_pos rfl, Option.bind_some, Dict.get?_insert]
    by_cases hentity : entity' = entity
    · simp [hentity]
    · have hne : ¬ entity = entity' := fun h => hentity h.symm
      rw [if_neg hentity, if_neg (by simp [hne])]
      cases s.users.get? key' <;> rfl
  · have hne : ¬ key = key' := fun h => hkey h.symm
    rw [if_neg hkey, if_neg (by simp [hne])]

theorem slot?_delete (h : s.deleteFails = false) (key entity : String)
    (slot : String × String) :
    (s.delete key entity).2.slot? slot =
      if (key, entity) = slot then none else s.slot? slot := by
  obtain ⟨key', entity'⟩ := slot
  unfold delete slot?
  rw [h, if_neg Bool.false_ne_true]
  cases hu : s.users.get? key with
  | none =>
    dsimp only
    by_cases hslot : (key, entity) = (key', entity')
    · cases hslot
      rw [hu, if_pos rfl]
      rfl
    · rw [if_neg hslot]
  | some assignments =>
    dsimp only
    -- The key stays without an entry, or with what is left of it.
    have hrest (users : Dict StickyAssignments)
        (husers : users = if (assignments.erase entity).isEmpty then s.users.erase key
          else s.users.insert key (assignments.erase entity)) :
        (users.get? key').bind (·.get? entity') =
          if key' = key then (assignments.erase entity).get? entity'
          else (s.users.get? key').bind (·.get? entity') := by
      cases hempty : (assignments.erase entity).isEmpty with
      | true =>
        rw [husers, hempty, if_pos rfl, Dict.get?_erase, Dict.get?_of_isEmpty hempty]
        split <;> rfl
      | false =>
        rw [husers, hempty, if_neg Bool.false_ne_true, Dict.get?_insert]
        split <;> rfl
    rw [hrest _ rfl, Dict.get?_erase]
    by_cases hkey : key' = key
    · subst hkey
      by_cases hentity : entity' = entity
      · simp [hentity]
      · have hne : ¬ entity = entity' := fun h => hentity h.symm
        simp [hentity, hne, hu]
    · have hne : ¬ key = key' := fun h => hkey h.symm
      simp [hkey, hne]

/-- A change is made in its own slot, unless it fails. -/
theorem slot?_perform (s : StickyStorage) (change : StickyChange) (slot : String × String) :
    (s.perform change).slot? slot =
      if s.refuses change = false ∧ change.slot = slot then change.value? else s.slot? slot := by
  cases change with
  | save key entity v =>
    cases h : s.saveFails with
    | true => simp [perform, save, refuses, h]
    | false =>
      rw [perform, slot?_save h]
      simp [refuses, h, StickyChange.slot, StickyChange.value?]
  | delete key entity =>
    cases h : s.deleteFails with
    | true => simp [perform, delete, refuses, h]
    | false =>
      rw [perform, slot?_delete h]
      simp [refuses, h, StickyChange.slot, StickyChange.value?]

theorem perform_eq (s : StickyStorage) (change : StickyChange) :
    s.perform change = { s with users := (s.perform change).users } := by
  cases change with
  | save key entity v =>
    dsimp only [perform]
    unfold save
    split <;> rfl
  | delete key entity =>
    dsimp only [perform]
    unfold delete
    split
    · rfl
    · split <;> rfl

/-- The storages fail alike, and hold the same in a slot. -/
structure AgreesAt (s s' : StickyStorage) (slot : String × String) : Prop where
  rest : s' = { s with users := s'.users }
  held : s'.slot? slot = s.slot? slot

namespace AgreesAt

theorem refl (s : StickyStorage) (slot : String × String) : s.AgreesAt s slot := ⟨rfl, rfl⟩

theorem trans {s'' : StickyStorage} (h : s.AgreesAt s' slot) (h' : s'.AgreesAt s'' slot) :
    s.AgreesAt s'' slot where
  rest := by
    rw [h'.rest, h.rest]
  held := h'.held.trans h.held

theorem symm (h : s.AgreesAt s' slot) : s'.AgreesAt s slot where
  rest := by
    rw [h.rest]
  held := h.held.symm

theorem look_bind (h : s.AgreesAt s' (key, entity)) :
    (s'.look key).bind (·.get? entity) = (s.look key).bind (·.get? entity) := by
  have hfails : s'.loadFails = s.loadFails := by rw [h.rest]
  rw [StickyStorage.look_bind, StickyStorage.look_bind, hfails, h.held]

/-- A change made in both storages. -/
theorem perform (h : s.AgreesAt s' slot) (change : StickyChange) :
    (s.perform change).AgreesAt (s'.perform change) slot where
  rest := by
    rw [perform_eq s change, perform_eq s' change, h.rest]
  held := by
    have hrefuses : s'.refuses change = s.refuses change := by
      rw [h.rest]
      cases change <;> rfl
    rw [slot?_perform, slot?_perform, hrefuses, h.held]

/-- A change made in another slot. -/
theorem of_slot_ne {change : StickyChange} (h : change.slot ≠ slot) :
    s.AgreesAt (s.perform change) slot where
  rest := perform_eq s change
  held := by
    rw [slot?_perform, if_neg fun hslot => h hslot.2]

end AgreesAt

end StickyStorage

namespace Context

variable {c : Context} {kind : EntityKind} {name : String} {requested : Bool}
  {load load' : String → Option StickyAssignments}

/-! ### The slot of an evaluation -/

variable (c) in
/-- The slot that assignments of the entity for the user are stored in. -/
def slot? (kind : EntityKind) (name : String) : Option (String × String) :=
  ((c.spec? kind name).bind fun spec => c.user.storageKey? spec.idType).map (·, name)

theorem slot?_eq_some_iff {slot : String × String} :
    c.slot? kind name = some slot ↔
      ∃ spec, c.spec? kind name = some spec ∧
        c.user.storageKey? spec.idType = some slot.1 ∧ name = slot.2 := by
  obtain ⟨key, entity⟩ := slot
  unfold slot?
  rw [Option.map_eq_some_iff]
  constructor
  · rintro ⟨key', hkey, h⟩
    cases h
    obtain ⟨spec, hspec, hkey⟩ := Option.bind_eq_some_iff.1 hkey
    exact ⟨spec, hspec, hkey, rfl⟩
  · rintro ⟨spec, hspec, hkey, rfl⟩
    exact ⟨key, Option.bind_eq_some_iff.2 ⟨spec, hspec, hkey⟩, rfl⟩

theorem storageKey?_of_stickiness {spec : Spec} {key : String}
    (h : c.stickiness requested kind spec = .keep key ∨
      c.stickiness requested kind spec = .forget key) :
    c.user.storageKey? spec.idType = some key := by
  unfold stickiness at h
  cases hkey : c.user.storageKey? spec.idType with
  | none => simp [hkey] at h
  | some key' =>
    simp only [hkey] at h
    grind

/-- An evaluation reads no slot but its own. -/
theorem evaluate_congr
    (h : ∀ slot, c.slot? kind name = some slot →
      (load' slot.1).bind (·.get? slot.2) = (load slot.1).bind (·.get? slot.2)) :
    c.evaluate (some load') requested kind name = c.evaluate (some load) requested kind name := by
  unfold evaluate
  cases hentrance : c.entrance kind name with
  | settled o => rfl
  | unreadable => rfl
  | rules s spec =>
    dsimp only
    cases hkeep : c.stickiness requested kind spec with
    | none => rfl
    | forget key => rfl
    | keep key =>
      have hslot : c.slot? kind name = some (key, name) := slot?_eq_some_iff.2
        ⟨spec, spec?_of_entrance_rules hentrance, storageKey?_of_stickiness (.inl hkeep), rfl⟩
      have hstored := h (key, name) hslot
      dsimp only at hstored ⊢
      rw [hstored]

/-- An evaluation changes no slot but its own. -/
theorem slot_of_change {change : StickyChange}
    (h : (c.evaluate (some load) requested kind name).change = some change) :
    c.slot? kind name = some change.slot := by
  unfold evaluate at h
  cases hentrance : c.entrance kind name with
  | settled o => simp [hentrance] at h
  | unreadable => simp [hentrance] at h
  | rules s spec =>
    have hspec := spec?_of_entrance_rules hentrance
    simp only [hentrance] at h
    cases hkeep : c.stickiness requested kind spec with
    | none => simp [hkeep] at h
    | forget key =>
      simp only [hkeep] at h
      cases h
      exact slot?_eq_some_iff.2 ⟨spec, hspec, storageKey?_of_stickiness (.inr hkeep), rfl⟩
    | keep key =>
      simp only [hkeep] at h
      obtain ⟨-, h⟩ := Option.ite_none_right_eq_some.1 h
      cases h
      exact slot?_eq_some_iff.2 ⟨spec, hspec, storageKey?_of_stickiness (.inl hkeep), rfl⟩

end Context

/-! ### Questions one after the other -/

/-- What an entity has its name in: dynamic configs and experiments share theirs. -/
inductive Namespace where
  | gates
  | configs
  | layers
  deriving DecidableEq

/-- Where entities of the kind have their names. -/
def EntityKind.space : EntityKind → Namespace
  | .gate => .gates
  | .dynamicConfig | .experiment => .configs
  | .layer => .layers

/-- A call for the decision about an entity. -/
structure Question where
  user : User
  kind : EntityKind
  name : String
  /-- Whether assignments are asked for. -/
  requested : Bool
  now : Nat

namespace Context

variable {c : Context} {s s' : StickyStorage} {p q : Question} {slot : String × String}

variable (c) in
/-- The context in which a question is answered. -/
def asking (q : Question) : Context := { c with user := q.user, now := q.now }

variable (c) in
/-- The answer to a question, and the storage after it. -/
def ask (storage : Option StickyStorage) (q : Question) : Outcome × Option StickyStorage :=
  (c.asking q).evaluateWith storage q.requested q.kind q.name

variable (c) in
/-- The storage after some questions, one after the other. -/
def serve (storage : Option StickyStorage) (l : List Question) : Option StickyStorage :=
  l.foldl (fun storage q => (c.ask storage q).2) storage

variable (c) in
/-- The slot that a question is about. -/
def slotOf? (q : Question) : Option (String × String) := (c.asking q).slot? q.kind q.name

/-- A question about another slot leaves a slot alone. -/
theorem exists_ask_of_ne (s : StickyStorage) (h : c.slotOf? q ≠ some slot) :
    ∃ t, (c.ask (some s) q).2 = some t ∧ s.AgreesAt t slot := by
  unfold ask
  rw [evaluateWith_some]
  cases hchange : ((c.asking q).evaluate (some s.look) q.requested q.kind q.name).change with
  | none => exact ⟨s, rfl, .refl s slot⟩
  | some change =>
    have hslot : change.slot ≠ slot := by
      rintro rfl
      exact h (slot_of_change hchange)
    exact ⟨s.perform change, rfl, .of_slot_ne hslot⟩

theorem evaluate_eq_of_agreesAt (h : ∀ slot, c.slotOf? q = some slot → s.AgreesAt s' slot) :
    (c.asking q).evaluate (some s'.look) q.requested q.kind q.name =
      (c.asking q).evaluate (some s.look) q.requested q.kind q.name :=
  evaluate_congr fun slot hslot => (h slot hslot).look_bind

/-- Storages that agree on the slot of a question bring about the same answer. -/
theorem answer_eq (h : ∀ slot, c.slotOf? q = some slot → s.AgreesAt s' slot) :
    (c.ask (some s') q).1 = (c.ask (some s) q).1 := by
  unfold ask
  rw [evaluateWith_some, evaluateWith_some, evaluate_eq_of_agreesAt h]

/-- A question keeps storages in agreement on any slot. -/
theorem exists_ask_agreesAt (h : s.AgreesAt s' slot) (q : Question) :
    ∃ t t', (c.ask (some s) q).2 = some t ∧ (c.ask (some s') q).2 = some t' ∧
      t.AgreesAt t' slot := by
  -- In its own slot a question makes one change in both storages; in other slots the storages may
  -- differ, and so may the changes, but none of them reaches this slot.
  by_cases hslot : c.slotOf? q = some slot
  · have hown : ∀ x, c.slotOf? q = some x → s.AgreesAt s' x := by
      intro x hx
      rw [hslot] at hx
      cases hx
      exact h
    unfold ask
    rw [evaluateWith_some, evaluateWith_some, evaluate_eq_of_agreesAt hown]
    cases ((c.asking q).evaluate (some s.look) q.requested q.kind q.name).change with
    | none => exact ⟨s, s', rfl, rfl, h⟩
    | some change => exact ⟨_, _, rfl, rfl, h.perform change⟩
  · obtain ⟨t, ht, hst⟩ := exists_ask_of_ne s hslot
    obtain ⟨t', ht', hst'⟩ := exists_ask_of_ne s' hslot
    exact ⟨t, t', ht, ht', (hst.symm.trans h).trans hst'⟩

theorem exists_serve_agreesAt (h : s.AgreesAt s' slot) (l : List Question) :
    ∃ t t', c.serve (some s) l = some t ∧ c.serve (some s') l = some t' ∧ t.AgreesAt t' slot := by
  induction l generalizing s s' with
  | nil => exact ⟨s, s', rfl, rfl, h⟩
  | cons q l ih =>
    obtain ⟨t, t', ht, ht', hagrees⟩ := exists_ask_agreesAt h q
    unfold serve
    rw [List.foldl_cons, List.foldl_cons, ht, ht']
    exact ih hagrees

theorem exists_serve (s : StickyStorage) (l : List Question) :
    ∃ t, c.serve (some s) l = some t := by
  obtain ⟨t, -, ht, -, -⟩ := exists_serve_agreesAt (c := c) (.refl s ("", "")) l
  exact ⟨t, ht⟩

/-- An earlier question about another slot does not change an answer, whatever is asked in
between. -/
theorem answer_serve_cons (h : ∀ slot, c.slotOf? q = some slot → c.slotOf? p ≠ some slot)
    (s : StickyStorage) (later : List Question) :
    (c.ask (c.serve (some s) (p :: later)) q).1 = (c.ask (c.serve (some s) later) q).1 := by
  have hstep : c.serve (some s) (p :: later) = c.serve (c.ask (some s) p).2 later := rfl
  rw [hstep]
  cases hq : c.slotOf? q with
  | none =>
    obtain ⟨t, ht⟩ := exists_serve (c := c) s [p]
    have ht' : (c.ask (some s) p).2 = some t := ht
    obtain ⟨u, hu⟩ := exists_serve (c := c) s later
    obtain ⟨u', hu'⟩ := exists_serve (c := c) t later
    rw [ht', hu, hu']
    exact answer_eq fun slot hslot => by simp [hq] at hslot
  | some slot =>
    obtain ⟨t, ht, hagrees⟩ := exists_ask_of_ne s (h slot hq)
    obtain ⟨u, u', hu, hu', huu'⟩ := exists_serve_agreesAt (c := c) hagrees later
    rw [ht, hu, hu']
    refine answer_eq fun x hx => ?_
    rw [hq] at hx
    cases hx
    exact huu'

variable (c) in
/-- The spec that a question is about has the id type, if it is readable. -/
def HasIdType (q : Question) (t : String) : Prop :=
  ∀ spec, c.spec? q.kind q.name = some spec → spec.idType = t

theorem spec?_congr {kind kind' : EntityKind} (h : kind.space = kind'.space) (name : String) :
    c.spec? kind name = c.spec? kind' name := by
  cases kind <;> cases kind' <;> first | rfl | cases h

theorem storageKey?_of_slotOf? {t : String} (h : c.slotOf? q = some slot)
    (ht : c.HasIdType q t) :
    (∃ spec, c.spec? q.kind q.name = some spec) ∧ q.user.storageKey? t = some slot.1 ∧
      q.name = slot.2 := by
  obtain ⟨spec, hspec, hkey, hname⟩ := slot?_eq_some_iff.1 h
  have hspec' : c.spec? q.kind q.name = some spec := hspec
  rw [ht spec hspec'] at hkey
  exact ⟨⟨spec, hspec'⟩, hkey, hname⟩

end Context

theorem User.unitId?_eq_of_storageKey? {u u' : User} {t key : String}
    (h : u.storageKey? t = some key) (h' : u'.storageKey? t = some key) :
    u.unitId? t = u'.unitId? t := by
  unfold storageKey? at h h'
  obtain ⟨id, hid, hkey⟩ := Option.map_eq_some_iff.1 h
  obtain ⟨id', hid', hkey'⟩ := Option.map_eq_some_iff.1 h'
  have heq : id ++ ":" ++ t = id' ++ ":" ++ t := hkey.trans hkey'.symm
  have hlist := congrArg String.toList heq
  simp only [String.toList_append] at hlist
  rw [hid, hid', String.toList_inj.1 (List.append_cancel_right (List.append_cancel_right hlist))]

/-! ### Entities of one name -/

namespace SharedName

open Context

/-- A rule that lets everyone in. -/
def rule : Rule := { id := "all", passPercentage := .ofInt 100, returnValue := .bool true }

/-- A sticky entity with this rule, given its id type. -/
def sticky (idType : String) : Spec :=
  { salt := "", defaultValue := .bool false, enabled := true, idType, isSticky := true
    rules := [rule] }

/-- Specs with such a gate, such a config and such a layer of one name. -/
def specs (idTypes : Namespace → String) (name : String) : Snapshot :=
  { payload :=
      { featureGates := .ofList [(name, .parsed (sticky (idTypes .gates)))]
        dynamicConfigs := .ofList [(name, .parsed (sticky (idTypes .configs)))]
        layers := .ofList [(name, .parsed (sticky (idTypes .layers)))] }
    idLists := ∅, source := .network, lcut := 1, receivedAt := 1 }

/-- A context with these specs. -/
def visitor (idTypes : Namespace → String) (name : String) : Context :=
  { user := {}, snapshot := some (specs idTypes name), overrides := {}, now := 0 }

variable {idTypes : Namespace → String} {name key : String} {q : Question}

theorem entry?_specs (idTypes : Namespace → String) (name : String) (kind : EntityKind) :
    (specs idTypes name).payload.entry? kind name =
      some (.parsed (sticky (idTypes kind.space))) := by
  cases kind <;>
  · show ((∅ : Dict (Entry Spec)).insert name _).get? name = _
    rw [Dict.get?_insert, if_pos rfl]
    rfl

theorem hasIdType (hq : q.name = name) :
    (visitor idTypes name).HasIdType q (idTypes q.kind.space) := by
  intro spec hspec
  have hentry := entry?_specs idTypes name q.kind
  have hsome : (some (Entry.parsed (sticky (idTypes q.kind.space)))).bind Entry.get? =
      some spec := by
    rw [← hentry, ← hspec, hq]
    rfl
  cases hsome
  rfl

theorem passes_rule (c : Context) (t : String) : c.passes (sticky t) rule = true := by
  have hfull : (Binary64.ofInt 100).atMost rule.passPercentage = true := by decide +kernel
  unfold passes
  rw [if_pos hfull]

theorem evaluateRules_none (c : Context) (N : NestedEvaluation) (s : Snapshot) (t : String) :
    ∃ o, c.evaluateRules N s (sticky t) none = .ok { outcome := o, isAssignment := true } ∧
      o.ruleId = rule.id ∧ o.details.reason = .recognized s.source :=
  ⟨_, decideRules_eq_ok_iff.2 (.letsIn rfl rfl rfl rfl (passes_rule c t)), rfl, rfl⟩

theorem evaluateRules_some (c : Context) (N : NestedEvaluation) (s : Snapshot) (t : String)
    {v : StickyValues} (hv : v.ruleId = rule.id) :
    ∃ o, c.evaluateRules N s (sticky t) (some v) = .ok { outcome := o } ∧
      o.details.reason = .persisted := by
  have hrecalled := StickyValues.filter_of_eq hv
  exact ⟨_, decideRules_eq_ok_iff.2 (.remembers rfl rfl rfl hrecalled), rfl⟩

variable (hname : q.name = name) (hkey : q.user.storageKey? (idTypes q.kind.space) = some key)

include hname hkey

theorem entrance_asking :
    ((visitor idTypes name).asking q).entrance q.kind q.name =
        .rules (specs idTypes name) (sticky (idTypes q.kind.space)) ∧
      ((visitor idTypes name).asking q).stickiness q.requested q.kind
        (sticky (idTypes q.kind.space)) = .keep key := by
  have hentry := entry?_specs idTypes q.name q.kind
  subst hname
  refine ⟨entrance_eq_rules rfl hentry rfl (resolve?_eq_none rfl _ _ _), ?_⟩
  have huser : ((visitor idTypes q.name).asking q).user.storageKey?
      (sticky (idTypes q.kind.space)).idType = some key := hkey
  unfold stickiness
  rw [huser]
  rfl

/-- With nothing stored the rule lets the user in, and its assignment is stored. -/
theorem ask_empty :
    ((visitor idTypes name).ask (some {}) q).1.details.reason = .recognized .network ∧
      ∃ t v, ((visitor idTypes name).ask (some {}) q).2 = some t ∧ t.Keeps key q.name v ∧
        v.ruleId = rule.id := by
  obtain ⟨hentrance, hkeep⟩ := entrance_asking hname hkey
  obtain ⟨o, hrun, hid, hreason⟩ := evaluateRules_none ((visitor idTypes name).asking q)
    (((visitor idTypes name).asking q).evaluateNested maxNesting) (specs idTypes name)
    (idTypes q.kind.space)
  have hlook : (StickyStorage.look {} key).bind (·.get? q.name) = none := rfl
  rw [← hlook] at hrun
  unfold ask
  rw [evaluateWith_some, evaluate_keep hentrance hkeep hrun]
  exact ⟨hreason, _, _, rfl, StickyStorage.keeps_save rfl rfl key q.name _, hid⟩

/-- A stored assignment of the rule is taken up, whichever entity it was stored for. -/
theorem ask_of_keeps {s : StickyStorage} {v : StickyValues} (h : s.Keeps key q.name v)
    (hv : v.ruleId = rule.id) :
    ((visitor idTypes name).ask (some s) q).1.details.reason = .persisted := by
  obtain ⟨hentrance, hkeep⟩ := entrance_asking hname hkey
  obtain ⟨o, hrun, hreason⟩ := evaluateRules_some ((visitor idTypes name).asking q)
    (((visitor idTypes name).asking q).evaluateNested maxNesting) (specs idTypes name)
    (idTypes q.kind.space) hv
  rw [← h.look] at hrun
  unfold ask
  rw [evaluateWith_some, evaluate_keep hentrance hkeep hrun]
  exact hreason

omit hname hkey

/-- Asked after an entity of the same name for a user of the same key, the answer is another. -/
theorem answer_ne {p : Question} (hp : p.name = name)
    (hpkey : p.user.storageKey? (idTypes p.kind.space) = some key) (hq : q.name = name)
    (hqkey : q.user.storageKey? (idTypes q.kind.space) = some key) :
    ((visitor idTypes name).ask ((visitor idTypes name).serve (some {}) [p]) q).1 ≠
      ((visitor idTypes name).ask (some {}) q).1 := by
  intro heq
  obtain ⟨-, t, v, ht, hkeeps, hv⟩ := ask_empty hp hpkey
  rw [hp, ← hq] at hkeeps
  have hserve : (visitor idTypes name).serve (some {}) [p] = some t := ht
  have hpersisted := ask_of_keeps hq hqkey hkeeps hv
  rw [hserve] at heq
  rw [heq, (ask_empty hq hqkey).1] at hpersisted
  cases hpersisted

end SharedName

/-- Questions about entities of other names, about entities of other kinds, or for users with other
ids leave an answer alone, at any time before it and under all specs with the given id types,
exactly if it is not for an entity of the same name but another kind that has the same storage
key. -/
theorem Question.isolated_iff (p q : Question) (t t' : String)
    (hother : p.name ≠ q.name ∨ p.kind.space ≠ q.kind.space ∨
      p.user.unitId? t ≠ q.user.unitId? t') :
    (∀ (c : Context) (storage : StickyStorage) (later : List Question),
        c.HasIdType p t → c.HasIdType q t' →
        (c.ask (c.serve (some storage) (p :: later)) q).1 =
          (c.ask (c.serve (some storage) later) q).1) ↔
      (p.name = q.name → p.kind.space ≠ q.kind.space →
        ∀ key, p.user.storageKey? t = some key → q.user.storageKey? t' ≠ some key) := by
  constructor
  · intro h hname hspace key hp hq
    -- Specs that bring the two entities of one name together, each with its id type.
    let idTypes (x : Namespace) : String := if x = p.kind.space then t else t'
    have hpt : idTypes p.kind.space = t := if_pos rfl
    have hqt : idTypes q.kind.space = t' := if_neg fun he => hspace he.symm
    refine SharedName.answer_ne hname (hpt ▸ hp) rfl (hqt ▸ hq) ?_
    exact h _ {} [] (hpt ▸ SharedName.hasIdType hname) (hqt ▸ SharedName.hasIdType rfl)
  · intro h c storage later hp hq
    refine Context.answer_serve_cons (fun slot hqslot hpslot => ?_) storage later
    obtain ⟨⟨spec, hspec⟩, hpkey, hpname⟩ := Context.storageKey?_of_slotOf? hpslot hp
    obtain ⟨-, hqkey, hqname⟩ := Context.storageKey?_of_slotOf? hqslot hq
    have hname : p.name = q.name := hpname.trans hqname.symm
    by_cases hspace : p.kind.space = q.kind.space
    · have hspec' : c.spec? q.kind q.name = some spec := by
        rw [← Context.spec?_congr hspace, ← hname]
        exact hspec
      have ht : t = t' := (hp spec hspec).symm.trans (hq spec hspec')
      subst ht
      rcases hother with hother | hother | hother
      · exact hother hname
      · exact hother hspace
      · exact hother (User.unitId?_eq_of_storageKey? hpkey hqkey)
    · exact h hname hspace slot.1 hpkey hqkey

namespace SharedName

/-- A question about one of the entities named `colors`, for the user with an id. -/
def colors (kind : EntityKind) (id : String) : Question :=
  { user := .withUserId id, kind, name := "colors", requested := false, now := 1 }

/-- A context with these entities. -/
def everyone : Context := visitor (fun _ => "userID") "colors"

theorem hasIdType_colors (kind : EntityKind) (id : String) :
    everyone.HasIdType (colors kind id) "userID" :=
  @hasIdType (fun _ => "userID") "colors" (colors kind id) rfl

theorem storageKey?_colors (kind : EntityKind) (id : String) :
    (colors kind id).user.storageKey? "userID" = some (id ++ ":" ++ "userID") := by
  have hunit : (colors kind id).user.unitId? "userID" = some id := by
    unfold User.unitId?
    rw [if_pos (by decide +kernel)]
    rfl
  unfold User.storageKey?
  rw [hunit]
  rfl

theorem answer_colors_ne :
    (everyone.ask (everyone.serve (some {}) [colors .gate "u"]) (colors .experiment "u")).1 ≠
      (everyone.ask (some {}) (colors .experiment "u")).1 :=
  @answer_ne (fun _ => "userID") "colors" ("u" ++ ":" ++ "userID") (colors .experiment "u")
    (colors .gate "u") rfl (storageKey?_colors _ _) rfl (storageKey?_colors _ _)

end SharedName

open SharedName in
/-- The gate is asked for another user than the experiment. -/
theorem isolated_iff_of_two_users :
    (everyone.ask (everyone.serve (some {}) [colors .gate "u"]) (colors .experiment "v")).1 =
      (everyone.ask (some {}) (colors .experiment "v")).1 := by
  have hkeys : ∀ key, (colors .gate "u").user.storageKey? "userID" = some key →
      (colors .experiment "v").user.storageKey? "userID" ≠ some key := by
    intro key hu
    rw [storageKey?_colors] at hu ⊢
    cases hu
    decide +kernel
  have hspaces : (EntityKind.gate).space ≠ (EntityKind.experiment).space := by decide
  exact (Question.isolated_iff (colors .gate "u") (colors .experiment "v") "userID" "userID"
    (.inr (.inl hspaces))).2 (fun _ _ => hkeys) everyone {} [] (hasIdType_colors _ _)
    (hasIdType_colors _ _)

open SharedName in
/-- Not all answers are left alone by questions about other entities: an experiment takes up the
assignment of a gate of its name. -/
theorem not_forall_isolated :
    ¬ ∀ (c : Context) (storage : StickyStorage) (p q : Question),
      p.name ≠ q.name ∨ p.kind.space ≠ q.kind.space →
      (c.ask (c.serve (some storage) [p]) q).1 = (c.ask (some storage) q).1 := by
  intro h
  have hspaces : (EntityKind.gate).space ≠ (EntityKind.experiment).space := by decide
  exact answer_colors_ne (h everyone {} (colors .gate "u") (colors .experiment "u") (.inr hspaces))

end Rollout
