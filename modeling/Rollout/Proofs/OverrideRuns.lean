import Mathlib.Data.List.Induction
import Rollout.Engine
import Rollout.Proofs.Yield

/-!
# Runs of override calls

What is in force after a run of calls can be read off the calls: an override is live if one of them
sets it and no later one bears on its key (`Overrides.get?_afterCalls`). A decision is overridden
exactly if a live override reaches the user and forces something, and the first one in the order of
the user's ids forces the value (`Context.overridden_iff_live`).
-/

namespace Rollout

/-! ### Calls -/

/-- A call that changes the overrides. -/
inductive OverrideCall where
  | set (k : OverrideKey) (v : OverrideValue)
  | remove (k : OverrideKey)
  | removeAll

namespace OverrideValue

/-- Whether entities of the kind can be forced to such a value. -/
def Fits (v : OverrideValue) (kind : EntityKind) : Prop :=
  match v with
  | .gate _ => kind = .gate
  | .config _ => kind ≠ .gate
  | .group _ => kind = .experiment

theorem fault?_eq_none_iff {v : OverrideValue} {kind : EntityKind} {name : String} :
    v.fault? kind name = none ↔ v.Fits kind := by
  cases kind <;> cases v <;> simp [fault?, Fits]

/-- What a value forces: a group forces what the first of its rules gives, if the spec has one. -/
inductive Forces (spec : Option Spec) : OverrideValue → ForcedOutcome → Prop
  | gate (value : Bool) : Forces spec (.gate value) { value }
  | config (members : Dict Json) : Forces spec (.config members) { value := true, members }
  | group {s : Spec} {before after : List Rule} {rule : Rule} {name : String}
      (parsed : spec = some s) (rules : s.rules = before ++ rule :: after)
      (isFirst : ∀ x ∈ before, x.groupName ≠ some name) (has : rule.groupName = some name) :
    Forces spec (.group name)
      { value := rule.returnValue.passing, members := rule.returnValue.members
        groupName := some name }

theorem outcome?_eq_some_iff {v : OverrideValue} {spec : Option Spec} {forced : ForcedOutcome} :
    v.outcome? spec = some forced ↔ v.Forces spec forced := by
  constructor
  · intro h
    cases v with
    | gate value =>
      cases h
      exact .gate value
    | config members =>
      cases h
      exact .config members
    | group name =>
      unfold outcome? at h
      obtain ⟨rule, hrule, rfl⟩ := Option.map_eq_some_iff.1 h
      obtain ⟨s, hs, hfind⟩ := Option.bind_eq_some_iff.1 hrule
      obtain ⟨hname, before, after, hrules, hbefore⟩ := List.find?_eq_some_iff_append.1 hfind
      refine .group hs hrules (fun x hx hx' => ?_) (beq_iff_eq.1 hname)
      have hmiss := hbefore x hx
      rw [hx'] at hmiss
      simp at hmiss
  · intro h
    cases h with
    | gate => rfl
    | config => rfl
    | @group s before after rule name parsed rules isFirst has =>
      have hfind : s.rules.find? (·.groupName == some name) = some rule := by
        refine List.find?_eq_some_iff_append.2 ⟨beq_iff_eq.2 has, before, after, rules, ?_⟩
        intro x hx
        simpa using isFirst x hx
      simp only [outcome?, parsed, Option.bind_some, hfind, Option.map_some]

end OverrideValue

namespace OverrideCall

/-- Whether the call takes away what the key is set to. -/
def Removes (call : OverrideCall) (k : OverrideKey) : Prop :=
  match call with
  | .set _ _ => False
  | .remove k' => k' = k
  | .removeAll => True

/-- Whether the call sets the key; a call that is refused does not. -/
def Sets (call : OverrideCall) (k : OverrideKey) (v : OverrideValue) : Prop :=
  call = .set k v ∧ v.Fits k.kind

/-- Of the calls, one sets the key to the value, and no later one sets or removes it. -/
def Live (calls : List OverrideCall) (k : OverrideKey) (v : OverrideValue) : Prop :=
  ∃ before call after, calls = before ++ call :: after ∧ call.Sets k v ∧
    ∀ later ∈ after, ¬ later.Removes k ∧ ∀ v', ¬ later.Sets k v'

theorem live_append_singleton {calls : List OverrideCall} {call : OverrideCall} {k : OverrideKey}
    {v : OverrideValue} :
    Live (calls ++ [call]) k v ↔
      call.Sets k v ∨ Live calls k v ∧ ¬ call.Removes k ∧ ∀ v', ¬ call.Sets k v' := by
  constructor
  · rintro ⟨before, x, after, hcalls, hx, hafter⟩
    rcases List.eq_nil_or_concat after with rfl | ⟨after, last, rfl⟩
    · obtain ⟨-, hlast⟩ := List.append_inj' hcalls rfl
      cases hlast
      exact .inl hx
    · rw [List.concat_eq_append] at hcalls hafter
      rw [← List.cons_append, ← List.append_assoc] at hcalls
      obtain ⟨rfl, hlast⟩ := List.append_inj' hcalls rfl
      cases hlast
      rw [List.forall_mem_append, List.forall_mem_singleton] at hafter
      exact .inr ⟨⟨before, x, after, rfl, hx, hafter.1⟩, hafter.2⟩
  · rintro (h | ⟨⟨before, x, after, rfl, hx, hafter⟩, hcall⟩)
    · exact ⟨calls, call, [], rfl, h, by simp⟩
    · refine ⟨before, x, after ++ [call], by simp, hx, ?_⟩
      rw [List.forall_mem_append, List.forall_mem_singleton]
      exact ⟨hafter, hcall⟩

end OverrideCall

/-! ### What is in force -/

namespace Overrides

open OverrideCall

/-- The overrides after a call. A value that does not fit is refused. -/
def perform (o : Overrides) : OverrideCall → Overrides
  | .set k v => match o.set k v with
    | .ok o => o
    | .error _ => o
  | .remove k => (o.remove k).2
  | .removeAll => {}

/-- The overrides after a run of calls. -/
abbrev afterCalls (calls : List OverrideCall) : Overrides := calls.foldl perform {}

variable {o : Overrides} {call : OverrideCall} {calls : List OverrideCall} {k : OverrideKey}
  {v : OverrideValue}

theorem set_of_not_fits (h : ¬ v.Fits k.kind) (o : Overrides) : ∃ f, o.set k v = .error f := by
  have hsome : v.fault? k.kind k.name ≠ none := fun hnone =>
    h (OverrideValue.fault?_eq_none_iff.1 hnone)
  obtain ⟨fault, hfault⟩ := Option.ne_none_iff_exists'.1 hsome
  exact ⟨.invalidOverride fault, by simp only [set, hfault]⟩

theorem exists_set_of_fits (h : v.Fits k.kind) (o : Overrides) : ∃ o', o.set k v = .ok o' := by
  have hfault : v.fault? k.kind k.name = none := OverrideValue.fault?_eq_none_iff.2 h
  simp [set, hfault]

/-- A call that is refused changes nothing. -/
theorem perform_of_not_fits (h : ¬ v.Fits k.kind) (o : Overrides) : o.perform (.set k v) = o := by
  obtain ⟨f, hf⟩ := set_of_not_fits h o
  simp only [perform, hf]

theorem get?_perform_of_sets (h : call.Sets k v) (o : Overrides) :
    (o.perform call).get? k = some v := by
  obtain ⟨rfl, hfits⟩ := h
  obtain ⟨o', ho'⟩ := exists_set_of_fits hfits o
  simp only [perform, ho']
  rw [get?_of_set ho', if_pos rfl]

theorem get?_perform_of_removes (h : call.Removes k) (o : Overrides) :
    (o.perform call).get? k = none := by
  cases call with
  | set k' v' => cases h
  | remove k' =>
    obtain rfl : k' = k := h
    exact (get?_remove o k' k').trans (if_pos rfl)
  | removeAll => rfl

/-- A call leaves alone what it neither sets nor removes. -/
theorem get?_perform_of_not (hset : ∀ v, ¬ call.Sets k v) (hremove : ¬ call.Removes k)
    (o : Overrides) : (o.perform call).get? k = o.get? k := by
  cases call with
  | set k' v' =>
    by_cases hfits : v'.Fits k'.kind
    · have hne : k ≠ k' := by
        rintro rfl
        exact hset v' ⟨rfl, hfits⟩
      obtain ⟨o', ho'⟩ := exists_set_of_fits hfits o
      simp only [perform, ho']
      rw [get?_of_set ho', if_neg hne]
    · rw [perform_of_not_fits hfits]
  | remove k' => exact (get?_remove o k' k).trans (if_neg fun h => hremove h.symm)
  | removeAll => exact absurd trivial hremove

/-- In force are the live overrides. -/
theorem get?_afterCalls : (afterCalls calls).get? k = some v ↔ Live calls k v := by
  induction calls using List.reverseRecOn with
  | nil =>
    refine iff_of_false (fun h => by cases h) ?_
    rintro ⟨before, call, after, h, -⟩
    simp at h
  | append_singleton calls call ih =>
    -- Of a run, the last call has its say first; what it leaves alone was decided before it.
    rw [afterCalls, List.foldl_concat, live_append_singleton, ← ih]
    by_cases hremove : call.Removes k
    · have hset : ¬ call.Sets k v := by
        rintro ⟨rfl, -⟩
        exact hremove
      rw [get?_perform_of_removes hremove]
      simp [hset, hremove]
    · by_cases hset : ∃ v', call.Sets k v'
      · obtain ⟨v', hv'⟩ := hset
        rw [get?_perform_of_sets hv']
        constructor
        · intro h
          obtain rfl := Option.some.inj h
          exact .inl hv'
        · rintro (h | ⟨-, -, h⟩)
          · obtain ⟨he, -⟩ := h
            obtain ⟨rfl, -⟩ := hv'
            cases he
            rfl
          · exact absurd hv' (h v')
      · have hset' : ∀ v', ¬ call.Sets k v' := fun v' h => hset ⟨v', h⟩
        rw [get?_perform_of_not hset' hremove]
        simp [hset', hremove]

theorem eq_empty_of_get? (h : ∀ k, o.get? k = none) : o = {} := by
  obtain ⟨_ | ⟨⟨k, v⟩, rest⟩⟩ := o
  · rfl
  · have hk : ((k, v) :: rest).lookup k = none := h k
    simp at hk

/-- When everything that was set is removed later, nothing is in force. -/
theorem afterCalls_eq_empty
    (h : ∀ before call after k v, calls = before ++ call :: after → call.Sets k v →
      ∃ later ∈ after, later.Removes k) : afterCalls calls = {} := by
  refine eq_empty_of_get? fun k => ?_
  rw [Option.eq_none_iff_forall_ne_some]
  intro v hv
  obtain ⟨before, call, after, hcalls, hset, hafter⟩ := get?_afterCalls.1 hv
  obtain ⟨later, hlater, hremoves⟩ := h before call after k v hcalls hset
  exact (hafter later hlater).1 hremoves

theorem afterCalls_of_not_fits (h : ¬ v.Fits k.kind) (before after : List OverrideCall) :
    afterCalls (before ++ .set k v :: after) = afterCalls (before ++ after) := by
  unfold afterCalls
  rw [List.foldl_append, List.foldl_append, List.foldl_cons, perform_of_not_fits h]

end Overrides

/-! ### The engine -/

namespace Engine

theorem override_apply (k : OverrideKey) (v : OverrideValue) (e : Engine) :
    (override k v e).2 = { e with overrides := e.overrides.perform (.set k v) } := by
  cases h : e.overrides.set k v <;> simp only [override, Overrides.perform, h]

theorem removeOverride_apply (k : OverrideKey) (e : Engine) :
    (removeOverride k e).2 = { e with overrides := e.overrides.perform (.remove k) } := rfl

theorem removeAllOverrides_apply (e : Engine) :
    (removeAllOverrides e).2 = { e with overrides := e.overrides.perform .removeAll } := rfl

end Engine

/-! ### Decisions -/

namespace Context

variable {c : Context} {kind : EntityKind} {name : String}

theorem entrance_of_forced {forced : ForcedOutcome}
    (h : c.overrides.resolve? kind name c.user (c.spec? kind name) = some forced) :
    c.entrance kind name = .settled (.ofForced forced (c.spec? kind name)
      (Catalog.detailsBeside c.snapshot .localOverride)) := by
  unfold spec? at h ⊢
  unfold entrance
  simp only [h]

theorem reason_of_entrance_settled {o : Outcome}
    (hforced : c.overrides.resolve? kind name c.user (c.spec? kind name) = none)
    (h : c.entrance kind name = .settled o) : o.details.reason ≠ .localOverride := by
  unfold spec? at hforced
  unfold entrance at h
  simp only [hforced] at h
  split at h
  · cases h
    exact Reason.noConfusion
  · split at h
    · cases h
      exact Reason.noConfusion
    · cases h
    · split at h
      · cases h
      · cases h
        exact Reason.noConfusion

theorem halted_reason_ne (c : Context) (h : Halt) :
    (c.halted h).details.reason ≠ .localOverride := by
  unfold halted Catalog.detailsFor
  cases h <;> cases c.snapshot <;> exact Reason.noConfusion

/-- An entity that no override forces does not count as overridden, whatever it refers to. -/
theorem reason_ne_localOverride {load : Option (String → Option StickyAssignments)}
    {requested : Bool}
    (hforced : c.overrides.resolve? kind name c.user (c.spec? kind name) = none) :
    (c.evaluate load requested kind name).outcome.details.reason ≠ .localOverride := by
  cases hentrance : c.entrance kind name with
  | settled o =>
    rw [evaluate_of_settled hentrance]
    exact reason_of_entrance_settled hforced hentrance
  | unreadable =>
    rw [evaluate_of_unreadable hentrance]
    exact c.halted_reason_ne _
  | rules s spec =>
    obtain ⟨stored, ho⟩ := @evaluate_of_rules c s kind name load requested spec hentrance
    rw [ho]
    cases hrun : c.evaluateRules (c.evaluateNested maxNesting) s spec stored with
    | error halt => exact c.halted_reason_ne _
    | ok r =>
      rcases (decideRules_eq_ok_iff.1 hrun).details with h | ⟨-, h⟩
      · rw [h]
        exact Reason.noConfusion
      · rw [h]
        exact Reason.noConfusion

/-- What an override forces is the outcome. -/
theorem evaluate_of_forced {load : Option (String → Option StickyAssignments)} {requested : Bool}
    {forced : ForcedOutcome}
    (h : c.overrides.resolve? kind name c.user (c.spec? kind name) = some forced) :
    let o := (c.evaluate load requested kind name).outcome
    o.details.reason = .localOverride ∧ o.value = forced.value ∧ o.members = forced.members ∧
      o.groupName = forced.groupName ∧ o.ruleId = Outcome.overrideRuleId := by
  rw [evaluate_of_settled (entrance_of_forced h)]
  refine ⟨?_, rfl, rfl, rfl, rfl⟩
  cases c.spec? kind name <;> rfl

theorem reason_eq_localOverride_iff {load : Option (String → Option StickyAssignments)}
    {requested : Bool} :
    (c.evaluate load requested kind name).outcome.details.reason = .localOverride ↔
      (c.overrides.resolve? kind name c.user (c.spec? kind name)).isSome = true := by
  cases h : c.overrides.resolve? kind name c.user (c.spec? kind name) with
  | none => simp [reason_ne_localOverride h]
  | some forced => simp [(evaluate_of_forced h).1]

variable (c) in
/-- The context after a run of override calls. -/
def afterCalls (calls : List OverrideCall) : Context :=
  { c with overrides := .afterCalls calls }

variable (c) in
/-- The override of the entity for an id is live after the calls, and forces an outcome. -/
def ForcedFor (calls : List OverrideCall) (kind : EntityKind) (name : String) (id : Option String)
    (forced : ForcedOutcome) : Prop :=
  ∃ v, OverrideCall.Live calls ⟨kind, name, id⟩ v ∧ v.Forces (c.spec? kind name) forced

theorem get?_bind_outcome?_eq_some_iff {calls : List OverrideCall} {id : Option String}
    {forced : ForcedOutcome} :
    ((Overrides.afterCalls calls).get? ⟨kind, name, id⟩).bind (·.outcome? (c.spec? kind name)) =
      some forced ↔ c.ForcedFor calls kind name id forced := by
  unfold ForcedFor
  rw [Option.bind_eq_some_iff]
  simp only [Overrides.get?_afterCalls, OverrideValue.outcome?_eq_some_iff]

theorem isSome_resolve?_afterCalls {calls : List OverrideCall} :
    ((Overrides.afterCalls calls).resolve? kind name c.user (c.spec? kind name)).isSome = true ↔
      ∃ id ∈ Overrides.targetingIds c.user, ∃ forced, c.ForcedFor calls kind name id forced := by
  unfold Overrides.resolve?
  rw [List.findSome?_isSome_iff]
  simp only [Option.isSome_iff_exists, get?_bind_outcome?_eq_some_iff]

/-- The first of the user's ids that something is forced for decides. -/
theorem resolve?_afterCalls {calls : List OverrideCall} {forced : ForcedOutcome} :
    (Overrides.afterCalls calls).resolve? kind name c.user (c.spec? kind name) = some forced ↔
      ∃ before id after, Overrides.targetingIds c.user = before ++ id :: after ∧
        c.ForcedFor calls kind name id forced ∧
        ∀ x ∈ before, ∀ forced', ¬ c.ForcedFor calls kind name x forced' := by
  unfold Overrides.resolve?
  rw [List.findSome?_eq_some_iff]
  simp only [get?_bind_outcome?_eq_some_iff, Option.eq_none_iff_forall_ne_some, ne_eq]

/-- After any run of override calls, a decision counts as overridden exactly if a live override of
the entity for the user id, for a custom id or for everyone forces something. The first one in this
order decides, the custom ids taken by id type. A call that is refused might as well not have been
made. Once everything is removed that was set, decisions are what they were without overrides. -/
theorem overridden_iff_live (c : Context) (calls : List OverrideCall)
    (storage : Option StickyStorage) (requested : Bool) (kind : EntityKind) (name : String) :
    let ids := c.user.userId.toList.map some ++ c.user.customIds.toList.map (fun e => some e.2) ++
      [none]
    let o := ((c.afterCalls calls).evaluateWith storage requested kind name).1
    (o.details.reason = .localOverride ↔
      ∃ id ∈ ids, ∃ forced, c.ForcedFor calls kind name id forced) ∧
    (∀ before id after forced, ids = before ++ id :: after → c.ForcedFor calls kind name id forced →
      (∀ x ∈ before, ∀ forced', ¬ c.ForcedFor calls kind name x forced') →
      o.value = forced.value ∧ o.members = forced.members ∧ o.groupName = forced.groupName ∧
        o.ruleId = "override") ∧
    (∀ before k v after, calls = before ++ .set k v :: after → ¬ v.Fits k.kind →
      (∃ f, (Overrides.afterCalls before).set k v = .error f) ∧
        (c.afterCalls calls).evaluateWith storage requested kind name =
          (c.afterCalls (before ++ after)).evaluateWith storage requested kind name) ∧
    ((∀ before k v after, calls = before ++ .set k v :: after → v.Fits k.kind →
        ∃ later ∈ after, later.Removes k) →
      (c.afterCalls calls).evaluateWith none requested kind name =
        ({ c with overrides := {} } : Context).evaluateWith none requested kind name) := by
  intro ids o
  refine ⟨reason_eq_localOverride_iff.trans isSome_resolve?_afterCalls, ?_, ?_, ?_⟩
  · intro before id after forced hids hforced hbefore
    have hresolve := resolve?_afterCalls.2 ⟨before, id, after, hids, hforced, hbefore⟩
    obtain ⟨-, hforces⟩ := @evaluate_of_forced (c.afterCalls calls) kind name
      (storage.map (·.look)) requested forced hresolve
    exact hforces
  · rintro before k v after rfl hfits
    refine ⟨Overrides.set_of_not_fits hfits _, ?_⟩
    unfold afterCalls
    rw [Overrides.afterCalls_of_not_fits hfits]
  · intro h
    have hempty : Overrides.afterCalls calls = {} := by
      refine Overrides.afterCalls_eq_empty fun before call after k v hcalls hset => ?_
      obtain ⟨rfl, hfits⟩ := hset
      exact h before k v after hcalls hfits
    unfold afterCalls
    rw [hempty]

end Context

end Rollout
