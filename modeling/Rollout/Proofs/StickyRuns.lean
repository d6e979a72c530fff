import Rollout.Proofs.ShareChange

/-!
# Runs of sticky evaluations

A stored assignment is taken up again when the rule with its id is reached
(`Context.decideRules`). Here an experiment is evaluated again and again for one user, while only
the shares of users that its rules let in change.

The rule of a stored assignment stays within reach under all shares, so the assignment is kept
exactly as long as no rule ahead lets the user in (`Context.persisted_iff_none_ahead`). It is lost
when such a rule opens up (`not_forall_persisted`).
-/

namespace Rollout

namespace StickyValues

variable {v : StickyValues} {id : String}

theorem filter_of_eq (h : v.ruleId = id) : (some v).filter (·.ruleId == id) = some v := by
  rw [Option.filter_some, h]
  simp

theorem filter_of_ne (h : v.ruleId ≠ id) : (some v).filter (·.ruleId == id) = none := by
  rw [Option.filter_some]
  simp [h]

end StickyValues

namespace StickyStorage

/-- The storage answers, and holds the assignment of the entity under the key. -/
structure Keeps (storage : StickyStorage) (key entity : String) (v : StickyValues) : Prop where
  loads : storage.loadFails = false
  held : (storage.users.get? key).bind (·.get? entity) = some v

variable {storage : StickyStorage} {key entity : String} {v : StickyValues}

theorem Keeps.look (h : storage.Keeps key entity v) :
    (storage.look key).bind (·.get? entity) = some v := by
  unfold StickyStorage.look load
  rw [h.loads]
  exact h.held

theorem keeps_save (hload : storage.loadFails = false) (hsave : storage.saveFails = false)
    (key entity : String) (v : StickyValues) :
    (storage.perform (.save key entity v)).Keeps key entity v := by
  unfold perform save
  rw [hsave]
  refine ⟨hload, ?_⟩
  show ((storage.users.insert key _).get? key).bind _ = _
  rw [Dict.get?_insert, if_pos rfl, Option.bind_some, Dict.get?_insert, if_pos rfl]

end StickyStorage

namespace Context

variable {c : Context} {name : String} {s s' : Snapshot}

/-! ### Stored assignments among rules -/

section Recall

variable {N : NestedEvaluation} {spec : Spec} {base : Outcome}

variable (c s) in
/-- Of the rules that hold, those that stand before the first one with the given id. -/
def rulesAhead (rules : List Rule) (id : String) : List Rule :=
  (rules.filter (c.ruleHolds s)).takeWhile (·.id != id)

/-- Where a stored assignment's rule holds and the rules up to it are clear, the assignment is kept
if no rule ahead lets the user in, and otherwise one of these takes the user over. -/
theorem ruleRun_recall (hN : N.Refines (fun _ => True) c.own) (v : StickyValues)
    {before after : List Rule} {rule : Rule} (hclear : ∀ x ∈ before ++ [rule], c.Clear s N x)
    (hholds : c.ruleHolds s rule = true) (hid : rule.id = v.ruleId)
    (exposures : List SecondaryExposure) (last : Option Rule) :
    (∀ x ∈ c.rulesAhead s (before ++ rule :: after) v.ruleId, c.passes spec x = false) ∧
        c.RuleRun s N spec base (some v) (before ++ rule :: after) exposures last
          { outcome := base.withSticky v (s.details .persisted) } ∨
      ∃ x ∈ c.rulesAhead s (before ++ rule :: after) v.ruleId, c.passes spec x = true ∧
        ∃ exposures', c.RuleRun s N spec base (some v) (before ++ rule :: after) exposures last
          { outcome := { base.withRule x with exposures := exposures' }
            isAssignment := true } := by
  induction before generalizing exposures last with
  | nil =>
    obtain ⟨f, found, handover⟩ := hclear rule (by simp)
    obtain rfl := finding_eq hN found
    have hhit := StickyValues.filter_of_eq hid.symm
    refine .inl ⟨?_, .remembers found hholds (handover hholds) hhit⟩
    simp [rulesAhead, hholds, hid]
  | cons x before ih =>
    obtain ⟨f, found, handover⟩ := hclear x (by simp)
    obtain rfl := finding_eq hN found
    have hrest := ih (fun y hy => hclear y (List.mem_cons_of_mem _ hy))
    cases holds : c.ruleHolds s x with
    | false =>
      have hahead : c.rulesAhead s (x :: before ++ rule :: after) v.ruleId =
          c.rulesAhead s (before ++ rule :: after) v.ruleId := by
        simp [rulesAhead, holds]
      rw [hahead]
      refine (hrest (exposures ++ c.ruleExposures s x) last).imp ?_ ?_
      · exact fun ⟨hall, hrun⟩ => ⟨hall, .fails found holds hrun⟩
      · exact fun ⟨y, hy, hpasses, exposures', hrun⟩ =>
          ⟨y, hy, hpasses, exposures', .fails found holds hrun⟩
    | true =>
      by_cases hx : x.id = v.ruleId
      · have hhit := StickyValues.filter_of_eq hx.symm
        refine .inl ⟨?_, .remembers found holds (handover holds) hhit⟩
        simp [rulesAhead, holds, hx]
      · have hahead : c.rulesAhead s (x :: before ++ rule :: after) v.ruleId =
            x :: c.rulesAhead s (before ++ rule :: after) v.ruleId := by
          simp [rulesAhead, holds, hx]
        have hmiss : (some v).filter (·.ruleId == x.id) = none :=
          StickyValues.filter_of_ne (Ne.symm hx)
        rw [hahead]
        cases hpasses : c.passes spec x with
        | true =>
          exact .inr ⟨x, List.mem_cons_self, hpasses, _,
            .letsIn found holds (handover holds) hmiss hpasses⟩
        | false =>
          refine (hrest (exposures ++ c.ruleExposures s x) (some x)).imp ?_ ?_
          · exact fun ⟨hall, hrun⟩ => ⟨List.forall_mem_cons.2 ⟨hpasses, hall⟩,
              .turnsAway found holds (handover holds) hmiss hpasses hrun⟩
          · exact fun ⟨y, hy, hy', exposures', hrun⟩ => ⟨y, List.mem_cons_of_mem _ hy, hy',
              exposures', .turnsAway found holds (handover holds) hmiss hpasses hrun⟩

theorem evaluateRules_recall (hN : N.Refines (fun _ => True) c.own) (v : StickyValues)
    {before after : List Rule} {rule : Rule} (hrules : spec.rules = before ++ rule :: after)
    (hclear : ∀ x ∈ before ++ [rule], c.Clear s N x) (hholds : c.ruleHolds s rule = true)
    (hid : rule.id = v.ruleId) :
    (∀ x ∈ c.rulesAhead s spec.rules v.ruleId, c.passes spec x = false) ∧
        c.evaluateRules N s spec (some v) = .ok
          { outcome := (Outcome.ofSpec spec (s.details (.recognized s.source))).withSticky v
              (s.details .persisted) } ∨
      (∃ x ∈ c.rulesAhead s spec.rules v.ruleId, c.passes spec x = true) ∧
        ∃ o, c.evaluateRules N s spec (some v) = .ok { outcome := o, isAssignment := true } ∧
          o.details = s.details (.recognized s.source) := by
  unfold evaluateRules
  rw [hrules]
  rcases ruleRun_recall hN v hclear hholds hid [] none with
    ⟨hall, hrun⟩ | ⟨x, hx, hpasses, exposures, hrun⟩
  · exact .inl ⟨hall, decideRules_eq_ok_iff.2 hrun⟩
  · exact .inr ⟨⟨x, hx, hpasses⟩, _, decideRules_eq_ok_iff.2 hrun, rfl⟩

end Recall

/-! ### One evaluation with a storage -/

section Stickiness

variable {kind : EntityKind} {spec : Spec} {key : String} {requested : Bool}

/-- An evaluation that keeps assignments takes up a stored one, and stores that of a rule that lets
the user in. -/
theorem evaluate_keep {load : String → Option StickyAssignments} {r : Ruling}
    (hentrance : c.entrance kind name = .rules s spec)
    (hkeep : c.stickiness requested kind spec = .keep key)
    (hrun : c.evaluateRules (c.evaluateNested maxNesting) s spec ((load key).bind (·.get? name)) =
      .ok r) :
    c.evaluate (some load) requested kind name =
      { outcome := r.outcome
        change := if r.isAssignment then some (.save key name (r.outcome.toSticky c.now))
          else none } := by
  unfold evaluate
  simp only [hentrance, hkeep, hrun]

theorem evaluateWith_some (storage : StickyStorage) (requested : Bool) (kind : EntityKind)
    (name : String) :
    c.evaluateWith (some storage) requested kind name =
      ((c.evaluate (some storage.look) requested kind name).outcome,
        some (((c.evaluate (some storage.look) requested kind name).change.map
          storage.perform).getD storage)) := by
  unfold evaluateWith
  dsimp only [Option.map_some]
  cases (c.evaluate (some storage.look) requested kind name).change <;> rfl

theorem change_eq_none {load : String → Option StickyAssignments}
    (hentrance : c.entrance kind name = .rules s spec)
    (hkeep : c.stickiness requested kind spec = .none) :
    (c.evaluate (some load) requested kind name).change = none := by
  unfold evaluate
  simp only [hentrance, hkeep]

/-- An evaluation stores an assignment only where a rule lets the user in. -/
theorem of_change_eq_save {load : String → Option StickyAssignments} {entity : String}
    {v : StickyValues}
    (h : (c.evaluate (some load) requested kind name).change = some (.save key entity v)) :
    ∃ s spec r, c.entrance kind name = .rules s spec ∧
      c.stickiness requested kind spec = .keep key ∧
      c.evaluateRules (c.evaluateNested maxNesting) s spec ((load key).bind (·.get? name)) = .ok r ∧
      r.isAssignment = true ∧ entity = name ∧ v = r.outcome.toSticky c.now ∧
      (c.evaluate (some load) requested kind name).outcome = r.outcome := by
  cases hentrance : c.entrance kind name with
  | settled o => simp [evaluate, hentrance] at h
  | unreadable => simp [evaluate, hentrance] at h
  | rules s spec =>
    cases hkeep : c.stickiness requested kind spec with
    | none => simp [change_eq_none hentrance hkeep] at h
    | forget key' => simp [evaluate, hentrance, hkeep] at h
    | keep key' =>
      cases hrun : c.evaluateRules (c.evaluateNested maxNesting) s spec
          ((load key').bind (·.get? name)) with
      | error e => simp [evaluate, hentrance, hkeep, hrun] at h
      | ok r =>
        rw [evaluate_keep hentrance hkeep hrun] at h ⊢
        cases hr : r.isAssignment with
        | false => simp [hr] at h
        | true =>
          rw [if_pos hr] at h
          cases h
          exact ⟨s, spec, r, rfl, hkeep, hrun, hr, rfl, rfl, rfl⟩

/-- Where assignments of an experiment are kept once, every sticky evaluation keeps them, and any
other one leaves them alone. -/
theorem stickiness_of_keep (h : c.stickiness requested .experiment spec = .keep key)
    (requested' : Bool) :
    c.stickiness requested' .experiment spec =
      if spec.isSticky || requested' then .keep key else .none := by
  unfold stickiness at h ⊢
  cases hkey : c.user.storageKey? spec.idType with
  | none => simp [hkey] at h
  | some key' =>
    cases hsticky : spec.isSticky <;> cases requested <;> cases requested' <;>
      simp_all

end Stickiness

/-! ### Later evaluations -/

variable (c name s) in
/-- Of the rules of the experiment that hold, none before the first one with the given id lets the
user in. -/
def NoneAhead (id : String) : Prop :=
  ∀ spec, s.payload.dynamicConfigs.get? name = some (.parsed spec) →
    ∀ rule ∈ (c.seeing s).rulesAhead s spec.rules id, (c.seeing s).passes spec rule = false

section Later

variable {spec spec' : Spec} {rule : Rule} {storage : StickyStorage} {key : String}
  {v : StickyValues} {requested : Bool}

theorem evaluateWith_of_stickiness_eq_none (hforced : c.overrides.entries = [])
    (hspec : s.payload.dynamicConfigs.get? name = some (.parsed spec))
    (henabled : spec.enabled = true)
    (hkeep : (c.seeing s).stickiness requested .experiment spec = .none) :
    ((c.seeing s).evaluateWith (some storage) requested .experiment name).2 = some storage := by
  rw [evaluateWith_some, change_eq_none (entrance_experiment hforced hspec henabled) hkeep]
  rfl

/-- A sticky evaluation under other shares keeps the assignment if no rule ahead lets the user in,
and otherwise does not. -/
theorem evaluateWith_of_staysInReach (hforced : c.overrides.entries = [])
    (hreach : c.StaysInReach name s rule) (h : s.SameButShares name s')
    (hspec' : s'.payload.dynamicConfigs.get? name = some (.parsed spec'))
    (henabled : spec'.enabled = true)
    (hkeep : (c.seeing s').stickiness requested .experiment spec' = .keep key)
    (hid : rule.id = v.ruleId) (hkeeps : storage.Keeps key name v) :
    (c.NoneAhead name s' rule.id ∧
      (c.seeing s').evaluateWith (some storage) requested .experiment name =
        ((Outcome.ofSpec spec' (s'.details (.recognized s'.source))).withSticky v
          (s'.details .persisted), some storage)) ∨
    (¬ c.NoneAhead name s' rule.id ∧
      ((c.seeing s').evaluateWith (some storage) requested .experiment name).1.details.reason =
        .recognized s'.source) := by
  have hentrance := entrance_experiment hforced hspec' henabled
  obtain ⟨before, rule', after, hrules, hid', hholds, hclear⟩ := hreach s' spec' h hspec'
  rw [evaluateWith_some]
  rcases evaluateRules_recall ((c.seeing s').refines_own (Nat.le_succ maxNesting)) v hrules hclear
    hholds (hid'.trans hid) with ⟨hall, hrun⟩ | ⟨⟨x, hx, hpasses⟩, o, hrun, ho⟩
  · refine .inl ⟨fun spec₁ hspec₁ => ?_, ?_⟩
    · rw [hspec'] at hspec₁
      cases hspec₁
      rw [hid]
      exact hall
    · rw [← hkeeps.look] at hrun
      rw [evaluate_keep hentrance hkeep hrun]
      rfl
  · refine .inr ⟨fun hnone => ?_, ?_⟩
    · rw [hnone spec' hspec' x (hid ▸ hx)] at hpasses
      cases hpasses
    · rw [← hkeeps.look] at hrun
      rw [evaluate_keep hentrance hkeep hrun]
      exact congrArg Details.reason ho

end Later

end Context

/-! ### Runs -/

/-- A call for the experiment: the snapshot at the time, and whether assignments are asked for. -/
structure StickyCall where
  snapshot : Snapshot
  requested : Bool

namespace Context

variable {c : Context} {name : String} {s : Snapshot} {spec : Spec} {rule : Rule}
  {storage : StickyStorage} {key : String} {v : StickyValues} {requested : Bool}

variable (c) in
/-- The outcomes of calls for an experiment, one after the other, with one storage. -/
def stickyRun (name : String) : Option StickyStorage → List StickyCall → List (StickyCall × Outcome)
  | _, [] => []
  | storage, call :: rest =>
    let e := (c.seeing call.snapshot).evaluateWith storage call.requested .experiment name
    (call, e.1) :: stickyRun name e.2 rest

/-- The outcome is that of the rule, taken up again. -/
def Persists (spec : Spec) (rule : Rule) (x : StickyCall × Outcome) : Prop :=
  (spec.isSticky || x.1.requested) = true →
    x.2.IsOf rule ∧ x.2.details = x.1.snapshot.details .persisted

theorem stickyRun_persists_iff (hforced : c.overrides.entries = [])
    (hspec : s.payload.dynamicConfigs.get? name = some (.parsed spec))
    (henabled : spec.enabled = true)
    (hkeep : c.stickiness requested .experiment spec = .keep key)
    (hreach : c.StaysInReach name s rule) {o : Outcome} (ho : o.IsOf rule)
    (hkeeps : storage.Keeps key name (o.toSticky c.now)) {later : List StickyCall}
    (hlater : ∀ call ∈ later, s.SameButShares name call.snapshot) :
    (∀ x ∈ c.stickyRun name (some storage) later, Persists spec rule x) ↔
      ∀ call ∈ later, (spec.isSticky || call.requested) = true →
        c.NoneAhead name call.snapshot rule.id := by
  induction later with
  | nil => simp [stickyRun]
  | cons call rest ih =>
    rw [List.forall_mem_cons] at hlater
    have hrest := ih hlater.2
    obtain ⟨spec', hspec', hsame⟩ := hlater.1.spec hspec
    have hstick : (c.seeing call.snapshot).stickiness call.requested .experiment spec' =
        if spec.isSticky || call.requested then .keep key else .none := by
      rw [hsame.rest]
      exact stickiness_of_keep hkeep call.requested
    have henabled' : spec'.enabled = true := by
      rw [hsame.rest]
      exact henabled
    unfold stickyRun
    rw [List.forall_mem_cons, List.forall_mem_cons]
    cases hsticky : spec.isSticky || call.requested with
    | false =>
      -- A call that is not sticky leaves the storage alone, and neither side asks anything of it.
      rw [hsticky] at hstick
      rw [evaluateWith_of_stickiness_eq_none hforced hspec' henabled' hstick, hrest]
      refine and_congr_left fun _ => ⟨fun _ h => ?_, fun _ h => ?_⟩
      · cases h
      · rw [hsticky] at h
        cases h
    | true =>
      rw [hsticky, if_pos rfl] at hstick
      rcases evaluateWith_of_staysInReach hforced hreach hlater.1 hspec' henabled' hstick
        ho.ruleId.symm hkeeps with ⟨hnone, heval⟩ | ⟨hsome, hreason⟩
      · rw [heval, hrest]
        refine and_congr_left fun _ => ⟨fun _ _ => hnone, fun _ _ => ⟨?_, rfl⟩⟩
        exact ⟨ho.ruleId, ho.value, ho.members, ho.groupName⟩
      · -- From here on the storage may hold another assignment, but both sides have failed.
        refine iff_of_false ?_ fun h => hsome (h.1 rfl)
        rintro ⟨h, -⟩
        rw [(h hsticky).2] at hreason
        cases hreason

/-- Once a rule of an experiment has let the user in and the assignment was stored, every sticky
evaluation under other shares takes it up again, exactly as long as no rule ahead of it lets the
user in. Of the rules ahead only those count that hold, up to the first with the same id. -/
theorem persisted_iff_none_ahead {entity : String} (hforced : c.overrides.entries = [])
    (hload : storage.loadFails = false) (hsave : storage.saveFails = false)
    (hspec : s.payload.dynamicConfigs.get? name = some (.parsed spec))
    (hfirst : ((c.seeing s).evaluate (some storage.look) requested .experiment name).change =
      some (.save key entity v))
    {later : List StickyCall} (hlater : ∀ call ∈ later, s.SameButShares name call.snapshot) :
    let first := (c.seeing s).evaluateWith (some storage) requested .experiment name
    ∃ rule ∈ spec.rules, (c.seeing s).ruleHolds s rule = true ∧
      (c.seeing s).passes spec rule = true ∧ first.1.IsOf rule ∧
      ((∀ x ∈ c.stickyRun name first.2 later, (spec.isSticky || x.1.requested) = true →
          x.2.IsOf rule ∧ x.2.details = x.1.snapshot.details .persisted) ↔
        ∀ call ∈ later, (spec.isSticky || call.requested) = true →
          c.NoneAhead name call.snapshot rule.id) := by
  intro first
  obtain ⟨s₁, spec₁, r, hentrance, hkeep, hrun, hr, rfl, rfl, ho⟩ := of_change_eq_save hfirst
  obtain ⟨rfl, rfl, henabled⟩ := of_entrance_experiment hforced hspec hentrance
  obtain ⟨rule, hmem, hholds, hpasses, hof, hreach⟩ :=
    staysInReach_of_isAssignment hforced hentrance hspec hrun hr
  have heval : first = (r.outcome,
      some (storage.perform (.save key entity (r.outcome.toSticky c.now)))) := by
    show evaluateWith _ _ _ _ _ = _
    rw [evaluateWith_some, hfirst, ho]
    rfl
  rw [heval]
  refine ⟨rule, hmem, hholds, hpasses, hof, ?_⟩
  exact stickyRun_persists_iff hforced hspec henabled hkeep hreach hof
    (StickyStorage.keeps_save hload hsave key entity _) hlater

end Context

/-! ### Shares that open and close -/

namespace RaisedShare

/-- An experiment with two groups, given the shares of users that they let in. -/
def colors (control test : Binary64) : Spec :=
  { salt := "colors", defaultValue := .object ∅, enabled := true, isActive := some true
    rules := [{ id := "control", passPercentage := control
                returnValue := .object (.ofList [("color", .text "grey")])
                groupName := some "Control" },
      { id := "test", passPercentage := test
        returnValue := .object (.ofList [("color", .text "blue")]), groupName := some "Test" }] }

/-- The specs with this experiment. -/
def specs (control test : Binary64) : Snapshot :=
  { payload := { dynamicConfigs := .ofList [("colors", .parsed (colors control test))] }
    idLists := ∅, source := .network, lcut := 1, receivedAt := 1 }

theorem sameButShares (control test control' test' : Binary64) :
    (specs control test).SameButShares "colors" (specs control' test') where
  idLists := rfl
  conditions := rfl
  featureGates := rfl
  layers := rfl
  others other hother := by
    show ((∅ : Dict (Entry Spec)).insert "colors" _).get? other =
      ((∅ : Dict (Entry Spec)).insert "colors" _).get? other
    rw [Dict.get?_insert, Dict.get?_insert, if_neg hother, if_neg hother]
  experiment := ⟨colors control test, colors control' test', rfl, rfl,
    .cons rfl (.cons rfl .nil), rfl⟩

/-- No one. -/
def closed : Binary64 := .ofInt 0

/-- Everyone. -/
def full : Binary64 := .ofInt 100

/-- A user whose sticky evaluations are asked for. -/
def visitor : Context :=
  { user := .withUserId "u", snapshot := none, overrides := {}, now := 1 }

/-- The storage key and the entity that a change stores an assignment for. -/
def stored? : StickyChange → Option (String × String)
  | .save key entity _ => some (key, entity)
  | .delete _ _ => none

theorem exists_save {change : Option StickyChange} {key entity : String}
    (h : change.bind stored? = some (key, entity)) : ∃ v, change = some (.save key entity v) := by
  obtain ⟨_ | _, rfl, h⟩ := Option.bind_eq_some_iff.1 h
  · cases h
    exact ⟨_, rfl⟩
  · cases h

/-- The first evaluation, which lets the user into the second group. -/
def first : Outcome × Option StickyStorage :=
  (visitor.seeing (specs closed full)).evaluateWith (some {}) true .experiment "colors"

theorem first_saves : ∃ v,
    ((visitor.seeing (specs closed full)).evaluate (some (StickyStorage.look {})) true .experiment
      "colors").change = some (.save "u:userID" "colors" v) :=
  exists_save (by decide +kernel)

end RaisedShare

open RaisedShare in
/-- A group that is closed keeps the users who are in it. -/
theorem persisted_iff_none_ahead_of_closed :
    ∃ rule ∈ (colors closed full).rules, first.1.IsOf rule ∧
      ∀ x ∈ visitor.stickyRun "colors" first.2 [⟨specs closed closed, true⟩],
        x.2.IsOf rule ∧ x.2.details = x.1.snapshot.details .persisted := by
  have hspec : (specs closed full).payload.dynamicConfigs.get? "colors" =
      some (.parsed (colors closed full)) := rfl
  have hlater : ∀ call ∈ ([⟨specs closed closed, true⟩] : List StickyCall),
      (specs closed full).SameButShares "colors" call.snapshot := by
    rw [List.forall_mem_singleton]
    exact sameButShares closed full closed closed
  obtain ⟨v, hfirst⟩ := first_saves
  obtain ⟨rule, hmem, -, -, hof, hiff⟩ :=
    Context.persisted_iff_none_ahead rfl rfl rfl hspec hfirst hlater
  have hid : rule.id = "test" := by
    rw [← hof.ruleId]
    decide +kernel
  refine ⟨rule, hmem, hof, fun x hx => hiff.2 ?_ x hx ?_⟩
  · rw [List.forall_mem_singleton]
    intro _ spec hspec
    cases hspec
    rw [hid]
    decide +kernel
  · rw [List.mem_singleton.1 hx]
    exact Bool.or_true _

open RaisedShare in
/-- Not every stored assignment is taken up again under other shares: a group that is opened ahead
takes over users who are in another one. -/
theorem not_forall_persisted :
    ¬ ∀ (c : Context) (name : String) (s : Snapshot) (storage : StickyStorage) (key : String)
      (v : StickyValues) (later : List StickyCall),
      c.overrides.entries = [] → storage.loadFails = false → storage.saveFails = false →
      ((c.seeing s).evaluate (some storage.look) true .experiment name).change =
        some (.save key name v) →
      (∀ call ∈ later, s.SameButShares name call.snapshot ∧ call.requested = true) →
      ∀ x ∈ c.stickyRun name
          ((c.seeing s).evaluateWith (some storage) true .experiment name).2 later,
        x.2.details.reason = .persisted := by
  intro h
  obtain ⟨v, hfirst⟩ := first_saves
  have hlater : ∀ call ∈ ([⟨specs full full, true⟩] : List StickyCall),
      (specs closed full).SameButShares "colors" call.snapshot ∧ call.requested = true := by
    rw [List.forall_mem_singleton]
    exact ⟨sameButShares closed full full full, rfl⟩
  have hall := h visitor "colors" (specs closed full) {} _ v _ rfl rfl rfl hfirst hlater
  have hreasons : (visitor.stickyRun "colors" first.2 [⟨specs full full, true⟩]).map
      (·.2.details.reason) = [.recognized .network] := by decide +kernel
  have hmem : Reason.recognized .network ∈
      (visitor.stickyRun "colors" first.2 [⟨specs full full, true⟩]).map (·.2.details.reason) := by
    rw [hreasons]
    exact List.mem_singleton_self _
  obtain ⟨x, hx, hreason⟩ := List.mem_map.1 hmem
  rw [hall x hx] at hreason
  cases hreason

end Rollout
