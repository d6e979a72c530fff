import Rollout.Proofs.StickyRuns

/-!
# Reuse of stored assignments

A stored assignment is an outcome written down and read again (`Outcome.toSticky`,
`Outcome.withSticky`). What is read is the outcome of the rule that let the user in, but for the
flag of experiment groups, which is not stored: it is taken from whether there is a group. So an
evaluation is reproduced exactly if its flag says the same (`Context.reuse_eq_iff`).
-/

namespace Rollout

namespace Outcome

/-- The outcome, as one that was stored earlier. -/
def asPersisted (o : Outcome) : Outcome := { o with details.reason := .persisted }

/-- What is made of the outcome when it is taken up from the storage. -/
def recalled (o : Outcome) : Outcome :=
  { o.asPersisted with isExperimentGroup := o.groupName.isSome }

@[simp] theorem asPersisted_isExperimentGroup (o : Outcome) :
    o.asPersisted.isExperimentGroup = o.isExperimentGroup := rfl

theorem recalled_eq_asPersisted_iff (o : Outcome) :
    o.recalled = o.asPersisted ↔ o.isExperimentGroup = o.groupName.isSome := by
  constructor
  · intro h
    exact (congrArg isExperimentGroup h).symm
  · intro h
    unfold recalled
    rw [← h]
    rfl

end Outcome

namespace Context

variable {c : Context} {s : Snapshot} {N : NestedEvaluation} {spec : Spec} {base : Outcome}
  {stored : Option StickyValues} {rules : List Rule} {exposures : List SecondaryExposure}
  {last : Option Rule} {r : Ruling} {kind : EntityKind} {name : String} {key : String}
  {requested : Bool}

/-! ### One run over rules -/

theorem RuleRun.exists_of_isAssignment
    (h : c.RuleRun s N spec base stored rules exposures last r) (hr : r.isAssignment = true) :
    ∃ rule exposures', r.outcome = { base.withRule rule with exposures := exposures' } := by
  induction h with
  | exhausted => cases hr
  | fails _ _ _ ih => exact ih hr
  | handsOver => cases hr
  | remembers => cases hr
  | letsIn => exact ⟨_, _, rfl⟩
  | turnsAway _ _ _ _ _ _ ih => exact ih hr

/-- Where a rule lets the user in, an assignment with its id is taken up. It may be taken up at an
earlier rule that has the same id and turned the user away. -/
theorem RuleRun.recall (h : c.RuleRun s N spec base stored rules exposures last r)
    (hr : r.isAssignment = true) {v : StickyValues} (hv : v.ruleId = r.outcome.ruleId) :
    c.RuleRun s N spec base (some v) rules exposures last
      { outcome := base.withSticky v (s.details .persisted) } := by
  induction h with
  | exhausted => cases hr
  | fails found holds _ ih => exact .fails found holds (ih hr hv)
  | handsOver => cases hr
  | remembers => cases hr
  | letsIn found holds handover _ _ =>
    exact .remembers found holds handover (StickyValues.filter_of_eq hv)
  | @turnsAway rule _ _ _ _ _ found holds handover _ passes _ ih =>
    by_cases hid : v.ruleId = rule.id
    · exact .remembers found holds handover (StickyValues.filter_of_eq hid)
    · have hmiss := StickyValues.filter_of_ne hid
      exact .turnsAway found holds handover hmiss passes (ih hr hv)

/-- What is read of an assignment is what was written, but for the flag of experiment groups. -/
theorem withSticky_toSticky {o : Outcome} {rule : Rule} {d : Details}
    (h : o = { (Outcome.ofSpec spec d).withRule rule with exposures }) (time : Nat) :
    (Outcome.ofSpec spec d).withSticky (o.toSticky time) { d with reason := .persisted } =
      o.recalled := by
  rw [h]
  rfl

/-! ### Two evaluations -/

variable (c) in
/-- With nothing stored, a rule of the entity lets the user in, and the outcome is what would be
stored under the key. -/
def Assigns (requested : Bool) (kind : EntityKind) (name key : String) (o : Outcome) : Prop :=
  (c.evaluate (some fun _ => none) requested kind name).change =
    some (.save key name (o.toSticky c.now))

variable (c) in
/-- The context at another time. -/
def atTime (now : Nat) : Context := { c with now }

theorem entrance_atTime (now : Nat) :
    (c.atTime now).entrance kind name = c.entrance kind name := rfl

theorem assigns_of_run (hentrance : c.entrance kind name = .rules s spec)
    (hkeep : c.stickiness requested kind spec = .keep key)
    (hrun : c.evaluateRules (c.evaluateNested maxNesting) s spec stored = .ok r)
    (hr : r.isAssignment = true) : c.Assigns requested kind name key r.outcome := by
  have hfresh : c.evaluateRules (c.evaluateNested maxNesting) s spec none = .ok r :=
    decideRules_eq_ok_iff.2 ((decideRules_eq_ok_iff.1 hrun).forget hr)
  have heval := @evaluate_keep c name s kind spec key requested (fun _ => none) r hentrance hkeep
    hfresh
  unfold Assigns
  rw [heval, hr]
  rfl

/-- Where the assignment would be made again, a stored one is taken up instead, and the storage is
left alone. -/
theorem evaluateWith_of_assigns {storage : StickyStorage} {o : Outcome} {v : StickyValues}
    (hentrance : c.entrance kind name = .rules s spec)
    (hassigns : c.Assigns requested kind name key o) (hkeeps : storage.Keeps key name v)
    (hv : v.ruleId = o.ruleId) :
    c.evaluateWith (some storage) requested kind name =
      ((Outcome.ofSpec spec (s.details (.recognized s.source))).withSticky v
        (s.details .persisted), some storage) := by
  obtain ⟨s', spec', r, hentrance', hkeep, hrun, hr, -, ho, -⟩ := of_change_eq_save hassigns
  rw [hentrance] at hentrance'
  cases hentrance'
  have hid : v.ruleId = r.outcome.ruleId := hv.trans (congrArg StickyValues.ruleId ho)
  have hrecall : c.evaluateRules (c.evaluateNested maxNesting) s spec
      ((storage.look key).bind (·.get? name)) = .ok
        { outcome := (Outcome.ofSpec spec (s.details (.recognized s.source))).withSticky v
            (s.details .persisted) } := by
    rw [hkeeps.look]
    exact decideRules_eq_ok_iff.2 ((decideRules_eq_ok_iff.1 hrun).recall hr hid)
  rw [evaluateWith_some, evaluate_keep hentrance hkeep hrecall]
  rfl

/-- An evaluation that stores an assignment, made once more where it would be made again with
nothing stored, comes out the same and says that it was stored, but for the flag of experiment
groups. The flag is the same exactly if it said before whether there is a group. -/
theorem reuse_eq_iff {storage : StickyStorage} {entity : String} {v : StickyValues}
    (hload : storage.loadFails = false) (hsave : storage.saveFails = false)
    (hfirst : (c.evaluate (some storage.look) requested kind name).change =
      some (.save key entity v)) :
    let first := c.evaluateWith (some storage) requested kind name
    c.Assigns requested kind name key first.1 ∧
    ∀ now requested', (c.atTime now).Assigns requested' kind name key first.1 →
      let second := (c.atTime now).evaluateWith first.2 requested' kind name
      second = (first.1.recalled, first.2) ∧
      (second.1 = first.1.asPersisted ↔
        first.1.isExperimentGroup = first.1.groupName.isSome) := by
  intro first
  obtain ⟨s, spec, r, hentrance, hkeep, hrun, hr, rfl, rfl, ho⟩ := of_change_eq_save hfirst
  have hstep : first = (r.outcome,
      some (storage.perform (.save key entity (r.outcome.toSticky c.now)))) := by
    show evaluateWith _ _ _ _ _ = _
    rw [evaluateWith_some, hfirst, ho]
    rfl
  have hone : first.1 = r.outcome := by rw [hstep]
  have hassigned : c.Assigns requested kind entity key first.1 := by
    rw [hone]
    exact assigns_of_run hentrance hkeep hrun hr
  refine ⟨hassigned, fun now requested' hagain => ?_⟩
  have hkeeps := StickyStorage.keeps_save hload hsave key entity (r.outcome.toSticky c.now)
  have hid : (r.outcome.toSticky c.now).ruleId = first.1.ruleId := by
    rw [hone]
    rfl
  have hsecond := evaluateWith_of_assigns ((entrance_atTime now).trans hentrance) hagain hkeeps hid
  obtain ⟨rule, exposures, hrule⟩ :=
    (decideRules_eq_ok_iff.1 hrun).exists_of_isAssignment hr
  have hread := withSticky_toSticky hrule c.now
  have heq : (c.atTime now).evaluateWith first.2 requested' kind entity =
      (first.1.recalled, first.2) := by
    rw [show first.2 = _ from congrArg Prod.snd hstep, hone, ← hread]
    exact hsecond
  intro second
  rw [show second = _ from heq]
  exact ⟨rfl, first.1.recalled_eq_asPersisted_iff⟩

end Context

/-! ### A group with and without the flag -/

namespace FlaggedGroup

/-- A sticky experiment with one group, given its flag. -/
def colors (flag : Option Bool) : Spec :=
  { salt := "colors", defaultValue := .object ∅, enabled := true, isActive := some true
    isSticky := true
    rules := [{ id := "test", passPercentage := .ofInt 100
                returnValue := .object (.ofList [("color", .text "blue")])
                groupName := some "Test", isExperimentGroup := flag }] }

/-- The specs with this experiment. -/
def specs (flag : Option Bool) : Snapshot :=
  { payload := { dynamicConfigs := .ofList [("colors", .parsed (colors flag))] }
    idLists := ∅, source := .network, lcut := 1, receivedAt := 1 }

/-- A user who sees them. -/
def visitor (flag : Option Bool) : Context :=
  { user := .withUserId "u", snapshot := some (specs flag), overrides := {}, now := 1 }

/-- The first evaluation for the user. -/
def first (flag : Option Bool) : Outcome × Option StickyStorage :=
  (visitor flag).evaluateWith (some {}) false .experiment "colors"

/-- The second one, with the storage that the first one leaves. -/
def second (flag : Option Bool) : Outcome × Option StickyStorage :=
  (visitor flag).evaluateWith (first flag).2 false .experiment "colors"

theorem saves (flag : Option Bool) : ∃ v,
    ((visitor flag).evaluate (some (StickyStorage.look {})) false .experiment "colors").change =
      some (.save "u:userID" "colors" v) := by
  rcases flag with _ | _ | _ <;> exact RaisedShare.exists_save (by decide +kernel)

end FlaggedGroup

open FlaggedGroup in
/-- The outcome of a flagged group is reproduced. -/
theorem reuse_eq_iff_of_flagged :
    (first (some true)).1.ruleId = "test" ∧
      (second (some true)).1 = (first (some true)).1.asPersisted := by
  obtain ⟨v, hsaves⟩ := saves (some true)
  obtain ⟨hassigns, hagain⟩ := Context.reuse_eq_iff rfl rfl hsaves
  obtain ⟨-, hiff⟩ := hagain 1 false hassigns
  exact ⟨by decide +kernel, hiff.2 (by decide +kernel)⟩

open FlaggedGroup in
/-- Not every stored assignment is reproduced: without the flag a group counts as flagged once it is
taken up again. -/
theorem not_forall_reuse_eq :
    ¬ ∀ (c : Context) (kind : EntityKind) (name : String) (requested : Bool)
      (storage : StickyStorage) (key : String) (v : StickyValues), c.overrides.entries = [] →
      storage.loadFails = false → storage.saveFails = false →
      (c.evaluate (some storage.look) requested kind name).change = some (.save key name v) →
      let first := c.evaluateWith (some storage) requested kind name
      (c.evaluateWith first.2 requested kind name).1 = first.1.asPersisted := by
  intro h
  obtain ⟨v, hsaves⟩ := saves none
  have heq : (second none).1 = (first none).1.asPersisted :=
    h (visitor none) .experiment "colors" false {} _ v rfl rfl rfl hsaves
  have hflag : (second none).1.isExperimentGroup = (first none).1.isExperimentGroup := by
    rw [heq, Outcome.asPersisted_isExperimentGroup]
  have hdiffer : (second none).1.isExperimentGroup ≠ (first none).1.isExperimentGroup := by
    decide +kernel
  exact hdiffer hflag

end Rollout
