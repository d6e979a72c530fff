import Rollout.Proofs.StickySlots

/-!
# Calls of a storage

`Context.evaluate` is handed the stored assignments and answers with the change to make to them.
Here an evaluation calls a storage that the host implements (`StickyHost`), whose operations may
fail and may do to the state of the host what they like. It loads the assignments when it comes to
the first rule that can recall one, remembers what it has loaded, and writes as it goes along
(`Context.run`). A nested evaluation goes the same way, but for a flag.

Nested evaluations turn out to make no calls (`runNested_eq`), and a storage in memory ends up as
`Context.evaluateWith` says (`run_inMemory`). Of all that a storage is asked in one evaluation
there is at most one write, in the slot of the entity: an assignment is saved if the entity is
sticky for the evaluation, and one is deleted if stickiness is asked for but the entity is not
active. If nothing of use was loaded then the outcome is the one without a storage (`run_confined`).
-/

namespace Rollout

/-! ### Storages of the host -/

/-- A storage of assignments that the host implements. Loading may fail, and writes answer whether
they succeeded. -/
structure StickyHost (σ : Type) where
  load : String → σ → Except Unit (Option StickyAssignments) × σ
  save : String → String → StickyValues → σ → Bool × σ
  delete : String → String → σ → Bool × σ

/-- A call of a storage, with the answer. -/
inductive StorageCall where
  | load (key : String) (answer : Except Unit (Option StickyAssignments))
  | write (change : StickyChange) (succeeded : Bool)

/-- A storage in the course of an evaluation. -/
structure StorageCourse (σ : Type) where
  /-- The state of the host. -/
  state : σ
  /-- What has been loaded, by key. -/
  loaded : Dict (Option StickyAssignments) := ∅
  /-- The calls so far. -/
  calls : List StorageCall := []

/-- The changes that it was tried to make. -/
def StorageCourse.writes {σ : Type} (r : StorageCourse σ) : List StickyChange :=
  r.calls.filterMap fun
    | .load _ _ => none
    | .write change _ => some change

/-- The call brings an assignment of the entity that a rule of its spec has made. -/
def StorageCall.Brings (name : String) (spec : Spec) : StorageCall → Prop
  | .load _ answer => ∃ values, answer.toOption.join.bind (·.get? name) = some values ∧
      ∃ rule ∈ spec.rules, rule.id = values.ruleId
  | .write _ _ => False

/-- What a change does to the assignments of its key. -/
def StickyChange.revise : StickyChange → StickyAssignments → StickyAssignments
  | .save _ entity values => (·.insert entity values)
  | .delete _ entity => (·.erase entity)

/-- Whether a change is made to what has been loaded. A deletion is even if the storage fails. -/
def StickyChange.shows (succeeded : Bool) : StickyChange → Bool
  | .save _ _ _ => succeeded
  | .delete _ _ => true

namespace StickyHost

variable {σ : Type} (h : StickyHost σ)

/-- Make a change. -/
def perform : StickyChange → σ → Bool × σ
  | .save key entity values => h.save key entity values
  | .delete key entity => h.delete key entity

/-- The assignments under a key. The storage is asked for each key once. -/
def fetch (key : String) : StateM (StorageCourse σ) (Option StickyAssignments) := fun r =>
  match r.loaded.get? key with
  | some found => (found, r)
  | none =>
    let (answer, state) := h.load key r.state
    let found := answer.toOption.join
    (found, { state, loaded := r.loaded.insert key found, calls := r.calls ++ [.load key answer] })

/-- The assignment of an entity under a key, if it is one of the rule. -/
def assignment (key entity ruleId : String) : StateM (StorageCourse σ) (Option StickyValues) := do
  return ((← h.fetch key).bind (·.get? entity)).filter (·.ruleId == ruleId)

/-- Make a change, which may fail. -/
def write (change : StickyChange) : StateM (StorageCourse σ) Unit := fun r =>
  let (succeeded, state) := h.perform change r.state
  let loaded := match r.loaded.get? change.slot.1 with
    | some (some assignments) =>
      if change.shows succeeded then
        r.loaded.insert change.slot.1 (some (change.revise assignments))
      else r.loaded
    | _ => r.loaded
  ((), { state, loaded, calls := r.calls ++ [.write change succeeded] })

/-- A storage in memory. -/
def inMemory : StickyHost StickyStorage where
  load key x := (x.load key, x)
  save key entity values x := x.save key entity values
  delete key entity x := x.delete key entity

/-- What the storage answers when it is asked for a key. -/
def look (x : σ) (key : String) : Option StickyAssignments := (h.load key x).1.toOption.join

/-- The storage after it has been asked for nothing but one key. -/
def answered (key : String) (x : σ) : StorageCourse σ := (h.fetch key { state := x }).2

theorem look_inMemory (x : StickyStorage) : inMemory.look x = x.look := by
  funext key
  show (x.load key).toOption.join = _
  unfold StickyStorage.look
  cases x.load key <;> rfl

end StickyHost

/-! ### Evaluations that call a storage -/

/-- A computation that may call a storage and may stop. -/
abbrev Calling (σ : Type) := ExceptT Halt (StateM (StorageCourse σ))

/-- A result that is there without a call. -/
def settle {σ α : Type} (result : Except Halt α) : Calling σ α := ExceptT.mk (pure result)

namespace Context

variable {σ : Type} (c : Context) (nested : EntityKind → String → Calling σ Outcome) (s : Snapshot)

/-- Evaluate a condition, after the gate that it asks for. -/
def runCondition (condition : Condition) : Calling σ Finding :=
  match condition.gate? with
  | none => settle (c.evaluateCondition (fun _ _ => .error .unsupported) s condition)
  | some gate => do
    let outcome ← nested .gate gate
    settle (c.evaluateCondition (fun _ _ => .ok outcome) s condition)

mutual

/-- Evaluate a tree of conditions. -/
def runNode : ConditionNode → Calling σ Finding
  | .all children => runAll children
  | .any children => runAny children
  | .ref key => match s.payload.conditions.get? key with
    | none => settle (.error .unsupported)
    | some condition => c.runCondition nested s condition
  | .leaf condition => c.runCondition nested s condition

def runAll : List ConditionNode → Calling σ Finding
  | [] => settle (.ok { holds := true })
  | n :: rest => do
    let f ← runNode n
    if f.holds then return f.and (← runAll rest) else return f

def runAny : List ConditionNode → Calling σ Finding
  | [] => settle (.ok { holds := false })
  | n :: rest => do
    let f ← runNode n
    if f.holds then return f
    else
      let r ← runAny rest
      return { holds := r.holds, exposures := f.exposures ++ r.exposures }

end

/-- Evaluate the conditions of a rule. -/
def runEach : List ConditionNode → Calling σ Finding
  | [] => settle (.ok { holds := true })
  | n :: rest => do
    let f ← c.runNode nested s n
    return f.and (← runEach rest)

/-- The outcome of a rule that hands over to an experiment. -/
def runHandover (spec : Spec) (rule : Rule) (exposures : List SecondaryExposure) (base : Outcome) :
    Calling σ (Option Outcome) :=
  match s.handover? rule with
  | none => settle (.ok none)
  | some target => do
    let outcome ← nested .experiment target.1
    return some (handedOver spec base exposures target outcome)

/-- Recall the assignment of an entity, if assignments are kept, where and under a key. -/
def recallAt (place : Option (StickyHost σ × String)) (name ruleId : String) :
    StateM (StorageCourse σ) (Option StickyValues) :=
  match place with
  | none => return none
  | some (h, key) => h.assignment key name ruleId

/-- Store the assignment that is an outcome, if assignments are kept. -/
def keepAt (place : Option (StickyHost σ × String)) (name : String) (outcome : Outcome) :
    StateM (StorageCourse σ) Unit :=
  match place with
  | none => return ()
  | some (h, key) => h.write (.save key name (outcome.toSticky c.now))

/-- Go through rules. -/
def runRules (spec : Spec) (base : Outcome) (place : Option (StickyHost σ × String))
    (name : String) :
    List Rule → List SecondaryExposure → Option Rule → Calling σ Outcome
  | [], exposures, last => settle (.ok (undecided spec last exposures base))
  | rule :: rest, exposures, last => do
    let found ← c.runEach nested s rule.conditions
    let exposures := exposures ++ found.exposures
    if !found.holds then runRules spec base place name rest exposures last
    else
      match ← runHandover nested s spec rule exposures base with
      | some outcome => return outcome
      | none =>
        match ← recallAt place name rule.id with
        | some values => return base.withSticky values (s.details .persisted)
        | none =>
          if c.passes spec rule then
            let outcome := { base.withRule rule with exposures }
            c.keepAt place name outcome
            return outcome
          else runRules spec base place name rest exposures (some rule)

variable (storage : Option (StickyHost σ)) (requested : Bool)

/-- Where assignments of an entity are kept, if they are. Those of an inactive one are deleted. -/
def findPlace (kind : EntityKind) (name : String) (spec : Spec) :
    StateM (StorageCourse σ) (Option (StickyHost σ × String)) := do
  match storage with
  | none => return none
  | some h => match c.stickiness requested kind spec with
    | .none => return none
    | .forget key =>
      h.write (.delete key name)
      return none
    | .keep key => return some (h, key)

/-- Evaluate an entity, which may be the one that was asked for. -/
def runEntity (isAsked : Bool) (kind : EntityKind) (name : String) : Calling σ Outcome :=
  match c.entrance kind name with
  | .settled outcome => settle (.ok outcome)
  | .unreadable => settle (.error .unsupported)
  | .rules s spec => do
    let place ← if isAsked then c.findPlace storage requested kind name spec else pure none
    c.runRules nested s spec (Outcome.ofSpec spec (s.details (.recognized s.source))) place name
      spec.rules [] none

/-- Evaluate an entity from within another evaluation, with a budget for further nesting. -/
def runNested : Nat → EntityKind → String → Calling σ Outcome
  | 0 => fun _ _ => settle (.error .depthExceeded)
  | budget + 1 => c.runEntity (runNested budget) storage requested false

/-- The result of an evaluation, which never fails. -/
def concluded (result : Except Halt Outcome) : Outcome :=
  match result with
  | .ok outcome => outcome
  | .error halt => c.halted halt

/-- Evaluate an entity, calling a storage if there is one. -/
def run (kind : EntityKind) (name : String) : StateM (StorageCourse σ) Outcome := fun r =>
  let (result, r) := c.runEntity (c.runNested storage requested maxNesting) storage requested true
    kind name r
  (c.concluded result, r)

end Context

/-! ### Nested evaluations -/

/-- The answers, without a call. -/
def NestedEvaluation.settled {σ : Type} (N : NestedEvaluation) (kind : EntityKind) (name : String) :
    Calling σ Outcome :=
  settle (N kind name)

theorem ok_bind {ε α β : Type} (a : α) (f : α → Except ε β) : .ok a >>= f = f a := rfl

theorem error_bind {ε α β : Type} (e : ε) (f : α → Except ε β) : .error e >>= f = .error e := rfl

theorem settle_ok {σ α β : Type} (a : α) (f : α → Calling σ β) : settle (.ok a) >>= f = f a := rfl

theorem lift_bind_apply {σ α β : Type} {x : StateM (StorageCourse σ) α} {f : α → Calling σ β}
    {r r' : StorageCourse σ} {a : α} (h : x r = (a, r')) :
    ((liftM x : Calling σ α) >>= f) r = f a r' := by
  have hrun : ((liftM x : Calling σ α) >>= f) r = f (x r).1 (x r).2 := rfl
  rw [hrun, h]

theorem settle_bind {σ α β : Type} (x : Except Halt α) (f : α → Except Halt β) :
    (settle (σ := σ) x >>= fun a => settle (f a)) = settle (x >>= f) := by
  cases x <;> rfl

namespace Context

variable {σ : Type} {c : Context} {N : NestedEvaluation} {s : Snapshot}

theorem runCondition_settled (condition : Condition) :
    c.runCondition (σ := σ) N.settled s condition = settle (c.evaluateCondition N s condition) := by
  unfold runCondition Condition.gate? evaluateCondition
  cases condition.kind
  case passGate | failGate =>
    unfold gateFinding
    cases condition.target.bind Json.text? with
    | none => rfl
    | some gate =>
      dsimp only
      unfold NestedEvaluation.settled
      rw [settle_bind]
      cases N .gate gate <;> rfl
  all_goals rfl

mutual

theorem runNode_settled : ∀ n : ConditionNode,
    c.runNode (σ := σ) N.settled s n = settle (c.evaluateNode N s n)
  | .all children => by
    unfold runNode evaluateNode
    exact runAll_settled children
  | .any children => by
    unfold runNode evaluateNode
    exact runAny_settled children
  | .ref key => by
    unfold runNode evaluateNode
    cases s.payload.conditions.get? key with
    | none => rfl
    | some condition => exact runCondition_settled condition
  | .leaf condition => by
    unfold runNode evaluateNode
    exact runCondition_settled condition

theorem runAll_settled : ∀ l : List ConditionNode,
    c.runAll (σ := σ) N.settled s l = settle (c.evaluateAll N s l)
  | [] => by
    unfold runAll evaluateAll
    rfl
  | n :: rest => by
    unfold runAll evaluateAll
    rw [runNode_settled n, runAll_settled rest, ← settle_bind]
    refine congrArg _ (funext fun f => ?_)
    cases f.holds with
    | false => rfl
    | true => exact settle_bind _ _

theorem runAny_settled : ∀ l : List ConditionNode,
    c.runAny (σ := σ) N.settled s l = settle (c.evaluateAny N s l)
  | [] => by
    unfold runAny evaluateAny
    rfl
  | n :: rest => by
    unfold runAny evaluateAny
    rw [runNode_settled n, runAny_settled rest, ← settle_bind]
    refine congrArg _ (funext fun f => ?_)
    cases f.holds with
    | false => exact settle_bind _ _
    | true => rfl

end

theorem runEach_settled (l : List ConditionNode) :
    c.runEach (σ := σ) N.settled s l = settle (c.evaluateEach N s l) := by
  induction l with
  | nil => rfl
  | cons n rest ih =>
    unfold runEach evaluateEach
    rw [runNode_settled, ih, ← settle_bind]
    exact congrArg _ (funext fun f => settle_bind _ _)

theorem runHandover_settled (spec : Spec) (rule : Rule) (exposures : List SecondaryExposure)
    (base : Outcome) :
    runHandover (σ := σ) N.settled s spec rule exposures base =
      settle (delegated? N s spec rule exposures base) := by
  rw [delegated?_eq]
  unfold runHandover
  cases s.handover? rule with
  | none => rfl
  | some target =>
    dsimp only
    unfold NestedEvaluation.settled
    cases N .experiment target.1 <;> rfl

/-- Whether or not a storage has been asked for a key, what is recalled is what it answers. -/
theorem exists_recallAt (h : StickyHost σ) (key name : String) (x : σ) (ruleId : String)
    (r : StorageCourse σ) (hr : r = { state := x } ∨ r = h.answered key x) :
    ∃ r', recallAt (some (h, key)) name ruleId r =
        (((h.look x key).bind (·.get? name)).filter (·.ruleId == ruleId), r') ∧
      (r' = { state := x } ∨ r' = h.answered key x) ∧
      (r'.calls = [] → r.calls = [] ∧ (h.look x key).bind (·.get? name) = none) := by
  have hfetch : h.fetch key r = (h.look x key, h.answered key x) := by
    rcases hr with rfl | rfl
    · rfl
    · have hloaded : (h.answered key x).loaded.get? key = some (h.look x key) :=
        (Dict.get?_insert ..).trans (if_pos rfl)
      unfold StickyHost.fetch
      rw [hloaded]
  refine ⟨h.answered key x, ?_, .inr rfl, nofun⟩
  show (((h.fetch key r).1.bind (·.get? name)).filter (·.ruleId == ruleId), (h.fetch key r).2) = _
  rw [hfetch]

/-- What is left to do when rules have been decided: an assignment is stored. -/
def closeRules (c : Context) (place : Option (StickyHost σ × String)) (name : String)
    (result : Except Halt Ruling) : Calling σ Outcome := do
  let ruling ← settle result
  if ruling.isAssignment then c.keepAt place name ruling.outcome
  return ruling.outcome

/-- Rules are decided as if the stored assignment had been there from the start. `P` says how far a
storage is before anything has been written. As long as there has been no call, the assignment did
not matter. -/
theorem exists_closeRules (spec : Spec) (base : Outcome) {place : Option (StickyHost σ × String)}
    {name : String} {stored : Option StickyValues} {P : StorageCourse σ → Prop}
    (hrecall : ∀ id r, P r → ∃ r',
      recallAt place name id r = (stored.filter (·.ruleId == id), r') ∧ P r' ∧
        (r'.calls = [] → r.calls = [] ∧ stored = none))
    (rules : List Rule) (exposures : List SecondaryExposure) (last : Option Rule)
    {r : StorageCourse σ} (hr : P r) :
    ∃ r', P r' ∧
      (r'.calls = [] → r.calls = [] ∧ c.decideRules N s spec base stored rules exposures last =
        c.decideRules N s spec base none rules exposures last) ∧
      c.runRules N.settled s spec base place name rules exposures last r =
        c.closeRules place name (c.decideRules N s spec base stored rules exposures last) r' := by
  induction rules generalizing exposures last r with
  | nil => exact ⟨r, hr, fun h => ⟨h, rfl⟩, rfl⟩
  | cons rule rest ih =>
    unfold runRules decideRules
    rw [runEach_settled]
    cases c.evaluateEach N s rule.conditions with
    | error halt =>
      rw [error_bind, error_bind]
      exact ⟨r, hr, fun h => ⟨h, rfl⟩, rfl⟩
    | ok f =>
      rw [settle_ok, ok_bind, ok_bind]
      cases f.holds with
      | false => exact ih _ _ hr
      | true =>
        have hholds : ¬ (!true) = true := by decide
        dsimp only
        rw [if_neg hholds, if_neg hholds, if_neg hholds, runHandover_settled]
        cases delegated? N s spec rule (exposures ++ f.exposures) base with
        | error halt =>
          rw [error_bind, error_bind]
          exact ⟨r, hr, fun h => ⟨h, rfl⟩, rfl⟩
        | ok delegated =>
          rw [settle_ok, ok_bind, ok_bind]
          cases delegated with
          | some outcome => exact ⟨r, hr, fun h => ⟨h, rfl⟩, rfl⟩
          | none =>
            obtain ⟨r', hrecalled, hr', hcalls⟩ := hrecall rule.id r hr
            dsimp only
            rw [lift_bind_apply hrecalled]
            cases recalled : stored.filter (·.ruleId == rule.id) with
            | some values =>
              refine ⟨r', hr', fun h => ?_, rfl⟩
              obtain ⟨-, rfl⟩ := hcalls h
              cases recalled
            | none =>
              cases c.passes spec rule with
              | true => exact ⟨r', hr', fun h => ⟨(hcalls h).1, rfl⟩, rfl⟩
              | false =>
                obtain ⟨r'', hr'', hcalls', hrun⟩ :=
                  ih (exposures ++ f.exposures) (some rule) hr'
                exact ⟨r'', hr'', fun h => ⟨(hcalls (hcalls' h).1).1, (hcalls' h).2⟩, hrun⟩

/-- Rules whose assignments are not kept are decided without a call. -/
theorem runRules_none (spec : Spec) (base : Outcome) (name : String) (rules : List Rule)
    (exposures : List SecondaryExposure) (last : Option Rule) :
    c.runRules (σ := σ) N.settled s spec base none name rules exposures last =
      settle ((c.decideRules N s spec base none rules exposures last).map (·.outcome)) := by
  funext r
  have hrecall : ∀ id r', r' = r → ∃ r'', recallAt (σ := σ) none name id r' =
      ((none : Option StickyValues).filter (·.ruleId == id), r'') ∧ r'' = r ∧
        (r''.calls = [] → r'.calls = [] ∧ (none : Option StickyValues) = none) :=
    fun _ r' hr' => ⟨r', rfl, hr', fun h => ⟨h, rfl⟩⟩
  obtain ⟨_, rfl, -, hrun⟩ := exists_closeRules spec base hrecall rules exposures last rfl
  rw [hrun]
  cases c.decideRules N s spec base none rules exposures last with
  | error halt => rfl
  | ok ruling =>
    unfold closeRules
    rw [settle_ok]
    cases ruling.isAssignment <;> rfl

/-- Nested evaluations make no calls, and come to what they come to without a storage. -/
theorem runNested_eq (storage : Option (StickyHost σ)) (requested : Bool) (budget : Nat) :
    c.runNested storage requested budget = (c.evaluateNested budget).settled := by
  induction budget with
  | zero => rfl
  | succ budget ih =>
    funext kind name
    unfold runNested runEntity NestedEvaluation.settled
    rw [evaluateNested_eq, ih]
    cases c.entrance kind name with
    | settled outcome => rfl
    | unreadable => rfl
    | rules s spec => exact runRules_none spec _ name spec.rules [] none

/-! ### The evaluation that was asked for -/

variable {kind : EntityKind} {name : String} {requested : Bool} {spec : Spec}
  {storage : Option (StickyHost σ)}

theorem run_of_rules (hentrance : c.entrance kind name = .rules s spec)
    {place : Option (StickyHost σ × String)} {r r' : StorageCourse σ}
    (hplace : c.findPlace storage requested kind name spec r = (place, r')) :
    c.run storage requested kind name r =
      let base := Outcome.ofSpec spec (s.details (.recognized s.source))
      let (result, r) := c.runRules (c.evaluateNested maxNesting).settled s spec base place name
        spec.rules [] none r'
      (c.concluded result, r) := by
  unfold run runEntity
  rw [hentrance, runNested_eq]
  dsimp only
  rw [if_pos rfl, lift_bind_apply hplace]

/-- Evaluations of entities whose rules are not come to make no calls. -/
theorem run_of_not_rules (h : ∀ s spec, c.entrance kind name ≠ .rules s spec)
    (load : Option (String → Option StickyAssignments)) (r : StorageCourse σ) :
    c.run storage requested kind name r =
      ((c.evaluate load requested kind name).outcome, r) ∧
      (c.evaluate load requested kind name).change = none := by
  unfold run runEntity evaluate
  cases hentrance : c.entrance kind name with
  | settled outcome => exact ⟨rfl, rfl⟩
  | unreadable => exact ⟨rfl, rfl⟩
  | rules s spec => exact absurd hentrance (h s spec)

/-- Without a storage the outcome is the one of the rules with nothing stored. -/
theorem evaluate_none_of_rules (hentrance : c.entrance kind name = .rules s spec) :
    (c.evaluate none requested kind name).outcome =
      c.concluded
        ((c.evaluateRules (c.evaluateNested maxNesting) s spec none).map (·.outcome)) := by
  unfold evaluate
  rw [hentrance]
  dsimp only
  cases c.evaluateRules (c.evaluateNested maxNesting) s spec none <;> rfl

theorem run_of_place_none (hentrance : c.entrance kind name = .rules s spec)
    {r r' : StorageCourse σ}
    (hplace : c.findPlace storage requested kind name spec r = (none, r')) :
    c.run storage requested kind name r =
      ((c.evaluate none requested kind name).outcome, r') := by
  rw [run_of_rules hentrance hplace, evaluate_none_of_rules hentrance]
  dsimp only
  rw [runRules_none]
  rfl

/-- Without a storage an evaluation makes no calls. -/
theorem run_none (r : StorageCourse σ) :
    c.run none requested kind name r = ((c.evaluate none requested kind name).outcome, r) := by
  cases hentrance : c.entrance kind name with
  | rules s spec => exact run_of_place_none hentrance rfl
  | _ => exact (run_of_not_rules (by simp [hentrance]) none r).1

theorem decideRules_of_not_recalled {base : Outcome} {stored : Option StickyValues}
    {rules : List Rule} (h : ∀ rule ∈ rules, stored.filter (·.ruleId == rule.id) = none)
    (exposures : List SecondaryExposure) (last : Option Rule) :
    c.decideRules N s spec base stored rules exposures last =
      c.decideRules N s spec base none rules exposures last := by
  induction rules generalizing exposures last with
  | nil => rfl
  | cons rule rest ih =>
    rw [List.forall_mem_cons] at h
    simp only [decideRules, h.1, Option.filter_none, ih h.2]

/-- An answer that brings nothing leaves the rules as they are without a storage. -/
theorem evaluateRules_of_not_brings {key : String} {answer : Except Unit (Option StickyAssignments)}
    (h : ¬ (StorageCall.load key answer).Brings name spec) :
    c.evaluateRules N s spec (answer.toOption.join.bind (·.get? name)) =
      c.evaluateRules N s spec none := by
  refine decideRules_of_not_recalled (fun rule hrule => ?_) [] none
  cases hstored : answer.toOption.join.bind (·.get? name) with
  | none => rfl
  | some values =>
    exact StickyValues.filter_of_ne fun hid => h ⟨values, hstored, rule, hrule, hid.symm⟩

theorem evaluate_of_keep (hentrance : c.entrance kind name = .rules s spec) {key : String}
    (hkeep : c.stickiness requested kind spec = .keep key)
    (load : String → Option StickyAssignments) :
    (c.evaluate (some load) requested kind name).outcome =
      c.concluded ((c.evaluateRules (c.evaluateNested maxNesting) s spec
        ((load key).bind (·.get? name))).map (·.outcome)) := by
  unfold evaluate
  simp only [hentrance, hkeep]
  cases c.evaluateRules (c.evaluateNested maxNesting) s spec ((load key).bind (·.get? name)) <;> rfl

/-- Once rules have been decided, the change that is called for is made. -/
theorem closeRules_of_keep (hentrance : c.entrance kind name = .rules s spec) {key : String}
    (hkeep : c.stickiness requested kind spec = .keep key) (h : StickyHost σ)
    {load : String → Option StickyAssignments} (r : StorageCourse σ) :
    let v := c.evaluate (some load) requested kind name
    let closed := c.closeRules (some (h, key)) name (c.evaluateRules (c.evaluateNested maxNesting)
      s spec ((load key).bind (·.get? name))) r
    (c.concluded closed.1, closed.2) =
      (v.outcome, v.change.elim r fun change => (h.write change r).2) := by
  unfold evaluate
  simp only [hentrance, hkeep]
  cases c.evaluateRules (c.evaluateNested maxNesting) s spec ((load key).bind (·.get? name)) with
  | error halt => rfl
  | ok ruling =>
    unfold closeRules
    rw [settle_ok]
    cases ruling.isAssignment <;> rfl

/-- An evaluation that keeps assignments comes to what it comes to if what it can load has been
there from the start, and makes the same change. -/
theorem exists_run_of_keep (hentrance : c.entrance kind name = .rules s spec) {key : String}
    (hkeep : c.stickiness requested kind spec = .keep key) (h : StickyHost σ) (x : σ) :
    let v := c.evaluate (some (h.look x)) requested kind name
    ∃ r', (r' = { state := x } ∨ r' = h.answered key x) ∧
      ((∀ call ∈ r'.calls, ¬ call.Brings name spec) →
        v.outcome = (c.evaluate none requested kind name).outcome) ∧
      c.run (some h) requested kind name { state := x } =
        (v.outcome, v.change.elim r' fun change => (h.write change r').2) := by
  intro v
  obtain ⟨r', hr', hcalls, hrun⟩ := exists_closeRules (c := c) (N := c.evaluateNested maxNesting)
    spec (Outcome.ofSpec spec (s.details (.recognized s.source))) (exists_recallAt h key name x)
    spec.rules [] none (.inl rfl)
  refine ⟨r', hr', fun hbrings => ?_, ?_⟩
  · refine (evaluate_of_keep hentrance hkeep _).trans ?_
    rw [evaluate_none_of_rules hentrance]
    refine congrArg (fun result => c.concluded (Except.map _ result)) ?_
    rcases hr' with rfl | rfl
    · exact (hcalls rfl).2
    · exact evaluateRules_of_not_brings (hbrings _ (List.mem_singleton_self _))
  · have hplace : c.findPlace (some h) requested kind name spec { state := x } =
        (some (h, key), { state := x }) := by
      unfold findPlace
      dsimp only
      rw [hkeep]
      rfl
    rw [run_of_rules hentrance hplace]
    dsimp only
    rw [hrun]
    exact closeRules_of_keep hentrance hkeep h r'

/-- Where assignments are not kept, an evaluation comes to what it comes to without a storage. -/
theorem run_of_not_kept (hentrance : c.entrance kind name = .rules s spec)
    (h : StickyHost σ) (x : σ) {load : String → Option StickyAssignments}
    (hkeep : ∀ key, c.stickiness requested kind spec ≠ .keep key) :
    let v := c.evaluate (some load) requested kind name
    v.outcome = (c.evaluate none requested kind name).outcome ∧
      c.run (some h) requested kind name { state := x } =
        (v.outcome,
          v.change.elim { state := x } fun change => (h.write change { state := x }).2) := by
  have hrun {r : StorageCourse σ}
      (hplace : c.findPlace (some h) requested kind name spec { state := x } = (none, r)) :=
    run_of_place_none hentrance hplace
  unfold findPlace at hrun
  unfold evaluate at hrun ⊢
  cases hstickiness : c.stickiness requested kind spec with
  | keep key => exact absurd hstickiness (hkeep key)
  | none | forget =>
    simp only [hentrance, hstickiness] at hrun ⊢
    exact ⟨trivial, hrun rfl⟩

/-- An evaluation asks a storage for one key at most, comes to what it comes to if what it can load
has been there from the start, and then makes the change that is called for. -/
theorem exists_run (h : StickyHost σ) (x : σ) (requested : Bool) (kind : EntityKind)
    (name : String) :
    let v := c.evaluate (some (h.look x)) requested kind name
    ∃ r', (r' = { state := x } ∨ ∃ key, r' = h.answered key x) ∧
      ((∀ spec, c.spec? kind name = some spec → ∀ call ∈ r'.calls, ¬ call.Brings name spec) →
        v.outcome = (c.evaluate none requested kind name).outcome) ∧
      c.run (some h) requested kind name { state := x } =
        (v.outcome, v.change.elim r' fun change => (h.write change r').2) := by
  intro v
  by_cases hrules : ∃ s spec, c.entrance kind name = .rules s spec
  · obtain ⟨s, spec, hentrance⟩ := hrules
    by_cases hkeep : ∃ key, c.stickiness requested kind spec = .keep key
    · obtain ⟨key, hkeep⟩ := hkeep
      obtain ⟨r', hr', hbrings, hrun⟩ := exists_run_of_keep hentrance hkeep h x
      exact ⟨r', hr'.imp_right fun hr' => ⟨key, hr'⟩,
        fun h => hbrings (h spec (spec?_of_entrance_rules hentrance)), hrun⟩
    · obtain ⟨houtcome, hrun⟩ :=
        run_of_not_kept hentrance h x (not_exists.1 hkeep)
      exact ⟨{ state := x }, .inl rfl, fun _ => houtcome, hrun⟩
  · have hnot : ∀ s spec, c.entrance kind name ≠ .rules s spec :=
      fun s spec h => hrules ⟨s, spec, h⟩
    obtain ⟨hrun, hchange⟩ : c.run (some h) requested kind name { state := x } =
        (v.outcome, { state := x }) ∧ v.change = none := run_of_not_rules hnot _ _
    refine ⟨{ state := x }, .inl rfl, fun _ => ?_, by rw [hrun, hchange]; rfl⟩
    exact congrArg Prod.fst (hrun.symm.trans (run_of_not_rules hnot none _).1)

/-- With a storage in memory an evaluation comes to what the engine makes of it. -/
theorem run_inMemory (storage : StickyStorage) (requested : Bool) (kind : EntityKind)
    (name : String) :
    let result := c.run (some .inMemory) requested kind name { state := storage }
    (result.1, some result.2.state) = c.evaluateWith (some storage) requested kind name := by
  obtain ⟨r', hr', -, hrun⟩ := c.exists_run .inMemory storage requested kind name
  have hstate : r'.state = storage := by
    rcases hr' with rfl | ⟨key, rfl⟩ <;> rfl
  rw [hrun, evaluateWith_some, StickyHost.look_inMemory]
  dsimp only
  cases (c.evaluate (some storage.look) requested kind name).change with
  | none =>
    rw [Option.elim_none, hstate]
    rfl
  | some change =>
    have hwrite : (StickyHost.inMemory.write change r').2.state = r'.state.perform change := by
      cases change <;> rfl
    rw [Option.elim_some, hwrite, hstate]
    rfl

end Context

/-! ### What an evaluation asks of a storage -/

/-- An evaluation asks for stickiness: the spec is sticky, or it is of an experiment for which that
was requested. -/
def Spec.IsWantedSticky (spec : Spec) (requested : Bool) (kind : EntityKind) : Prop :=
  spec.isSticky = true ∨ requested = true ∧ kind = .experiment

/-- An entity is sticky for an evaluation: its spec says so and does not make it inactive, or it is
an active experiment for which that was requested. -/
def Spec.IsStickyFor (spec : Spec) (requested : Bool) (kind : EntityKind) : Prop :=
  spec.isSticky = true ∧ spec.isActive ≠ some false ∨
    requested = true ∧ kind = .experiment ∧ spec.isActive = some true

/-- Assignments are saved where the entity is sticky for the evaluation. They are deleted where
stickiness is asked for, but the entity is not active. -/
def StickyChange.IsDue (spec : Spec) (requested : Bool) (kind : EntityKind) : StickyChange → Prop
  | .save _ _ _ => spec.IsStickyFor requested kind
  | .delete _ _ => spec.IsWantedSticky requested kind ∧ ¬ spec.IsStickyFor requested kind

namespace Context

/-- An evaluation calls for a change: the entity is there to be evaluated by its rules, the change
is made in its slot, for which the user has an id, and it is due. -/
structure CallsFor (c : Context) (requested : Bool) (kind : EntityKind) (name : String)
    (change : StickyChange) (spec : Spec) : Prop where
  spec_eq : c.spec? kind name = some spec
  unforced : c.overrides.resolve? kind name c.user (some spec) = none
  enabled : spec.enabled = true
  key_eq : c.user.storageKey? spec.idType = some change.slot.1
  name_eq : change.slot.2 = name
  due : change.IsDue spec requested kind

variable {σ : Type} {c : Context} {s : Snapshot} {kind : EntityKind} {name : String}
  {requested : Bool} {spec : Spec}

theorem enabled_of_entrance_rules (h : c.entrance kind name = .rules s spec) :
    c.overrides.resolve? kind name c.user (some spec) = none ∧ spec.enabled = true := by
  obtain ⟨hs, hentry⟩ := of_entrance_rules h
  unfold entrance at h
  simp only [hs, Option.bind_some, hentry, Entry.get?] at h
  cases hforced : c.overrides.resolve? kind name c.user (some spec) with
  | some forced => simp [hforced] at h
  | none =>
    simp only [hforced] at h
    cases henabled : spec.enabled with
    | false => simp [henabled] at h
    | true => exact ⟨rfl, rfl⟩

/-- Assignments are kept where the entity is sticky for the evaluation. -/
theorem isStickyFor_of_keep {key : String} (h : c.stickiness requested kind spec = .keep key) :
    spec.IsStickyFor requested kind := by
  unfold Spec.IsStickyFor
  unfold stickiness at h
  cases hkey : c.user.storageKey? spec.idType with
  | none => simp [hkey] at h
  | some _ =>
    simp only [hkey] at h
    cases hsticky : spec.isSticky <;> grind

/-- Assignments are dropped where stickiness is asked for and the entity is not active. -/
theorem isWantedSticky_of_forget {key : String}
    (h : c.stickiness requested kind spec = .forget key) :
    spec.IsWantedSticky requested kind ∧ ¬ spec.IsStickyFor requested kind := by
  unfold Spec.IsWantedSticky Spec.IsStickyFor
  unfold stickiness at h
  cases hkey : c.user.storageKey? spec.idType with
  | none => simp [hkey] at h
  | some _ =>
    simp only [hkey] at h
    cases hsticky : spec.isSticky <;> grind

theorem callsFor_of_change {load : String → Option StickyAssignments} {change : StickyChange}
    (h : (c.evaluate (some load) requested kind name).change = some change) :
    ∃ spec, c.CallsFor requested kind name change spec := by
  obtain ⟨spec, hspec, hkey, hname⟩ := slot?_eq_some_iff.1 (slot_of_change h)
  refine ⟨spec, ?_⟩
  cases hentrance : c.entrance kind name with
  | settled o => simp [evaluate, hentrance] at h
  | unreadable => simp [evaluate, hentrance] at h
  | rules s spec' =>
    obtain rfl : spec = spec' :=
      Option.some.inj (hspec.symm.trans (spec?_of_entrance_rules hentrance))
    obtain ⟨hunforced, henabled⟩ := enabled_of_entrance_rules hentrance
    refine ⟨hspec, hunforced, henabled, hkey, hname.symm, ?_⟩
    unfold evaluate at h
    simp only [hentrance] at h
    cases hstickiness : c.stickiness requested kind spec with
    | none => simp [hstickiness] at h
    | forget key =>
      simp only [hstickiness] at h
      cases h
      exact isWantedSticky_of_forget hstickiness
    | keep key =>
      simp only [hstickiness] at h
      obtain ⟨-, h⟩ := Option.ite_none_right_eq_some.1 h
      cases h
      exact isStickyFor_of_keep hstickiness

/-- Nothing is written before the change that is called for. -/
theorem writes_elim_write (h : StickyHost σ) {x : σ} {r : StorageCourse σ}
    (hr : r = { state := x } ∨ ∃ key, r = h.answered key x) (change : Option StickyChange) :
    (change.elim r fun change => (h.write change r).2).writes = change.toList := by
  cases change with
  | none => rcases hr with rfl | ⟨key, rfl⟩ <;> rfl
  | some change => rcases hr with rfl | ⟨key, rfl⟩ <;> rfl

/-- Making a change forgets no call. -/
theorem mem_calls_elim_write (h : StickyHost σ) {r : StorageCourse σ} {call : StorageCall}
    (hcall : call ∈ r.calls) (change : Option StickyChange) :
    call ∈ (change.elim r fun change => (h.write change r).2).calls := by
  cases change with
  | none => exact hcall
  | some change => exact List.mem_append_left _ hcall

/-- An evaluation writes at most once, and then what is due, in the slot of the entity that was
asked for; nested evaluations make no calls. Unless a load brings an assignment that a rule of the
spec has made, the outcome is the one without a storage, whatever becomes of the calls. -/
theorem run_confined (c : Context) (h : StickyHost σ) (x : σ) (requested : Bool) (kind : EntityKind)
    (name : String) :
    let result := c.run (some h) requested kind name { state := x }
    result.2.writes.length ≤ 1 ∧
      (∀ change ∈ result.2.writes, ∃ spec, c.CallsFor requested kind name change spec) ∧
      (∀ budget kind' name' r', c.runNested (some h) requested budget kind' name' r' =
        (c.evaluateNested budget kind' name', r')) ∧
      ((∀ spec, c.spec? kind name = some spec → ∀ call ∈ result.2.calls,
          ¬ call.Brings name spec) →
        result.1 = (c.run none requested kind name { state := x }).1) := by
  obtain ⟨r, hr, houtcome, hrun⟩ := c.exists_run h x requested kind name
  rw [hrun]
  dsimp only
  rw [writes_elim_write h hr]
  refine ⟨?_, fun change hchange => ?_, fun budget kind' name' r' => ?_, fun hbrings => ?_⟩
  · cases (c.evaluate (some (h.look x)) requested kind name).change <;> simp
  · exact callsFor_of_change (Option.mem_toList.1 hchange)
  · rw [runNested_eq]
    rfl
  · rw [run_none]
    exact houtcome fun spec hspec call hcall =>
      hbrings spec hspec call (mem_calls_elim_write h hcall _)

end Context

/-- A storage that is out of order. -/
def StickyHost.failing : StickyHost Unit where
  load _ x := (.error (), x)
  save _ _ _ x := (false, x)
  delete _ _ x := (false, x)

/-- The call has failed. -/
def StorageCall.failed : StorageCall → Bool
  | .load _ answer => !answer.isOk
  | .write _ succeeded => !succeeded

theorem StorageCall.not_brings_of_failed {call : StorageCall} (h : call.failed = true)
    (name : String) (spec : Spec) : ¬ call.Brings name spec := by
  rintro hbrings
  cases call with
  | write change succeeded => exact hbrings
  | load key answer =>
    cases answer with
    | error _ =>
      obtain ⟨_, hvalues, -⟩ := hbrings
      cases hvalues
    | ok _ => cases h

open RaisedShare in
/-- The evaluation of a visitor while the storage is out of order. -/
def outage : Outcome × StorageCourse Unit :=
  (visitor.seeing (specs closed full)).run (some .failing) true .experiment "colors" { state := () }

open RaisedShare in
/-- The visitor's assignment can be neither loaded nor stored, and the outcome is the same. -/
theorem run_confined_failing :
    outage.2.calls.map (·.failed) = [true, true] ∧ outage.2.writes.length = 1 ∧
      outage.1 = ((visitor.seeing (specs closed full)).run none true .experiment "colors"
        { state := () }).1 := by
  have hfailed : outage.2.calls.map (·.failed) = [true, true] := by decide +kernel
  have hwrites : outage.2.writes.length = 1 := by decide +kernel
  obtain ⟨-, -, -, houtcome⟩ :=
    (visitor.seeing (specs closed full)).run_confined .failing () true .experiment "colors"
  rw [← outage] at houtcome
  refine ⟨hfailed, hwrites, houtcome fun spec _ call hcall => ?_⟩
  have hmem : call.failed ∈ outage.2.calls.map (·.failed) := List.mem_map_of_mem hcall
  rw [hfailed] at hmem
  exact StorageCall.not_brings_of_failed (by simpa using hmem) "colors" spec

open RaisedShare in
/-- The specs once the experiment is over. -/
def concluded : Snapshot :=
  { specs closed full with
    payload.dynamicConfigs := .ofList
      [("colors", .parsed { colors closed full with isActive := some false })] }

open RaisedShare in
/-- An experiment that is over is not sticky, and still a visitor's assignment is deleted. -/
theorem not_forall_writes_eq_nil : ¬ ∀ (c : Context) (h : StickyHost StickyStorage)
    (x : StickyStorage) (requested : Bool) (kind : EntityKind) (name : String),
    (∀ spec, c.spec? kind name = some spec → ¬ spec.IsStickyFor requested kind) →
      (c.run (some h) requested kind name { state := x }).2.writes = [] := by
  intro hall
  have hwrites : ((visitor.seeing concluded).run (some .inMemory) true .experiment "colors"
      { state := first.2.getD {} }).2.writes.length = 1 := by decide +kernel
  have hspec : (visitor.seeing concluded).spec? .experiment "colors" =
      some { colors closed full with isActive := some false } := rfl
  rw [hall _ _ _ _ _ _ fun spec h => ?_] at hwrites
  · cases hwrites
  · obtain rfl := Option.some.inj (hspec.symm.trans h)
    rintro (⟨hsticky, -⟩ | ⟨-, -, hactive⟩)
    · cases hsticky
    · cases hactive

end Rollout
