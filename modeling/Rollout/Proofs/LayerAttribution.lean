import Mathlib.Data.List.TakeWhile
import Rollout.Event
import Rollout.Proofs.Halting
import Rollout.Proofs.Nesting
import Rollout.Proofs.PayloadGaps

/-!
# What reading a layer is put down to

The rules of a layer may allocate the user to an experiment (`Context.allocation?`). What the layer
says of itself and what it takes over from the experiment are kept apart
(`Context.outcome_allocated`), so that reading a parameter is put down to the experiment if the
parameter is an explicit one of it, and otherwise to the layer alone (`Context.read_attributed`).
Exposures of different parameters are never taken for repetitions of each other
(`Exposure.parameter_eq_of_key`).
-/

namespace Rollout

/-! ### Exposures of parameters -/

namespace Exposure

/-- The experiment that an exposure is put down to. -/
def allocatedExperiment? (x : Exposure) : Option String :=
  x.event.metadata.bind (·.get? "allocatedExperiment")

theorem allocatedExperiment?_ofLayer (user : User) (layer parameter : String) (o : Outcome)
    (now : Nat) : (ofLayer user layer parameter o now).allocatedExperiment? =
      some (if o.explicitParameters.contains parameter then o.delegate.getD "" else "") := by
  unfold allocatedExperiment? ofLayer make
  dsimp only [Option.bind_some]
  rw [List.append_cons]
  exact Dict.get?_ofList_self (by simp)

/-- A key ends in the parts that tell outcomes apart. -/
theorem keyOf_eq_append (user : User) (name ruleId : String) {parts : List String}
    (h : parts ≠ []) :
    keyOf user name ruleId parts = keyOf user name ruleId [] ++ "|" ++ "|".intercalate parts := by
  unfold keyOf
  rw [List.append_nil]
  exact String.intercalate_append_of_ne_nil (List.cons_ne_nil _ _) h

theorem append_boolText_inj {a a' : String} {b b' : Bool}
    (h : a ++ boolText b = a' ++ boolText b') : a = a' ∧ b = b' := by
  have hb : b = b' := by
    -- The two texts differ in their last letter but one.
    have hletter := congrArg (fun s => (s.toList.reverse.drop 1).head?) h
    cases b <;> cases b' <;> simp [boolText] at hletter ⊢
  subst hb
  exact ⟨(String.append_left_inj _).1 h, rfl⟩

/-- Exposures of one outcome of a layer with the same key are of the same parameter. -/
theorem parameter_eq_of_key {user : User} {layer p q : String} {o : Outcome} {now later : Nat}
    (h : (ofLayer user layer p o now).key = (ofLayer user layer q o later).key) : p = q := by
  let experiment (parameter : String) : String :=
    if o.explicitParameters.contains parameter then o.delegate.getD "" else ""
  have hkey : ∀ parameter now, (ofLayer user layer parameter o now).key =
      keyOf user layer o.ruleId [] ++ "|" ++ (experiment parameter ++ "|") ++ (parameter ++ "|") ++
        boolText (o.explicitParameters.contains parameter) := by
    intro parameter now
    show keyOf user layer o.ruleId [experiment parameter, parameter, boolText _] = _
    rw [keyOf_eq_append _ _ _ (List.cons_ne_nil _ _), String.intercalate_cons_cons,
      String.intercalate_cons_cons, String.intercalate_singleton]
    simp only [String.append_assoc]
  rw [hkey, hkey] at h
  obtain ⟨h, hexplicit⟩ := append_boolText_inj h
  have hexperiment : experiment p = experiment q := by
    dsimp only [experiment]
    rw [hexplicit]
  rw [hexperiment, String.append_right_inj, String.append_left_inj] at h
  exact h

end Exposure

/-! ### Rules in order -/

namespace Context

variable (c : Context)

/-- Whether a rule settles what an entity comes to: its conditions hold, and it decides. -/
def settles (s : Snapshot) (spec : Spec) (rule : Rule) : Bool :=
  c.ruleHolds s rule && c.decides s spec rule

/-- The rules that are tried: all up to the one that settles what the entity comes to. -/
def triedRules (s : Snapshot) (spec : Spec) : List Rule :=
  spec.rules.takeWhile (fun rule => !c.settles s spec rule) ++
    (spec.rules.find? (c.settles s spec)).toList

/-- The experiment that the rules of an entity allocate the user to, if they do. -/
def allocation? (kind : EntityKind) (name : String) : Option String :=
  match c.entrance kind name with
  | .rules s spec =>
    ((spec.rules.find? (c.settles s spec)).bind s.handover?).map (·.1)
  | _ => none

/-- What the rules of an entity expose by themselves. -/
def ownExposures (kind : EntityKind) (name : String) : List SecondaryExposure :=
  match c.entrance kind name with
  | .rules s spec => (c.triedRules s spec).flatMap (c.ruleExposures s)
  | _ => []

variable {c} {s : Snapshot} {spec : Spec} {kind : EntityKind} {name : String}

theorem settles_eq_false_iff {rule : Rule} : c.settles s spec rule = false ↔
    (c.ruleHolds s rule = true → c.decides s spec rule = false) := by
  unfold settles
  cases c.ruleHolds s rule <;> simp

theorem triedRules_of_settles {before after : List Rule} {rule : Rule}
    (h : spec.rules = before ++ rule :: after) (hrule : c.settles s spec rule = true)
    (hbefore : ∀ x ∈ before, c.settles s spec x = false) :
    spec.rules.find? (c.settles s spec) = some rule ∧ c.triedRules s spec = before ++ [rule] := by
  have hfind : spec.rules.find? (c.settles s spec) = some rule :=
    List.find?_eq_some_iff_append.2 ⟨hrule, before, after, h, fun x hx => by rw [hbefore x hx]; rfl⟩
  refine ⟨hfind, ?_⟩
  unfold triedRules
  rw [hfind, h, List.takeWhile_append_of_pos fun x hx => by rw [hbefore x hx]; rfl,
    List.takeWhile_cons_of_neg (by rw [hrule]; decide), List.append_nil]
  rfl

theorem triedRules_of_forall (h : ∀ x ∈ spec.rules, c.settles s spec x = false) :
    spec.rules.find? (c.settles s spec) = none ∧ c.triedRules s spec = spec.rules := by
  have hfind : spec.rules.find? (c.settles s spec) = none :=
    List.find?_eq_none.2 fun x hx => by rw [h x hx]; decide
  refine ⟨hfind, ?_⟩
  unfold triedRules
  rw [hfind, List.takeWhile_eq_self_iff.2 fun x hx => by rw [h x hx]; rfl]
  exact List.append_nil _

/-! ### Outcomes -/

variable (c kind name) in
/-- An outcome is in keeping with the experiment that the rules of its entity allocate the user to,
if they do: what they expose by themselves comes first, and is kept apart. -/
structure Allocated (o : Outcome) : Prop where
  delegate : o.delegate = c.allocation? kind name
  explicitParameters : ∀ experiment, c.allocation? kind name = some experiment →
    ∃ spec, c.spec? .experiment experiment = some spec ∧
      o.explicitParameters = spec.explicitParameters.getD []
  exposures : o.exposures = c.ownExposures kind name ++
    ((c.allocation? kind name).map fun experiment =>
      (c.outcome .experiment experiment).exposures).getD []
  undelegated : o.undelegatedExposures.getD o.exposures = c.ownExposures kind name

theorem allocated_of_isBare {o : Outcome} (ho : o.IsBare)
    (hallocation : c.allocation? kind name = none) (hown : c.ownExposures kind name = []) :
    c.Allocated kind name o where
  delegate := ho.delegate.trans hallocation.symm
  explicitParameters _ h := by
    rw [hallocation] at h
    cases h
  exposures := by
    rw [ho.exposures, hallocation, hown]
    rfl
  undelegated := by
    rw [ho.undelegated, ho.exposures, hown]
    rfl

theorem allocated_of_decidedInOrder {base o : Outcome}
    (hentrance : c.entrance kind name = .rules s spec) (hdelegate : base.delegate = none)
    (hundelegated : base.undelegatedExposures = none)
    (h : c.DecidedInOrder s spec base spec.rules [] none o) : c.Allocated kind name o := by
  have hallocation : c.allocation? kind name =
      ((spec.rules.find? (c.settles s spec)).bind s.handover?).map (·.1) := by
    unfold allocation?
    rw [hentrance]
  have hown : c.ownExposures kind name = (c.triedRules s spec).flatMap (c.ruleExposures s) := by
    unfold ownExposures
    rw [hentrance]
  rcases h with ⟨before, rule, after, hrules, hholds, hdecides, hbefore, ho⟩ | ⟨hall, ho⟩
  · have hsettles : c.settles s spec rule = true := by
      unfold settles
      rw [hholds, hdecides]
      rfl
    obtain ⟨hfind, htried⟩ := triedRules_of_settles hrules hsettles fun x hx =>
      settles_eq_false_iff.2 (hbefore x hx)
    rw [hfind, Option.bind_some] at hallocation
    rw [List.nil_append, ← htried, ← hown] at ho
    unfold decided at ho
    cases hhandover : s.handover? rule with
    | none =>
      rw [hhandover] at ho hallocation
      subst ho
      refine ⟨hdelegate.trans hallocation.symm, fun _ h => ?_, ?_, ?_⟩
      · rw [hallocation] at h
        cases h
      · rw [hallocation]
        exact (List.append_nil _).symm
      · show (base.undelegatedExposures).getD _ = _
        rw [hundelegated]
        rfl
    | some target =>
      rw [hhandover] at ho hallocation
      subst ho
      refine ⟨hallocation.symm, fun experiment h => ?_, ?_, rfl⟩
      · rw [hallocation] at h
        cases h
        refine ⟨target.2, ?_, rfl⟩
        unfold spec?
        rw [(of_entrance_rules hentrance).1]
        exact (Snapshot.of_handover? hhandover).2
      · rw [hallocation]
        rfl
  · obtain ⟨hfind, htried⟩ := triedRules_of_forall fun x hx => settles_eq_false_iff.2 (hall x hx)
    rw [hfind] at hallocation
    rw [List.nil_append] at ho
    generalize ((spec.rules.filter (c.ruleHolds s)).getLast?).or none = last at ho
    rw [← htried, ← hown] at ho
    subst ho
    refine ⟨?_, fun _ h => ?_, ?_, ?_⟩
    · rw [hallocation]
      cases last <;> exact hdelegate
    · rw [hallocation] at h
      cases h
    · rw [hallocation]
      exact (List.append_nil _).symm
    · have hnone : (undecided spec last (c.ownExposures kind name) base).undelegatedExposures =
          none := by
        cases last <;> exact hundelegated
      rw [hnone]
      rfl

/-- Without stored assignments, an outcome with members is in keeping with the experiment that the
rules allocate the user to. -/
theorem outcome_allocated (c : Context) (requested : Bool) (kind : EntityKind) (name : String) :
    let o := (c.evaluateWith none requested kind name).1
    o.members = ∅ ∨ c.Allocated kind name o := by
  intro o
  have hhalted (h : Halt) : (c.halted h).members = ∅ := by cases h <;> rfl
  cases hentrance : c.entrance kind name with
  | settled o' =>
    obtain rfl : o' = o := (evaluate_of_settled hentrance).symm
    refine .inr (allocated_of_isBare (of_entrance_settled hentrance).1 ?_ ?_)
    · unfold allocation?
      rw [hentrance]
    · unfold ownExposures
      rw [hentrance]
  | unreadable =>
    have ho : o = c.halted .unsupported := evaluate_of_unreadable hentrance
    exact .inl (ho ▸ hhalted _)
  | rules s spec =>
    have ho : o = _ := evaluateWith_none_eq hentrance requested
    cases hrun : c.evaluateRules (c.evaluateNested maxNesting) s spec none with
    | error h =>
      rw [hrun] at ho
      exact .inl (ho ▸ hhalted h)
    | ok r =>
      rw [hrun] at ho
      rw [ho]
      exact .inr (allocated_of_decidedInOrder hentrance rfl rfl
        ((decideRules_eq_ok_iff.1 hrun).decidedInOrder (c.refines_own (Nat.le_succ _))))

/-! ### Reading layers -/

/-- The experiment that a parameter of a layer is put down to: the rules of the layer allocate the
user to it, and the parameter is an explicit one of it. -/
def Attributes (c : Context) (layer parameter experiment : String) : Prop :=
  c.allocation? .layer layer = some experiment ∧
    ∃ spec, c.spec? .experiment experiment = some spec ∧
      parameter ∈ spec.explicitParameters.getD []

section Attribution

variable {layer parameter experiment : String} {o : Outcome} {x : Exposure}

theorem Allocated.attributes_iff (h : c.Allocated .layer layer o) :
    c.Attributes layer parameter experiment ↔
      o.delegate = some experiment ∧ o.explicitParameters.contains parameter = true := by
  unfold Attributes
  rw [h.delegate]
  refine and_congr_right fun hallocation => ?_
  obtain ⟨spec, hspec, hexplicit⟩ := h.explicitParameters experiment hallocation
  rw [hexplicit, List.contains_iff_mem]
  constructor
  · rintro ⟨spec', hspec', hmem⟩
    cases hspec.symm.trans hspec'
    exact hmem
  · exact fun hmem => ⟨spec, hspec, hmem⟩

/-- An exposure names the experiment that the parameter is put down to, or none. -/
theorem Allocated.allocatedExperiment?_eq_some_iff (h : c.Allocated .layer layer o) (user : User)
    (now : Nat) (hname : experiment ≠ "") :
    (Exposure.ofLayer user layer parameter o now).allocatedExperiment? = some experiment ↔
      c.Attributes layer parameter experiment := by
  rw [h.attributes_iff, Exposure.allocatedExperiment?_ofLayer, Option.some_inj]
  cases o.explicitParameters.contains parameter with
  | false => simpa using hname.symm
  | true => cases o.delegate <;> simp [hname.symm]

/-- A parameter is exposed with what the experiment exposes that it is put down to. -/
theorem Allocated.exposures_of_attributes (h : c.Allocated .layer layer o) (user : User) (now : Nat)
    (hattributes : c.Attributes layer parameter experiment) :
    (Exposure.ofLayer user layer parameter o now).event.exposures =
      some (c.ownExposures .layer layer ++ (c.outcome .experiment experiment).exposures) := by
  obtain ⟨-, hexplicit⟩ := h.attributes_iff.1 hattributes
  show some (if _ then o.exposures else _) = _
  rw [if_pos hexplicit, h.exposures, hattributes.1]
  rfl

/-- A parameter that is not put down to an experiment is exposed with what the rules of the layer
expose by themselves. -/
theorem Allocated.exposures_of_forall_not (h : c.Allocated .layer layer o) (user : User) (now : Nat)
    (hnot : ∀ experiment, ¬ c.Attributes layer parameter experiment) :
    (Exposure.ofLayer user layer parameter o now).event.exposures =
      some (c.ownExposures .layer layer) := by
  show some (if o.explicitParameters.contains parameter then _ else _) = _
  split
  · next hexplicit =>
    have hnone : c.allocation? .layer layer = none := by
      rw [← h.delegate]
      exact Option.eq_none_iff_forall_ne_some.2 fun experiment hdelegate =>
        hnot experiment (h.attributes_iff.2 ⟨hdelegate, hexplicit⟩)
    rw [h.exposures, hnone]
    exact congrArg some (List.append_nil _)
  · rw [h.undelegated]

end Attribution

/-- A parameter that is read is put down to the experiment that the rules of the layer allocate the
user to if it is an explicit one of it, and otherwise to none. What is exposed with it is what the
rules of the layer expose by themselves, followed by what the experiment exposes only if it is put
down to the experiment. Exposures of different parameters have different keys. -/
theorem read_attributed (c : Context) (requested : Bool) (layer : String) (user : User) :
    let d := (c.evaluateWith none requested .layer layer).1.toLayer layer (some user)
    (∀ parameter value now, d.members.get? parameter = some value →
      d.allocatedExperiment = c.allocation? .layer layer ∧
      ∃ x, d.read parameter now = (some value, some x) ∧
        (∀ experiment, experiment ≠ "" →
          (x.allocatedExperiment? = some experiment ↔ c.Attributes layer parameter experiment)) ∧
        ((∀ experiment, experiment ≠ "" → ¬ c.Attributes layer parameter experiment) →
          x.allocatedExperiment? = some "") ∧
        (∀ experiment, c.Attributes layer parameter experiment → x.event.exposures =
          some (c.ownExposures .layer layer ++ (c.outcome .experiment experiment).exposures)) ∧
        ((∀ experiment, ¬ c.Attributes layer parameter experiment) →
          x.event.exposures = some (c.ownExposures .layer layer))) ∧
    ∀ p q now later x y, (d.read p now).2 = some x → (d.read q later).2 = some y → p ≠ q →
      x.key ≠ y.key := by
  intro d
  have hread : ∀ parameter value now, d.members.get? parameter = some value →
      d.read parameter now = (some value, some (.ofLayer user layer parameter
        (c.evaluateWith none requested .layer layer).1 now)) := by
    intro parameter value now hvalue
    unfold LayerDecision.read
    rw [hvalue]
    rfl
  refine ⟨fun parameter value now hvalue => ?_, fun p q now later x y hx hy hne => ?_⟩
  · have h : c.Allocated .layer layer (c.evaluateWith none requested .layer layer).1 := by
      refine (c.outcome_allocated requested .layer layer).resolve_left fun hnone => ?_
      change (c.evaluateWith none requested .layer layer).1.members.get? parameter = _ at hvalue
      rw [hnone] at hvalue
      cases hvalue
    refine ⟨h.delegate, _, hread parameter value now hvalue,
      fun experiment => h.allocatedExperiment?_eq_some_iff user now, fun hnot => ?_,
      fun experiment => h.exposures_of_attributes user now, h.exposures_of_forall_not user now⟩
    -- What an exposure names is none other than an experiment that the parameter is put down to.
    by_contra hsome
    have hnamed := Exposure.allocatedExperiment?_ofLayer user layer parameter
      (c.evaluateWith none requested .layer layer).1 now
    rw [hnamed, Option.some_inj] at hsome
    exact hnot _ hsome ((h.allocatedExperiment?_eq_some_iff user now hsome).1 hnamed)
  · have hofLayer : ∀ {parameter now x}, (d.read parameter now).2 = some x →
        x = .ofLayer user layer parameter (c.evaluateWith none requested .layer layer).1 now := by
      intro parameter now x hx
      cases hvalue : d.members.get? parameter with
      | none =>
        unfold LayerDecision.read at hx
        rw [hvalue] at hx
        cases hx
      | some value =>
        rw [hread parameter value now hvalue] at hx
        exact (Option.some.inj hx).symm
    rw [hofLayer hx, hofLayer hy]
    exact fun hkey => hne (Exposure.parameter_eq_of_key hkey)

end Context

/-! ### A page that hands over one of its parameters -/

namespace Allocation

/-- The experiment, which decides about the color. -/
def explicitColors : Spec := { colors with explicitParameters := some ["color"] }

/-- The layer, which has another parameter. -/
def sizedPage : Spec :=
  { page with
    defaultValue := .object (.ofList [("color", .text "grey"), ("size", .text "small")]) }

/-- A user who sees these. -/
def reader : Context :=
  { visitor with
    snapshot := some
      { specs with
        payload :=
          { featureGates := .ofList [("staff", .parsed staff)]
            dynamicConfigs := .ofList [("colors", .parsed explicitColors)]
            layers := .ofList [("page", .parsed sizedPage)] } } }

theorem read_attributed_page :
    let d := (reader.evaluateWith none false .layer "page").1.toLayer "page" (some reader.user)
    d.allocatedExperiment = some "colors" ∧
    (∃ value x, d.read "color" 1 = (some value, some x) ∧ value.text? = some "blue" ∧
      x.allocatedExperiment? = some "colors") ∧
    ∃ value x, d.read "size" 1 = (some value, some x) ∧ value.text? = some "small" ∧
      x.allocatedExperiment? = some "" := by
  intro d
  have hallocation : reader.allocation? .layer "page" = some "colors" := by decide +kernel
  have hcolors : reader.spec? .experiment "colors" = some explicitColors := rfl
  have hcolor : (d.members.get? "color").bind Json.text? = some "blue" := by decide +kernel
  have hsize : (d.members.get? "size").bind Json.text? = some "small" := by decide +kernel
  obtain ⟨color, hcolor, hblue⟩ := Option.bind_eq_some_iff.1 hcolor
  obtain ⟨size, hsize, hsmall⟩ := Option.bind_eq_some_iff.1 hsize
  obtain ⟨hdelegate, x, hx, hxnames, -⟩ :=
    (reader.read_attributed false "page" reader.user).1 "color" color 1 hcolor
  obtain ⟨-, y, hy, -, hynames, -⟩ :=
    (reader.read_attributed false "page" reader.user).1 "size" size 1 hsize
  refine ⟨hdelegate.trans hallocation, ⟨color, x, hx, hblue, ?_⟩, size, y, hy, hsmall, hynames ?_⟩
  · exact (hxnames "colors" (by decide)).2 ⟨hallocation, explicitColors, hcolors, by decide⟩
  · rintro experiment - ⟨h, spec, hspec, hmem⟩
    cases hallocation.symm.trans h
    cases hcolors.symm.trans hspec
    exact absurd hmem (by decide)

end Allocation

end Rollout
