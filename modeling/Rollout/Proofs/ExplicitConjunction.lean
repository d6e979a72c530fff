import Rollout.Proofs.RuleChange

/-!
# All conditions under one node

All conditions of a rule must hold, and so must all children of a node of conditions. The rule goes
through all of its conditions, so that every gate among them is exposed, while the node stops at the
first child that fails. So putting the conditions under a node comes to the same if and only if
nothing is to be seen of the conditions after the first that fails
(`Context.evaluateEach_all_eq_iff`): they come to something and expose nothing.

Then no evaluation of any entity changes (`Context.evaluate_conjoined`). Otherwise an evaluation
that comes to something still comes to it, but for exposures that are left out
(`Context.leavesOut_evaluate`).
-/

namespace Rollout

/-- The rule with its conditions put under one node. -/
def Rule.conjoined (rule : Rule) : Rule := { rule with conditions := [.all rule.conditions] }

theorem Rule.sameButEntry_conjoined (rule : Rule) : rule.SameButEntry rule.conjoined := rfl

namespace Finding

theorem and_right_inj {f g g' : Finding} (h : f.holds = true) : f.and g = f.and g' ↔ g = g' := by
  cases g
  cases g'
  simp [Finding.and, h]

theorem eq_and_iff {f g : Finding} (h : f.holds = false) :
    f = f.and g ↔ g.exposures = [] := by
  cases f
  cases h
  simp [Finding.and]

end Finding

namespace Context

variable {c c' : Context} {N N' : NestedEvaluation} {s s' : Snapshot} {spec : Spec}

/-! ### One rule -/

variable (c N s) in
/-- Nothing is to be seen of the conditions after the first that fails: they come to something and
expose nothing. -/
def TailIsQuiet : List ConditionNode → Prop
  | [] => True
  | n :: rest => ∀ f, c.evaluateNode N s n = .ok f →
    if f.holds then TailIsQuiet rest
    else ∃ g, c.evaluateEach N s rest = .ok g ∧ g.exposures = []

theorem evaluateEach_all (l : List ConditionNode) :
    c.evaluateEach N s [.all l] = c.evaluateAll N s l := by
  unfold evaluateEach evaluateNode
  cases c.evaluateAll N s l with
  | error e => rfl
  | ok f =>
    show Except.ok (f.and { holds := true }) = .ok f
    simp [Finding.and]

/-- Putting conditions under a node comes to the same if and only if nothing is to be seen of those
after the first that fails. -/
theorem evaluateEach_all_eq_iff (l : List ConditionNode) :
    c.evaluateEach N s [.all l] = c.evaluateEach N s l ↔ c.TailIsQuiet N s l := by
  rw [evaluateEach_all]
  induction l with
  | nil => exact ⟨fun _ => trivial, fun _ => rfl⟩
  | cons n rest ih =>
    rw [evaluateAll, evaluateEach, TailIsQuiet]
    cases hn : c.evaluateNode N s n with
    | error e => simp [bind, Except.bind]
    | ok f =>
      simp only [bind, Except.bind, Except.ok.injEq, forall_eq']
      cases holds : f.holds with
      | true =>
        rw [if_pos rfl, if_pos rfl, ← ih]
        cases c.evaluateAll N s rest <;> cases c.evaluateEach N s rest <;>
          simp [pure, Except.pure, Finding.and_right_inj holds]
      | false =>
        rw [if_neg Bool.false_ne_true, if_neg Bool.false_ne_true]
        cases c.evaluateEach N s rest <;>
          simp [pure, Except.pure, Finding.eq_and_iff holds]

/-! ### Where nothing is to be seen -/

section Quiet

variable {rule : Rule}

/-- Rules come to the same in another snapshot that agrees on what they need, as do those with their
conditions under a node where nothing is to be seen of the ones after the first that fails. -/
theorem decidesAlike_conjoined (hc : c.Alike c') (hs : s.Agrees s')
    (hquiet : c.TailIsQuiet N s rule.conditions) {rules' : List Rule} {r r' : Rule}
    (h : r' = r ∨ r = rule ∧ r' = r.conjoined) :
    DecidesAlike c c' N N s s' spec { spec with rules := rules' } base r r' := by
  have hsame : ∀ l, c'.evaluateEach N s' l = c.evaluateEach N s l := fun l =>
    Refines.eq (refines_evaluateEach hc (fun _ _ => .refl Outcome.Alike.refl _) hs l)
  have hdelegated : ∀ exposures,
      delegated? N s' { spec with rules := rules' } r exposures base =
        delegated? N s spec r exposures base :=
    delegated?_congr rfl (fun other _ => hs.parameters other) fun _ _ => rfl
  rcases h with rfl | ⟨rfl, rfl⟩
  · exact ⟨.refl _, hsame _, hdelegated, hc.passes spec r'⟩
  · refine ⟨r.sameButEntry_conjoined, ?_, hdelegated, hc.passes spec r⟩
    exact (hsame _).trans ((evaluateEach_all_eq_iff r.conditions).2 hquiet)

theorem evaluateRules_conjoined (hc : c.Alike c') (hs : s.Agrees s') (ho : s.SameOrigin s')
    (hquiet : c.TailIsQuiet N s rule.conditions) {rules' : List Rule}
    (hrules : List.Forall₂ (fun r r' => r' = r ∨ r = rule ∧ r' = r.conjoined) spec.rules rules')
    (stored : Option StickyValues) :
    c'.evaluateRules N s' { spec with rules := rules' } stored =
      c.evaluateRules N s spec stored := by
  unfold evaluateRules
  rw [ho.details, ho.source]
  exact decideRules_congr_of_forall₂ (by rfl) (ho.details .persisted)
    (hrules.imp fun _ _ h => decidesAlike_conjoined hc hs hquiet h) [] .none

end Quiet

end Context

/-! ### Where exposures are left out -/

/-- The second finding is the first one, but for exposures that it leaves out. -/
structure Finding.LeavesOut (f f' : Finding) : Prop where
  holds : f'.holds = f.holds
  exposures : f'.exposures.Sublist f.exposures

/-- The second outcome is the first one, but for exposures that it leaves out. -/
structure Outcome.LeavesOut (o o' : Outcome) : Prop where
  rest : o' = { o with
    exposures := o'.exposures, undelegatedExposures := o'.undelegatedExposures }
  exposures : o'.exposures.Sublist o.exposures
  undelegated : Option.Rel (fun l l' => l'.Sublist l) o.undelegatedExposures
    o'.undelegatedExposures

theorem Finding.congruence_leavesOut : Finding.Congruence Finding.LeavesOut where
  refl f := ⟨rfl, .refl f.exposures⟩
  holds h := h.holds
  append h h' _ := ⟨rfl, h.exposures.append h'.exposures⟩

namespace Outcome

theorem LeavesOut.refl (o : Outcome) : o.LeavesOut o where
  rest := rfl
  exposures := .refl _
  undelegated := by
    cases o.undelegatedExposures with
    | none => exact .none
    | some l => exact .some (.refl l)

theorem leavesOut_of_sublist (o : Outcome) {l l' : List SecondaryExposure} (h : l'.Sublist l) :
    { o with exposures := l }.LeavesOut { o with exposures := l' } :=
  ⟨rfl, h, (LeavesOut.refl o).undelegated⟩

end Outcome

namespace Context

variable {c c' : Context} {N N' : NestedEvaluation} {s s' : Snapshot} {spec : Spec}
  {base : Outcome} {stored : Option StickyValues}

section Leaving

variable (hc : c.Alike c') (hs : s.Agrees s')
  (hN : ∀ kind name, Refines (fun _ => True) Outcome.LeavesOut (N kind name) (N' kind name))
include hc hs hN

theorem leavesOut_evaluateTip (tip : ConditionTip) :
    Refines (fun _ => True) Finding.LeavesOut (c.evaluateTip N s tip)
      (c'.evaluateTip N' s' tip) := by
  have hsame : s'.conditionAt? tip = s.conditionAt? tip := by
    cases tip with
    | shared key =>
      unfold Snapshot.conditionAt?
      rw [hs.conditions]
    | own condition => rfl
  unfold evaluateTip
  rw [hsame]
  cases s.conditionAt? tip with
  | none => exact .error _
  | some condition =>
    refine refines_evaluateCondition_of_gateFinding Finding.congruence_leavesOut hc
      (fun _ negated => refines_gateFinding (R := Outcome.LeavesOut) (fun {o o'} ho => ?_) negated
        fun gate _ => hN .gate gate) fun _ _ => by rw [hs.idLists]
    have hvalue : o'.value = o.value := by rw [ho.rest]
    have hruleId : o'.ruleId = o.ruleId := by rw [ho.rest]
    refine ⟨hvalue, fun holds own => ⟨rfl, ?_⟩⟩
    rw [hruleId]
    exact ho.exposures.append (.refl _)

theorem leavesOut_evaluateEach (l : List ConditionNode) :
    Refines (fun _ => True) Finding.LeavesOut (c.evaluateEach N s l) (c'.evaluateEach N' s' l) :=
  refines_evaluateEach_of_tips Finding.congruence_leavesOut fun tip _ =>
    leavesOut_evaluateTip hc hs hN tip

/-- A node stops no later than a rule with its children as conditions, and leaves out what comes
after. -/
theorem leavesOut_evaluateAll (l : List ConditionNode) :
    Refines (fun _ => True) Finding.LeavesOut (c.evaluateEach N s l)
      (c'.evaluateAll N' s' l) := by
  induction l with
  | nil => exact .ok ⟨rfl, .refl _⟩
  | cons n rest ih =>
    unfold evaluateEach evaluateAll
    refine (refines_evaluateNode Finding.congruence_leavesOut fun tip _ =>
      leavesOut_evaluateTip hc hs hN tip).bind fun f f' hf => ?_
    rw [hf.holds]
    cases holds : f.holds with
    | true => exact ih.bind fun r r' hr => .ok (Finding.congruence_leavesOut.and hf hr)
    | false =>
      cases c.evaluateEach N s rest with
      | error e => exact .inl trivial
      | ok r =>
        refine .ok ⟨?_, hf.exposures.trans (List.sublist_append_left _ _)⟩
        rw [hf.holds, Finding.and, holds, Bool.false_and]

omit hc in
theorem leavesOut_delegated? {rules' : List Rule} {r r' : Rule} (hr : r.SameButEntry r')
    {exposures exposures' : List SecondaryExposure} (h : exposures'.Sublist exposures) :
    Refines (fun _ => True) (Option.Rel Outcome.LeavesOut)
      (delegated? N s spec r exposures base)
      (delegated? N' s' { spec with rules := rules' } r' exposures' base) := by
  have hrel := Snapshot.handover?_rel fun name (_ : r.delegate = some name) => hs.parameters name
  have hsame : s'.handover? r' = s'.handover? r := by
    rw [hr]
    rfl
  rw [delegated?_eq, delegated?_eq, hsame]
  generalize s.handover? r = t, s'.handover? r = t' at hrel ⊢
  cases hrel with
  | none => exact .ok .none
  | @some t t' ht =>
    dsimp only
    rw [ht.1]
    refine (hN .experiment t.1).map fun o o' ho => .some ?_
    unfold handedOver
    rw [ht.1, ht.2, ho.rest]
    exact ⟨rfl, h.append ho.exposures, .some h⟩

/-- Rules that are the same, but for one with its conditions under a node, leave out at most
exposures. -/
theorem leavesOut_decideRules (hdetails : s'.details .persisted = s.details .persisted)
    {rule : Rule} {rules' : List Rule} {l l' : List Rule}
    (h : List.Forall₂ (fun r r' => r' = r ∨ r = rule ∧ r' = r.conjoined) l l')
    {exposures exposures' : List SecondaryExposure} (hexposures : exposures'.Sublist exposures)
    {last last' : Option Rule} (hlast : Option.Rel Rule.SameButEntry last last') :
    Refines (fun _ => True) (fun r r' => r.outcome.LeavesOut r'.outcome)
      (c.decideRules N s spec base stored l exposures last)
      (c'.decideRules N' s' { spec with rules := rules' } base stored l' exposures' last') := by
  induction h generalizing exposures exposures' last last' with
  | nil =>
    refine .ok ?_
    show (undecided spec last exposures base).LeavesOut _
    rw [undecided_congr (by rfl) hlast]
    exact Outcome.leavesOut_of_sublist _ hexposures
  | @cons r r' l l' hpair _ ih =>
    have hr : r.SameButEntry r' := by
      rcases hpair with rfl | ⟨rfl, rfl⟩
      · exact .refl _
      · exact r.sameButEntry_conjoined
    have hpasses : c'.passes { spec with rules := rules' } r' = c.passes spec r := by
      rw [hc.passes]
      rcases hpair with rfl | ⟨rfl, rfl⟩ <;> rfl
    have hfound : Refines (fun _ => True) Finding.LeavesOut (c.evaluateEach N s r.conditions)
        (c'.evaluateEach N' s' r'.conditions) := by
      rcases hpair with rfl | ⟨rfl, rfl⟩
      · exact leavesOut_evaluateEach hc hs hN _
      · exact evaluateEach_all (c := c') r.conditions ▸ leavesOut_evaluateAll hc hs hN r.conditions
    have hid : r'.id = r.id := by rw [hr]
    have hassigned : base.withRule r' = base.withRule r := by
      rw [hr]
      rfl
    unfold decideRules
    refine hfound.bind fun f f' hf => ?_
    have hexposures' := hexposures.append hf.exposures
    rw [hf.holds, hid, hpasses, hassigned, hdetails]
    cases f.holds with
    | false => exact ih hexposures' hlast
    | true =>
      refine (leavesOut_delegated? hs hN hr hexposures').bind fun d d' hd => ?_
      cases hd with
      | some hd => exact .ok hd
      | none =>
        dsimp only
        cases stored.filter (·.ruleId == r.id) with
        | some values => exact .ok (.refl _)
        | none =>
          dsimp only
          cases c.passes spec r with
          | true => exact .ok (Outcome.leavesOut_of_sublist _ hexposures')
          | false => exact ih hexposures' (.some hr)

theorem leavesOut_evaluateRules (ho : s.SameOrigin s') {rule : Rule} {rules' : List Rule}
    (hrules : List.Forall₂ (fun r r' => r' = r ∨ r = rule ∧ r' = r.conjoined) spec.rules rules')
    (stored : Option StickyValues) :
    Refines (fun _ => True) (fun r r' => r.outcome.LeavesOut r'.outcome)
      (c.evaluateRules N s spec stored)
      (c'.evaluateRules N' s' { spec with rules := rules' } stored) := by
  unfold evaluateRules
  rw [ho.details, ho.source]
  exact leavesOut_decideRules hc hs hN (ho.details .persisted) hrules (.refl _) .none

omit hc hs hN in
theorem leavesOut_of_not_halted (hs : c.snapshot = some s) (a b : Except Halt Ruling) :
    Refines (fun _ => True) (fun r r' => r.outcome.LeavesOut r'.outcome) a b →
    (match a with
      | .ok r => r.outcome
      | .error halt => c.halted halt).details.reason.isHalt = false →
    (match a with
      | .ok r => r.outcome
      | .error halt => c.halted halt).LeavesOut
    (match b with
      | .ok r => r.outcome
      | .error halt => c.halted halt) := by
  intro h hsome
  cases a with
  | error halt =>
    dsimp only at hsome
    rcases halted_reason hs halt with h | h <;>
      · rw [h] at hsome
        cases hsome
  | ok r =>
    obtain ⟨r', rfl, hr⟩ := h
    exact hr

end Leaving

/-! ### Entities -/

section Entity

variable {kind : EntityKind} {name : String} {i : Nat} {rule : Rule} (hs : c.snapshot = some s)
  (hentry : s.payload.entry? kind name = some (.parsed spec)) (hrule : spec.rules[i]? = some rule)
include hs hentry hrule

theorem evaluateNested_conjoined {limit : Nat}
    (hquiet : ∀ budget < limit, c.TailIsQuiet (c.evaluateNested budget) s rule.conditions) :
    ∀ budget ≤ limit,
      (c.seeing (s.changeRule kind.space name i Rule.conjoined)).evaluateNested budget =
        c.evaluateNested budget := by
  intro budget hbudget
  induction budget with
  | zero => rfl
  | succ budget ih =>
    funext other otherName
    rw [evaluateNested_eq, evaluateNested_eq, ih (Nat.le_of_succ_le hbudget)]
    rcases entrance_changeRule_rel (c := c) hs hentry hrule Rule.sameButEntry_conjoined other
      otherName with ⟨o, h, h'⟩ | ⟨h, h'⟩ | ⟨spec, rules', h, h', hrules⟩
    · rw [h, h']
    · rw [h, h']
    · rw [h, h']
      dsimp only
      rw [evaluateRules_conjoined (alike_seeing _) Snapshot.agrees_changeRule
        Snapshot.sameOrigin_changeRule (hquiet budget hbudget) hrules]

/-- What an entity comes to when it is nested leaves out at most exposures. -/
theorem leavesOut_evaluateNested (budget : Nat) (other : EntityKind) (otherName : String) :
    Refines (fun _ => True) Outcome.LeavesOut (c.evaluateNested budget other otherName)
      ((c.seeing (s.changeRule kind.space name i Rule.conjoined)).evaluateNested budget other
        otherName) := by
  induction budget generalizing other otherName with
  | zero => exact .error _
  | succ budget ih =>
    rw [evaluateNested_eq, evaluateNested_eq]
    rcases entrance_changeRule_rel (c := c) hs hentry hrule Rule.sameButEntry_conjoined other
      otherName with ⟨o, h, h'⟩ | ⟨h, h'⟩ | ⟨spec, rules', h, h', hrules⟩
    · rw [h, h']
      exact .ok (.refl o)
    · rw [h, h']
      exact .error _
    · rw [h, h']
      exact (leavesOut_evaluateRules (alike_seeing _) Snapshot.agrees_changeRule ih
        Snapshot.sameOrigin_changeRule hrules none).map fun _ _ hr => hr

variable (load : Option (String → Option StickyAssignments)) (requested : Bool)
  (other : EntityKind) (otherName : String)

/-- No evaluation changes where nothing is to be seen of the conditions after the first that
fails, however deep the rule is reached. -/
theorem evaluate_conjoined_of_tailIsQuiet
    (hquiet : ∀ budget ≤ maxNesting, c.TailIsQuiet (c.evaluateNested budget) s rule.conditions) :
    (c.seeing (s.changeRule kind.space name i Rule.conjoined)).evaluate load requested other
      otherName = c.evaluate load requested other otherName := by
  rcases entrance_changeRule_rel (c := c) hs hentry hrule Rule.sameButEntry_conjoined other
    otherName with ⟨o, h, h'⟩ | ⟨h, h'⟩ | ⟨spec, rules', h, h', hrules⟩
  · unfold evaluate
    rw [h, h']
  · unfold evaluate
    rw [h, h']
    rw [halted_changeRule hs]
  · refine evaluate_eq_of_rules (alike_seeing _) Snapshot.sameOrigin_changeRule hs rfl h h' rfl rfl
      rfl fun stored => ?_
    rw [evaluateNested_conjoined hs hentry hrule (fun budget hbudget => hquiet budget hbudget.le)
      maxNesting le_rfl]
    exact evaluateRules_conjoined (alike_seeing _) Snapshot.agrees_changeRule
      Snapshot.sameOrigin_changeRule (hquiet maxNesting le_rfl) hrules stored

/-- An evaluation that comes to something leaves out at most exposures. -/
theorem leavesOut_evaluate
    (hsome : (c.evaluate load requested other otherName).outcome.details.reason.isHalt = false) :
    (c.evaluate load requested other otherName).outcome.LeavesOut
      ((c.seeing (s.changeRule kind.space name i Rule.conjoined)).evaluate load requested other
        otherName).outcome := by
  rcases entrance_changeRule_rel (c := c) hs hentry hrule Rule.sameButEntry_conjoined other
    otherName with ⟨o, h, h'⟩ | ⟨h, h'⟩ | ⟨spec, rules', h, h', hrules⟩
  · rw [evaluate_of_settled h, evaluate_of_settled h']
    exact .refl o
  · rw [evaluate_of_unreadable h, evaluate_of_unreadable h', halted_changeRule hs]
    exact .refl _
  · have hstickiness : (c.seeing (s.changeRule kind.space name i Rule.conjoined)).stickiness
        requested other { spec with rules := rules' } = c.stickiness requested other spec := rfl
    rw [evaluate_eq_recall h] at hsome ⊢
    rw [evaluate_eq_recall h', hstickiness, halted_changeRule hs]
    refine leavesOut_of_not_halted hs _ _ ?_ hsome
    exact leavesOut_evaluateRules (alike_seeing _) Snapshot.agrees_changeRule
      (leavesOut_evaluateNested hs hentry hrule maxNesting) Snapshot.sameOrigin_changeRule hrules _

omit hs hentry hrule in
/-- Putting the conditions of a rule under one node comes to the same for the rule if and only if
nothing is to be seen of those after the first that fails. If so, no evaluation of any entity
changes. An evaluation that comes to something still comes to it in any case, and leaves out at most
exposures. -/
theorem evaluate_conjoined (c : Context) (s : Snapshot) (kind : EntityKind) (name : String)
    (spec : Spec) (i : Nat) (rule : Rule) (hs : c.snapshot = some s)
    (hentry : s.payload.entry? kind name = some (.parsed spec))
    (hrule : spec.rules[i]? = some rule) :
    let conjoined := c.seeing (s.changeRule kind.space name i Rule.conjoined)
    (∀ N, c.evaluateEach N s rule.conjoined.conditions = c.evaluateEach N s rule.conditions ↔
      c.TailIsQuiet N s rule.conditions) ∧
    ((∀ budget ≤ maxNesting,
        c.TailIsQuiet (c.evaluateNested budget) s rule.conditions) →
      ∀ load requested other otherName,
        conjoined.evaluate load requested other otherName =
          c.evaluate load requested other otherName) ∧
    ∀ load requested other otherName,
      (c.evaluate load requested other otherName).outcome.details.reason.isHalt = false →
        (c.evaluate load requested other otherName).outcome.LeavesOut
          (conjoined.evaluate load requested other otherName).outcome :=
  ⟨fun _ => evaluateEach_all_eq_iff rule.conditions,
    fun hquiet load requested other otherName =>
      evaluate_conjoined_of_tailIsQuiet hs hentry hrule load requested other otherName hquiet,
    leavesOut_evaluate hs hentry hrule⟩

end Entity

end Context

/-! ### A gate behind two others -/

namespace Allocation

/-- A gate that asks for two others. -/
def vault : Spec :=
  { salt := "vault", defaultValue := .bool false, enabled := true
    rules := [{ id := "open", passPercentage := .ofInt 100, returnValue := .bool true
                conditions :=
                  [.leaf { kind := .passGate, target := some (.text "beta") },
                    .leaf { kind := .passGate, target := some (.text "staff") }] }] }

/-- A gate that asks for another one, and then for nothing. -/
def lobby : Spec :=
  { salt := "lobby", defaultValue := .bool false, enabled := true
    rules := [{ id := "open", passPercentage := .ofInt 100, returnValue := .bool true
                conditions :=
                  [.leaf { kind := .passGate, target := some (.text "beta") },
                    .leaf { kind := .everyone }] }] }

/-- The specs of these gates and of the second one that is asked for. The first one does not
exist. -/
def vaultSpecs : Snapshot :=
  { payload :=
      { featureGates := .ofList
          [("vault", .parsed vault), ("lobby", .parsed lobby), ("staff", .parsed staff)] }
    idLists := ∅, source := .network, lcut := 1, receivedAt := 1 }

theorem evaluate_conjoined_lobby_and_vault :
    let guest := visitor.seeing vaultSpecs
    let quiet := guest.seeing
      (vaultSpecs.changeRule EntityKind.gate.space "lobby" 0 Rule.conjoined)
    let conjoined := guest.seeing
      (vaultSpecs.changeRule EntityKind.gate.space "vault" 0 Rule.conjoined)
    let o := (guest.evaluate none false .gate "vault").outcome
    let o' := (conjoined.evaluate none false .gate "vault").outcome
    (∀ load requested kind name,
      quiet.evaluate load requested kind name = guest.evaluate load requested kind name) ∧
    (quiet.evaluate none false .gate "lobby").outcome.exposures = [⟨"beta", "false", ""⟩] ∧
    o.LeavesOut o' ∧ o.exposures = [⟨"beta", "false", ""⟩, ⟨"staff", "true", "all"⟩] ∧
      o'.exposures = [⟨"beta", "false", ""⟩] := by
  intro guest quiet conjoined o o'
  -- Whether the gate passes or not, the condition after it holds and exposes nothing.
  have hquiet : ∀ N, guest.TailIsQuiet N vaultSpecs lobby.rules[0].conditions := by
    intro N f _
    split
    · intro g hg
      obtain rfl := Except.ok.inj hg
      trivial
    · exact ⟨_, rfl, rfl⟩
  have hsame : ∀ load requested kind name,
      quiet.evaluate load requested kind name = guest.evaluate load requested kind name :=
    (Context.evaluate_conjoined guest vaultSpecs .gate "lobby" lobby 0 _ rfl rfl rfl).2.1
      fun _ _ => hquiet _
  have hleaves : o.LeavesOut o' :=
    (Context.evaluate_conjoined guest vaultSpecs .gate "vault" vault 0 _ rfl rfl rfl).2.2 none false
      .gate "vault" (by decide +kernel)
  exact ⟨hsame, by decide +kernel, hleaves, by decide +kernel, by decide +kernel⟩

theorem not_forall_evaluate_conjoined :
    ¬ ∀ (c : Context) (s : Snapshot) (kind : EntityKind) (name : String) (spec : Spec) (i : Nat)
      (rule : Rule), c.snapshot = some s → s.payload.entry? kind name = some (.parsed spec) →
      spec.rules[i]? = some rule → ∀ load requested other otherName,
        (c.seeing (s.changeRule kind.space name i Rule.conjoined)).evaluate load requested other
          otherName = c.evaluate load requested other otherName := by
  intro h
  have hvault := h (visitor.seeing vaultSpecs) vaultSpecs .gate "vault" vault 0 _ rfl rfl rfl none
    false .gate "vault"
  have hexposures := congrArg (·.outcome.exposures) hvault
  revert hexposures
  decide +kernel

end Allocation

end Rollout
