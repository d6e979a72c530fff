import Rollout.Proofs.ClientFilters
import Rollout.Proofs.Halting
import Rollout.Proofs.OverrideRuns
import Rollout.Proofs.ShareRaise

/-!
# Being forced into a group

An override to a group and the first rule of the group say the same of an experiment, the flag of
experiment groups apart: an override leaves the flag unset, whatever the rule says
(`Context.sameButFlag_of_forcedInto`). An outcome that is handed on takes the flag along
(`Context.LeadsTo`), and so do the entries of a payload for a client. Being forced into a group
therefore comes to the same as being let in by its rule if and only if the rule is not flagged
(`Context.forced_sameResult_iff`).
-/

namespace Rollout

/-! ### Outcomes with the same result -/

namespace Outcome

/-- The outcomes differ at most in the rule, in what they expose and in the reason. -/
def SameResult (o o' : Outcome) : Prop :=
  o' = { o with
    ruleId := o'.ruleId, exposures := o'.exposures, undelegatedExposures := o'.undelegatedExposures
    details := { o.details with reason := o'.details.reason } }

/-- The outcomes have the same result, apart from the flag of experiment groups. -/
def SameButFlag (o o' : Outcome) : Prop :=
  o' = { o with
    ruleId := o'.ruleId, isExperimentGroup := o'.isExperimentGroup, exposures := o'.exposures
    undelegatedExposures := o'.undelegatedExposures
    details := { o.details with reason := o'.details.reason } }

variable {o o' : Outcome}

theorem sameButFlag_iff_exists : o.SameButFlag o' ↔
    ∃ ruleId isExperimentGroup exposures undelegatedExposures reason,
      o' = { o with
        ruleId, isExperimentGroup, exposures, undelegatedExposures
        details := { o.details with reason } } :=
  ⟨fun h => ⟨_, _, _, _, _, h⟩, by rintro ⟨_, _, _, _, _, rfl⟩; rfl⟩

theorem SameButFlag.sameResult_iff (h : o.SameButFlag o') :
    o.SameResult o' ↔ o'.isExperimentGroup = o.isExperimentGroup := by
  obtain ⟨ruleId, flag, exposures, undelegated, reason, rfl⟩ := sameButFlag_iff_exists.1 h
  constructor
  · exact congrArg isExperimentGroup
  · rintro rfl
    rfl

end Outcome

namespace ClientConfig

/-- The entries differ at most in the rule and in what they expose. -/
def SameResult (a a' : ClientConfig) : Prop :=
  a' = { a with ruleId := a'.ruleId, exposures := a'.exposures }

end ClientConfig

namespace ClientLayer

/-- The entries differ at most in the rule and in what they expose. -/
def SameResult (a a' : ClientLayer) : Prop :=
  a' = { a with
    ruleId := a'.ruleId, exposures := a'.exposures
    undelegatedExposures := a'.undelegatedExposures }

end ClientLayer

namespace ClientPayloadOptions

variable {o o' : Outcome}

/-- An entry of an experiment shows the flag. -/
theorem sameResult_config_iff (options : ClientPayloadOptions) (name : String) {spec : Spec}
    (hkind : configKind spec = .experiment) (h : o.SameButFlag o') :
    (options.config name spec o).SameResult (options.config name spec o') ↔
      o'.isExperimentGroup = o.isExperimentGroup := by
  obtain ⟨ruleId, flag, exposures, undelegated, reason, rfl⟩ := Outcome.sameButFlag_iff_exists.1 h
  unfold config
  rw [if_pos hkind, if_pos hkind]
  constructor
  · intro hsame
    exact congrArg ClientExperimentPart.isUserIn (Sum.inr.inj (congrArg ClientConfig.kind hsame))
  · rintro rfl
    rfl

/-- An entry of a layer shows the flag. -/
theorem sameResult_layer_iff (options : ClientPayloadOptions) (name : String) (spec : Spec)
    (h : o.SameButFlag o') :
    (options.layer name spec o).SameResult (options.layer name spec o') ↔
      o'.isExperimentGroup = o.isExperimentGroup := by
  obtain ⟨ruleId, flag, exposures, undelegated, reason, rfl⟩ := Outcome.sameButFlag_iff_exists.1 h
  constructor
  · exact congrArg ClientLayer.isUserInExperiment
  · rintro rfl
    rfl

end ClientPayloadOptions

/-! ### Forced, or let in -/

theorem Snapshot.entry?_of_experiment? {s : Snapshot} {name : String} {spec : Spec}
    (h : s.experiment? name = some spec) :
    s.payload.entry? .experiment name = some (.parsed spec) := by
  obtain ⟨entry, hentry, hspec⟩ := Option.bind_eq_some_iff.1 h
  cases entry with
  | parsed spec' =>
    cases hspec
    exact hentry
  | failed raw => cases hspec

namespace Context

variable {c c' : Context} {s : Snapshot} {name group : String} {spec : Spec} {rule : Rule}

variable (c) in
/-- Of the user's ids, the first for which an override of the experiment forces something has one to
the group. -/
def ForcedInto (name group : String) : Prop :=
  ∃ before id after, Overrides.targetingIds c.user = before ++ id :: after ∧
    c.overrides.get? ⟨.experiment, name, id⟩ = some (.group group) ∧
    ∀ x ∈ before, ∀ v, c.overrides.get? ⟨.experiment, name, x⟩ = some v →
      ∀ forced, ¬ v.Forces (c.spec? .experiment name) forced

variable (name) in
theorem spec?_experiment (hs : c.snapshot = some s) :
    c.spec? .experiment name = s.experiment? name := by
  unfold spec?
  rw [hs]
  rfl

/-- What an override to a group forces. -/
theorem outcome_of_forcedInto (hs : c.snapshot = some s) (hspec : s.experiment? name = some spec)
    (hrule : spec.rules.find? (·.groupName == some group) = some rule)
    (h : c.ForcedInto name group) :
    c.outcome .experiment name =
      { Outcome.ofSpec spec (s.details .localOverride) with
        value := rule.returnValue.passing, members := rule.returnValue.members
        ruleId := Outcome.overrideRuleId, groupName := some group } := by
  have hspec' : c.spec? .experiment name = some spec := (spec?_experiment name hs).trans hspec
  have hresolve : c.overrides.resolve? .experiment name c.user (c.spec? .experiment name) =
      some { value := rule.returnValue.passing, members := rule.returnValue.members
             groupName := some group } := by
    obtain ⟨before, id, after, hids, hgroup, hbefore⟩ := h
    refine List.findSome?_eq_some_iff.2 ⟨before, id, after, hids, ?_, fun x hx => ?_⟩
    · rw [hgroup, hspec', Option.bind_some, OverrideValue.outcome?, Option.bind_some, hrule]
      rfl
    · rw [Option.bind_eq_none_iff]
      intro v hv
      rw [Option.eq_none_iff_forall_ne_some]
      exact fun forced hforced =>
        hbefore x hx v hv forced (OverrideValue.outcome?_eq_some_iff.1 hforced)
  have houtcome : c.outcome .experiment name = _ :=
    evaluate_of_settled (entrance_of_forced hresolve)
  rw [houtcome, hspec', hs]
  rfl

/-- What the rule at a position gives to whom it lets in. -/
theorem outcome_of_decidedBy {kind : EntityKind} {i : Nat} (hs : c.snapshot = some s)
    (hentry : s.payload.entry? kind name = some (.parsed spec)) (hrule : spec.rules[i]? = some rule)
    (hhandover : s.handover? rule = none) (h : c.DecidedBy kind name i) :
    ∃ exposures, c.outcome kind name =
      { (Outcome.ofSpec spec (s.details (.recognized s.source))).withRule rule with
        exposures } := by
  obtain ⟨s', spec', before, x, after, hentrance, hrules, rfl, hbefore, hsettles⟩ := h
  obtain ⟨rfl, rfl⟩ := eq_of_entrance_rules hs hentry hentrance
  obtain rfl : x = rule := by simpa [hrules] using hrule
  have houtcome : c.outcome kind name = _ := evaluateWith_none_eq hentrance false
  rw [evaluateRules, hrules,
    decideRules_of_settles (c.refines_own (Nat.le_succ _)) hbefore hsettles] at houtcome
  rw [houtcome]
  unfold decided
  rw [hhandover]
  exact ⟨_, rfl⟩

/-- Who is forced into a group gets the result of who is let in by its rule, apart from the flag,
which an override does not set. -/
theorem sameButFlag_of_forcedInto (hs : c.snapshot = some s) (hs' : c'.snapshot = some s)
    (hspec : s.experiment? name = some spec)
    (hrule : spec.rules.find? (·.groupName == some group) = some rule)
    (hhandover : s.handover? rule = none) (hforced : c.ForcedInto name group)
    (hdecided :
      c'.DecidedBy .experiment name (spec.rules.findIdx (·.groupName == some group))) :
    let o := c.outcome .experiment name
    let o' := c'.outcome .experiment name
    o.SameButFlag o' ∧ o.isExperimentGroup = false ∧
      o'.isExperimentGroup = rule.isExperimentGroup.getD false := by
  have hgroup : rule.groupName = some group := by
    have hfound := List.find?_some hrule
    exact eq_of_beq hfound
  have hindex := hrule
  rw [List.find?_eq_getElem?_findIdx] at hindex
  obtain ⟨exposures, ho'⟩ := outcome_of_decidedBy hs' (Snapshot.entry?_of_experiment? hspec) hindex
    hhandover hdecided
  have ho := outcome_of_forcedInto hs hspec hrule hforced
  intro o o'
  rw [show o = _ from ho, show o' = _ from ho']
  refine ⟨?_, rfl, rfl⟩
  unfold Outcome.SameButFlag Outcome.withRule Outcome.withGroup
  rw [hgroup]
  rfl

/-! ### Handing on -/

variable (c) in
/-- The outcome of an entity was handed on to it by an experiment, over the experiments of a path,
of which the last one is the experiment itself. -/
inductive LeadsTo (name : String) : EntityKind → String → List String → Prop
  | here : LeadsTo name .experiment name []
  | there {kind : EntityKind} {entity next : String} {path : List String}
      (delegate : (c.outcome kind entity).delegate = some next)
      (rest : LeadsTo name .experiment next path) : LeadsTo name kind entity (next :: path)

/-- An outcome that was handed on is made from the outcome of the experiment. -/
theorem outcome_of_delegate {kind : EntityKind} {entity next : String} (hs : c.snapshot = some s)
    (h : (c.outcome kind entity).delegate = some next) :
    ∃ spec experiment exposures, s.payload.entry? kind entity = some (.parsed spec) ∧
      s.experiment? next = some experiment ∧
      c.outcome kind entity =
        handedOver spec (.ofSpec spec (s.details (.recognized s.source))) exposures
          (next, experiment) (c.outcome .experiment next) := by
  cases hentrance : c.entrance kind entity with
  | settled o =>
    have ho : c.outcome kind entity = o := evaluate_of_settled hentrance
    rw [ho, (of_entrance_settled hentrance).1.delegate] at h
    cases h
  | unreadable =>
    have ho : c.outcome kind entity = c.halted .unsupported := evaluate_of_unreadable hentrance
    rw [ho, (c.isBare_halted _).delegate] at h
    cases h
  | rules s' spec =>
    obtain ⟨hs', hentry⟩ := of_entrance_rules hentrance
    obtain rfl : s = s' := Option.some.inj (hs.symm.trans hs')
    have ho : c.outcome kind entity = _ := evaluateWith_none_eq hentrance false
    cases hrun : c.evaluateRules (c.evaluateNested maxNesting) s spec none with
    | error halt =>
      rw [hrun] at ho
      rw [ho, (c.isBare_halted halt).delegate] at h
      cases h
    | ok r =>
      rw [hrun] at ho
      rw [ho] at h ⊢
      rcases (decideRules_eq_ok_iff.1 hrun).decidedInOrder (c.refines_own (Nat.le_succ _)) with
        ⟨before, rule, after, -, -, -, -, hr⟩ | ⟨-, hr⟩
      · dsimp only at h ⊢
        rw [hr] at h ⊢
        unfold decided at h ⊢
        cases hhandover : s.handover? rule with
        | none =>
          rw [hhandover] at h
          cases h
        | some target =>
          rw [hhandover] at h
          cases h
          exact ⟨spec, target.2, _, hentry, (Snapshot.of_handover? hhandover).2, rfl⟩
      · dsimp only at h
        rw [hr] at h
        unfold undecided at h
        split at h <;> cases h

/-- Handing on keeps the result. -/
theorem sameButFlag_handedOver {o o' : Outcome} (h : o.SameButFlag o') (spec : Spec)
    (base : Outcome) (target : String × Spec) (exposures exposures' : List SecondaryExposure) :
    (handedOver spec base exposures target o).SameButFlag
      (handedOver spec base exposures' target o') := by
  obtain ⟨ruleId, flag, _, _, reason, rfl⟩ := Outcome.sameButFlag_iff_exists.1 h
  rfl

/-- What an experiment comes to alike comes alike wherever it is handed on to, the flag included. -/
theorem sameButFlag_of_leadsTo (hs : c.snapshot = some s) (hs' : c'.snapshot = some s)
    (h : (c.outcome .experiment name).SameButFlag (c'.outcome .experiment name))
    {kind : EntityKind} {entity : String} {path : List String}
    (hpath : c.LeadsTo name kind entity path) (hpath' : c'.LeadsTo name kind entity path) :
    let o := c.outcome kind entity
    let o' := c'.outcome kind entity
    o.SameButFlag o' ∧
      o.isExperimentGroup = (c.outcome .experiment name).isExperimentGroup ∧
      o'.isExperimentGroup = (c'.outcome .experiment name).isExperimentGroup := by
  induction hpath with
  | here =>
    cases hpath'
    exact ⟨h, rfl, rfl⟩
  | there delegate _ ih =>
    cases hpath' with
    | there delegate' rest' =>
      obtain ⟨hsame, hflag, hflag'⟩ := ih rest'
      obtain ⟨spec, experiment, exposures, hentry, hexperiment, ho⟩ :=
        outcome_of_delegate hs delegate
      obtain ⟨spec', experiment', exposures', hentry', hexperiment', ho'⟩ :=
        outcome_of_delegate hs' delegate'
      cases hentry.symm.trans hentry'
      cases hexperiment.symm.trans hexperiment'
      intro o o'
      rw [show o = _ from ho, show o' = _ from ho']
      exact ⟨sameButFlag_handedOver hsame .., hflag, hflag'⟩

end Context

/-! ### The payload for a client -/

/-- A map made of a list shows under a key what was listed last under it. -/
theorem Dict.get?_ofList_map {α β : Type} (key : α → String) (f : α → β) (l : List α) (k : String) :
    (ofList (l.map fun a => (key a, f a))).get? k =
      ((ofList (l.map fun a => (key a, a))).get? k).map f := by
  induction l using List.reverseRecOn with
  | nil => rfl
  | append_singleton l a ih =>
    simp only [List.map_append, List.map_cons, List.map_nil, ofList_concat, get?_insert]
    split
    · rfl
    · exact ih

/-- The specs of which the payload for a client has entries, by hashed name. -/
def ClientPayloadOptions.shown (o : ClientPayloadOptions) (specs : Dict (Entry Spec)) :
    Dict (String × Spec) :=
  .ofList ((o.visible specs).map fun x => (o.hash.apply x.1, x))

namespace Engine

variable {e : Engine} {s : Snapshot}

/-- What an engine evaluates entities with for a user. -/
def contextFor (e : Engine) (user : User) : Context :=
  { user := e.placed user, snapshot := e.snapshot, overrides := e.overrides, now := e.intake.now }

theorem get?_clientPayload (hstorage : e.storage = none) (hs : e.snapshot = some s) (user : User)
    (o : ClientPayloadOptions) (key : String) :
    let p := (clientPayload user o e).1
    let c := e.contextFor user
    p.configs.get? key = ((o.shown s.payload.dynamicConfigs).get? key).map (fun x =>
        o.config x.1 x.2 (c.outcome (ClientPayloadOptions.configKind x.2) x.1)) ∧
      p.layers.get? key = ((o.shown s.payload.layers).get? key).map (fun x =>
        o.layer x.1 x.2 (c.outcome .layer x.1)) := by
  intro p c
  have hp : p = _ := congrArg Prod.fst (clientPayload_of_none hstorage hs user o)
  have hc : c = { user := e.placed user, snapshot := some s, overrides := e.overrides
                  now := e.intake.now } := by
    rw [← hs]
    rfl
  rw [hp, hc]
  exact ⟨Dict.get?_ofList_map _ _ _ _, Dict.get?_ofList_map _ _ _ _⟩

end Engine

/-! ### Forcing a group and landing in it -/

theorem Rule.getD_flag_iff {rule : Rule} :
    rule.isExperimentGroup.getD false = false ↔ rule.isExperimentGroup ≠ some true := by
  rcases rule.isExperimentGroup with _ | _ | _ <;> simp

/-- Being forced into a group of an experiment comes to the same as being let in by the first rule
of the group, in all but the rule, the exposures and the reason, exactly if the rule is not flagged
as one of an experiment group; otherwise it is the flag alone that differs. So it is for the
experiment itself, for the layers and experiments that it hands its outcome on to, and for their
entries in a payload for a client. -/
theorem Context.forced_sameResult_iff (c c' : Context) (s : Snapshot) (name group : String)
    (spec : Spec) (rule : Rule) (hs : c.snapshot = some s) (hs' : c'.snapshot = some s)
    (hspec : s.experiment? name = some spec)
    (hrule : spec.rules.find? (·.groupName == some group) = some rule)
    (hhandover : s.handover? rule = none) (hforced : c.ForcedInto name group)
    (hdecided : c'.DecidedBy .experiment name (spec.rules.findIdx (·.groupName == some group)))
    (kind : EntityKind) (entity : String) (path : List String)
    (hpath : c.LeadsTo name kind entity path) (hpath' : c'.LeadsTo name kind entity path) :
    let o := c.outcome kind entity
    let o' := c'.outcome kind entity
    (o.SameButFlag o' ∧ o.isExperimentGroup = false ∧
      o'.isExperimentGroup = rule.isExperimentGroup.getD false) ∧
    (o.SameResult o' ↔ rule.isExperimentGroup ≠ some true) ∧
    ∀ (e e' : Engine) (user user' : User) (options : ClientPayloadOptions) (key : String)
      (entitySpec : Spec), e.storage = none → e'.storage = none → e.contextFor user = c →
      e'.contextFor user' = c' →
      let p := (Engine.clientPayload user options e).1
      let p' := (Engine.clientPayload user' options e').1
      (kind = .experiment → entitySpec.entity ≠ "dynamic_config" →
        (options.shown s.payload.dynamicConfigs).get? key = some (entity, entitySpec) →
        ∃ a a', p.configs.get? key = some a ∧ p'.configs.get? key = some a' ∧
          (a.SameResult a' ↔ rule.isExperimentGroup ≠ some true)) ∧
      (kind = .layer → (options.shown s.payload.layers).get? key = some (entity, entitySpec) →
        ∃ a a', p.layers.get? key = some a ∧ p'.layers.get? key = some a' ∧
          (a.SameResult a' ↔ rule.isExperimentGroup ≠ some true)) := by
  intro o o'
  obtain ⟨hown, hownFlag, hownFlag'⟩ :=
    sameButFlag_of_forcedInto hs hs' hspec hrule hhandover hforced hdecided
  obtain ⟨hsame, hflag, hflag'⟩ := sameButFlag_of_leadsTo hs hs' hown hpath hpath'
  rw [hownFlag] at hflag
  rw [hownFlag'] at hflag'
  have hiff : o'.isExperimentGroup = o.isExperimentGroup ↔ rule.isExperimentGroup ≠ some true := by
    rw [show o.isExperimentGroup = _ from hflag, show o'.isExperimentGroup = _ from hflag']
    exact Rule.getD_flag_iff
  refine ⟨⟨hsame, hflag, hflag'⟩, hsame.sameResult_iff.trans hiff, ?_⟩
  intro e e' user user' options key entitySpec hstorage hstorage' hcontext hcontext' p p'
  have he : e.snapshot = some s := by
    rw [← hs, ← hcontext]
    rfl
  have he' : e'.snapshot = some s := by
    rw [← hs', ← hcontext']
    rfl
  obtain ⟨hconfigs, hlayers⟩ := Engine.get?_clientPayload hstorage he user options key
  obtain ⟨hconfigs', hlayers'⟩ := Engine.get?_clientPayload hstorage' he' user' options key
  rw [hcontext] at hconfigs hlayers
  rw [hcontext'] at hconfigs' hlayers'
  refine ⟨fun hkind hentity hshown => ?_, fun hkind hshown => ?_⟩
  · subst hkind
    have hconfigKind : ClientPayloadOptions.configKind entitySpec = .experiment := if_neg hentity
    rw [hshown, Option.map_some, hconfigKind] at hconfigs hconfigs'
    exact ⟨_, _, hconfigs, hconfigs',
      (options.sameResult_config_iff entity hconfigKind hsame).trans hiff⟩
  · subst hkind
    rw [hshown, Option.map_some] at hlayers hlayers'
    exact ⟨_, _, hlayers, hlayers',
      (options.sameResult_layer_iff entity entitySpec hsame).trans hiff⟩

/-! ### A group with the flag -/

namespace Allocation

/-- The specs of the page, with the rule of the experiment flagged or not. -/
def flaggedSpecs (flag : Option Bool) : Snapshot :=
  { specs with
    payload :=
      { specs.payload with
        dynamicConfigs := .ofList
          [("colors", .parsed { colors with
            rules := colors.rules.map ({ · with isExperimentGroup := flag }) })] } }

/-- An engine with these specs, and with overrides. -/
def flaggedServer (flag : Option Bool) (overrides : Overrides) : Engine :=
  { settings := {}, overrides
    intake := { catalog := { snapshot := some (flaggedSpecs flag) }, now := 1 } }

/-- Everyone is forced into the group. -/
def toBlue : Overrides := { entries := [(⟨.experiment, "colors", none⟩, .group "Blue")] }

/-- A user who is forced into the group. -/
def forced (flag : Option Bool) : Context :=
  (flaggedServer flag toBlue).contextFor (.withUserId "u")

/-- A user who is let in. -/
def letIn (flag : Option Bool) : Context :=
  (flaggedServer flag {}).contextFor (.withUserId "v")

theorem forcedInto_blue (flag : Option Bool) : (forced flag).ForcedInto "colors" "Blue" := by
  refine ⟨[some "u"], none, [], rfl, rfl, fun x hx v hv => ?_⟩
  obtain rfl := List.mem_singleton.1 hx
  cases hv

theorem decidedBy_blue (flag : Option Bool) : (letIn flag).DecidedBy .experiment "colors" 0 := by
  refine ⟨flaggedSpecs flag, _, [], _, [], rfl, rfl, rfl, by simp, ⟨⟨_, rfl, rfl⟩, ?_, ?_⟩⟩
  · rcases flag with _ | _ | _ <;> decide +kernel
  · rintro target ⟨⟩

theorem forced_sameResult_iff_page :
    ((forced none).ForcedInto "colors" "Blue" ∧ (letIn none).DecidedBy .experiment "colors" 0 ∧
      (forced none).LeadsTo "colors" .layer "page" ["colors"] ∧
      (letIn none).LeadsTo "colors" .layer "page" ["colors"]) ∧
    ((forced none).outcome .layer "page").SameResult ((letIn none).outcome .layer "page") ∧
    ∃ a a', (Engine.clientPayload (.withUserId "u") { hash := .identity }
        (flaggedServer none toBlue)).1.layers.get? "page" = some a ∧
      (Engine.clientPayload (.withUserId "v") { hash := .identity }
        (flaggedServer none {})).1.layers.get? "page" = some a' ∧ a.SameResult a' := by
  have hpath : (forced none).LeadsTo "colors" .layer "page" ["colors"] :=
    .there (by decide +kernel) .here
  have hpath' : (letIn none).LeadsTo "colors" .layer "page" ["colors"] :=
    .there (by decide +kernel) .here
  obtain ⟨-, hiff, hpayload⟩ := Context.forced_sameResult_iff (forced none) (letIn none)
    (flaggedSpecs none) "colors" "Blue" _ _ rfl rfl rfl rfl rfl (forcedInto_blue none)
    (decidedBy_blue none) .layer "page" ["colors"] hpath hpath'
  obtain ⟨a, a', ha, ha', hsame⟩ := (hpayload (flaggedServer none toBlue) (flaggedServer none {})
    (.withUserId "u") (.withUserId "v") { hash := .identity } "page" page rfl rfl rfl rfl).2 rfl rfl
  exact ⟨⟨forcedInto_blue none, decidedBy_blue none, hpath, hpath'⟩, hiff.2 (by decide), a, a', ha,
    ha', hsame.2 (by decide)⟩

/-- Not everyone who is forced into a group gets the result of those who are let in by its rule: the
flag of the rule is not set. -/
theorem not_forall_forced_sameResult :
    ¬ ∀ (c c' : Context) (s : Snapshot) (name group : String) (spec : Spec) (rule : Rule),
      c.snapshot = some s → c'.snapshot = some s → s.experiment? name = some spec →
      spec.enabled = true → spec.rules.find? (·.groupName == some group) = some rule →
      s.handover? rule = none → c.ForcedInto name group →
      c'.DecidedBy .experiment name (spec.rules.findIdx (·.groupName == some group)) →
      (c.outcome .experiment name).SameResult (c'.outcome .experiment name) := by
  intro h
  have hsame := h (forced (some true)) (letIn (some true)) (flaggedSpecs (some true)) "colors"
    "Blue" _ _ rfl rfl rfl rfl rfl rfl (forcedInto_blue _) (decidedBy_blue _)
  have hflag : ((letIn (some true)).outcome .experiment "colors").isExperimentGroup =
      ((forced (some true)).outcome .experiment "colors").isExperimentGroup := by
    rw [hsame]
  have hdiffer : ((letIn (some true)).outcome .experiment "colors").isExperimentGroup ≠
      ((forced (some true)).outcome .experiment "colors").isExperimentGroup := by
    decide +kernel
  exact hdiffer hflag

end Allocation

end Rollout
