import Mathlib.Data.List.Induction
import Mathlib.Data.List.Nodup
import Rollout.Proofs.Interleaving
import Rollout.Proofs.RuleOrder

/-!
# What a client is told

The payload for a client has one entry, under its hashed name, for each readable spec that a client
may see and that the filters keep, and no other (`ClientPayloadOptions.Lists`). Each entry says what
evaluating the entity by itself comes to (`Engine.clientPayload_lists`).
-/

namespace Rollout

open Digest (NameHash)

/-! ### Maps with other keys -/

/-- The entries of a list without a key that occurs twice are those of its map. -/
theorem Dict.get?_ofList_iff {α : Type} {l : List (String × α)} (h : (l.map Prod.fst).Nodup)
    {k : String} {a : α} : (ofList l).get? k = some a ↔ (k, a) ∈ l := by
  induction l using List.reverseRecOn with
  | nil => simp [ofList]
  | append_singleton l e ih =>
    rw [List.map_append, List.nodup_append] at h
    obtain ⟨hl, -, hnew⟩ := h
    have hconcat : ofList (l ++ [e]) = (ofList l).insert e.1 e.2 := List.foldl_concat ..
    rw [hconcat, get?_insert, List.mem_append, List.mem_singleton]
    by_cases hk : k = e.1
    · subst hk
      have hnot : (e.1, a) ∉ l := fun hmem =>
        hnew e.1 (List.mem_map.2 ⟨_, hmem, rfl⟩) e.1 (by simp) rfl
      simp [hnot, Prod.ext_iff, eq_comm]
    · simp [hk, ih hl, Prod.ext_iff]

theorem Dict.mem_keys_iff {α : Type} {d : Dict α} {k : String} : k ∈ d.keys ↔ d.contains k := by
  unfold keys contains
  rw [List.mem_map, Option.isSome_iff_exists]
  constructor
  · rintro ⟨e, he, rfl⟩
    exact ⟨e.2, mem_entries_iff.1 he⟩
  · rintro ⟨a, ha⟩
    exact ⟨(k, a), mem_entries_iff.2 ha, rfl⟩

theorem Dict.nodup_keys {α : Type} (d : Dict α) : d.keys.Nodup := by
  refine List.pairwise_map.2 (d.increasing.imp ?_)
  intro e e' hlt heq
  exact String.lt_irrefl e.1 (heq ▸ hlt)

/-- The hash tells the names of a map apart. -/
def Separates {α : Type} (hash : NameHash) (specs : Dict α) : Prop :=
  ∀ name name', specs.contains name → specs.contains name' → hash.apply name = hash.apply name' →
    name = name'

section Separates

variable {α : Type} {hash : NameHash} {specs : Dict α}

theorem separates_iff : Separates hash specs ↔ (specs.keys.map hash.apply).Nodup := by
  rw [List.nodup_map_iff_inj_on specs.nodup_keys]
  simp only [Dict.mem_keys_iff]
  exact ⟨fun h name hname name' hname' => h name name' hname hname',
    fun h name name' hname hname' => h name hname name' hname'⟩

instance : Decidable (Separates hash specs) := decidable_of_iff' _ separates_iff

/-- A map can be looked up by hashed names that are told apart. -/
theorem Dict.get?_rekeyed {β : Type} (h : Separates hash specs) (entry : String → α → β)
    {key : String} {b : β} :
    (ofList (specs.toList.map fun e => (hash.apply e.1, entry e.1 e.2))).get? key = some b ↔
      ∃ name spec, specs.get? name = some spec ∧ key = hash.apply name ∧ b = entry name spec := by
  have hnodup :
      ((specs.toList.map fun e => (hash.apply e.1, entry e.1 e.2)).map Prod.fst).Nodup := by
    rw [List.map_map]
    have hkeys := separates_iff.1 h
    unfold keys at hkeys
    rw [List.map_map] at hkeys
    exact hkeys
  rw [get?_ofList_iff hnodup, List.mem_map]
  constructor
  · rintro ⟨e, he, heq⟩
    obtain ⟨rfl, rfl⟩ := Prod.mk.inj heq
    exact ⟨e.1, e.2, mem_entries_iff.1 he, rfl, rfl⟩
  · rintro ⟨name, spec, hspec, rfl, rfl⟩
    exact ⟨(name, spec), mem_entries_iff.2 hspec, rfl⟩

end Separates

/-! ### What is told -/

namespace ClientPayloadOptions

variable (o : ClientPayloadOptions)

/-- Whether a client may see a spec and the filters keep it. -/
def tells (name : String) (spec : Spec) : Bool :=
  spec.entity != "segment" && spec.entity != "holdout" && o.keeps spec.entity name

/-- The specs that a client is told of. -/
def told (specs : Dict (Entry Spec)) : Dict Spec :=
  specs.filterMap fun name entry => entry.get?.filter (o.tells name)

theorem visible_eq (specs : Dict (Entry Spec)) : o.visible specs = (o.told specs).toList := by
  unfold visible told Dict.filterMap Dict.toList
  dsimp only
  congr 1
  funext e
  obtain ⟨name, spec | raw⟩ := e
  · show (if spec.entity = "segment" ∨ spec.entity = "holdout" then none
      else if o.keeps spec.entity name then some (name, spec) else none) =
      (if o.tells name spec then some spec else none).map (name, ·)
    unfold tells
    by_cases hhidden : spec.entity = "segment" ∨ spec.entity = "holdout"
    · rw [if_pos hhidden, if_neg]
      · rfl
      · rcases hhidden with h | h <;> simp [h]
    · obtain ⟨hsegment, hholdout⟩ := not_or.1 hhidden
      rw [if_neg hhidden]
      cases hkeeps : o.keeps spec.entity name <;> simp [hsegment, hholdout]
  · rfl

theorem get?_told (specs : Dict (Entry Spec)) {name : String} {spec : Spec} :
    (o.told specs).get? name = some spec ↔
      specs.get? name = some (.parsed spec) ∧ spec.entity ≠ "segment" ∧ spec.entity ≠ "holdout" ∧
        o.keeps spec.entity name = true := by
  unfold told
  rw [Dict.get?_filterMap, Option.bind_eq_some_iff]
  constructor
  · rintro ⟨entry, hentry, hfilter⟩
    obtain ⟨hspec, htells⟩ := Option.filter_eq_some_iff.1 hfilter
    cases entry with
    | failed raw => cases hspec
    | parsed spec' =>
      cases hspec
      exact ⟨hentry, by simpa [tells, and_assoc] using htells⟩
  · rintro ⟨hentry, htells⟩
    exact ⟨_, hentry, Option.filter_eq_some_iff.2 ⟨rfl, by simpa [tells, and_assoc] using htells⟩⟩

/-- The exposures of which a client is told are those that come up first, in order. -/
theorem clientExposures_eq (l : List SecondaryExposure) :
    o.clientExposures l = l.eraseDups.map fun x => { x with gate := o.hash.apply x.gate } := by
  -- The loop looks back at what it has kept, so the induction is on the end of the list.
  have hkept : l.foldl (fun kept x => if kept.contains x then kept else kept ++ [x]) [] =
      l.eraseDups := by
    induction l using List.reverseRecOn with
    | nil => rfl
    | append_singleton l x ih =>
      rw [List.foldl_concat, ih, List.eraseDups_append]
      by_cases hx : x ∈ l
      · simp [hx, List.removeAll]
      · simp [hx, List.removeAll, List.eraseDups_cons]
  exact congrArg _ hkept

theorem config_eq (name : String) (spec : Spec) (r : Outcome) :
    o.config name spec r =
      { name := o.hash.apply name, members := r.members, ruleId := r.ruleId
        isDeviceBased := isDeviceBased spec.idType, exposures := o.clientExposures r.exposures
        idType := o.idType? spec
        kind :=
          if spec.entity = "dynamic_config" then .inl r.value
          else .inr
            { isInLayer := r.isInLayer, explicitParameters := r.explicitParameters
              groupName := r.groupName, isActive := r.isExperimentActive
              isUserIn := r.isExperimentGroup } } := by
  unfold config configKind
  by_cases h : spec.entity = "dynamic_config" <;> simp [h]

/-- The entries are those of the specs that a client may see and the filters keep, one for each. -/
def Lists {β : Type} (specs : Dict (Entry Spec)) (entry : String → Spec → β) (entries : Dict β) :
    Prop :=
  ∀ key b, entries.get? key = some b ↔
    ∃ name spec, specs.get? name = some (.parsed spec) ∧ spec.entity ≠ "segment" ∧
      spec.entity ≠ "holdout" ∧ o.keeps spec.entity name = true ∧ key = o.hash.apply name ∧
      b = entry name spec

theorem lists_of_separates {β : Type} {specs : Dict (Entry Spec)} (h : Separates o.hash specs)
    (entry : String → Spec → β) :
    o.Lists specs entry
      (.ofList ((o.visible specs).map fun e => (o.hash.apply e.1, entry e.1 e.2))) := by
  intro key b
  have hcontains : ∀ name, (o.told specs).contains name → specs.contains name := by
    intro name hname
    obtain ⟨spec, hspec⟩ := Option.isSome_iff_exists.1 hname
    exact Option.isSome_iff_exists.2 ⟨_, ((o.get?_told specs).1 hspec).1⟩
  have htold : Separates o.hash (o.told specs) := fun name name' hname hname' =>
    h name name' (hcontains name hname) (hcontains name' hname')
  rw [visible_eq, Dict.get?_rekeyed htold]
  simp only [get?_told, and_assoc]

end ClientPayloadOptions

namespace Engine

variable {e : Engine}

/-! ### One entry after another -/

theorem mapM_of_eq {α β : Type} {f : α → StateM Engine β} {g : α → β}
    (h : ∀ a, f a e = (g a, e)) (l : List α) : l.mapM f e = (l.map g, e) := by
  induction l with
  | nil => rfl
  | cons a l ih =>
    rw [List.mapM_cons, bind_apply, h, bind_apply, ih]
    rfl

theorem entries_of_eq {β : Type} {f : String → Spec → StateM Engine β} {g : String → Spec → β}
    (h : ∀ name spec, f name spec e = (g name spec, e)) (specs : List (String × Spec))
    (hash : NameHash) :
    ClientPayload.entries specs hash f e =
      (.ofList (specs.map fun x => (hash.apply x.1, g x.1 x.2)), e) := by
  unfold ClientPayload.entries
  rw [bind_apply, mapM_of_eq]
  · rfl
  · intro x
    show (f x.1 x.2 >>= fun b => pure (hash.apply x.1, b)) e = _
    rw [bind_apply, h]
    rfl

theorem evaluateAgainst_of_none (hstorage : e.storage = none) (snapshot : Option Snapshot)
    (user : User) (kind : EntityKind) (name : String) (isSticky : Bool) :
    evaluateAgainst snapshot user kind name isSticky e =
      (({ user, snapshot, overrides := e.overrides, now := e.intake.now } : Context).outcome kind
        name, e) := by
  obtain ⟨settings, intake, overrides, storage⟩ := e
  obtain rfl : storage = none := hstorage
  refine Prod.ext ?_ rfl
  -- With nothing stored, it does not matter whether assignments are to be kept.
  show (Context.evaluate _ none isSticky kind name).outcome =
    (Context.evaluate _ none false kind name).outcome
  unfold Context.evaluate
  cases Context.entrance _ kind name <;> rfl

/-- Without stored assignments, the payload for a client is made of the outcomes of its entities,
and making it changes nothing. -/
theorem clientPayload_of_none (hstorage : e.storage = none) {s : Snapshot}
    (hsnapshot : e.snapshot = some s) (user : User) (o : ClientPayloadOptions) :
    let c : Context :=
      { user := e.placed user, snapshot := some s, overrides := e.overrides, now := e.intake.now }
    let entries {β : Type} (specs : Dict (Entry Spec)) (entry : String → Spec → β) : Dict β :=
      .ofList ((o.visible specs).map fun x => (o.hash.apply x.1, entry x.1 x.2))
    clientPayload user o e =
      ({ gates := entries s.payload.featureGates fun name spec =>
           o.gate name spec (c.outcome .gate name)
         configs := entries s.payload.dynamicConfigs fun name spec =>
           o.config name spec (c.outcome (ClientPayloadOptions.configKind spec) name)
         layers := entries s.payload.layers fun name spec =>
           o.layer name spec (c.outcome .layer name)
         time := s.lcut, hasUpdates := true, hash := o.hash, user := e.placed user }, e) := by
  intro c entries
  have heval : ∀ {β : Type} (kind : EntityKind) (name : String) (f : Outcome → β),
      (do return f (← evaluateAgainst (some s) (e.placed user) kind name false) :
        StateM Engine β) e = (f (c.outcome kind name), e) := by
    intro β kind name f
    rw [bind_apply, evaluateAgainst_of_none hstorage]
    rfl
  show ClientPayload.make e.snapshot (e.placed user) o (fun kind name =>
    evaluateAgainst e.snapshot (e.placed user) kind name false) e = _
  rw [hsnapshot]
  unfold ClientPayload.make
  dsimp only
  rw [bind_apply, entries_of_eq fun name spec => heval .gate name (o.gate name spec),
    bind_apply, entries_of_eq fun name spec =>
      heval (ClientPayloadOptions.configKind spec) name (o.config name spec),
    bind_apply, entries_of_eq fun name spec => heval .layer name (o.layer name spec)]
  rfl

theorem evaluate_of_none (hstorage : e.storage = none) {s : Snapshot}
    (hsnapshot : e.snapshot = some s) (user : User) (kind : EntityKind) (name : String)
    (options : EvaluationOptions) :
    (evaluate user kind name options e).1 =
      ({ user, snapshot := some s, overrides := e.overrides, now := e.intake.now } :
        Context).outcome kind name := by
  show (evaluateAgainst e.snapshot user kind name options.isSticky e).1 = _
  rw [hsnapshot, evaluateAgainst_of_none hstorage]

/-- Without stored assignments and where the hash tells the names of a map apart, the payload for a
client has one entry for each entity of the map that clients may see and the filters keep, which
says what evaluating the entity by itself comes to. Repeated exposures are dropped, and the names of
gates and of the experiment that a layer hands over to are hashed. -/
theorem clientPayload_lists (hstorage : e.storage = none) (user : User) (o : ClientPayloadOptions)
    (options : EvaluationOptions) :
    let p := (clientPayload user o e).1
    let outcome (kind : EntityKind) (name : String) : Outcome :=
      (evaluate (e.placed user) kind name options e).1
    let exposures (l : List SecondaryExposure) : List SecondaryExposure :=
      l.eraseDups.map fun x => { x with gate := o.hash.apply x.gate }
    (e.snapshot = none → p.gates = ∅ ∧ p.configs = ∅ ∧ p.layers = ∅) ∧
    ∀ s, e.snapshot = some s →
      (Separates o.hash s.payload.featureGates →
        o.Lists s.payload.featureGates (fun name spec =>
          let r := outcome .gate name
          { name := o.hash.apply name, value := r.value, ruleId := r.ruleId
            exposures := exposures r.exposures, idType := o.idType? spec }) p.gates) ∧
      (Separates o.hash s.payload.dynamicConfigs →
        o.Lists s.payload.dynamicConfigs (fun name spec =>
          let isDynamic := spec.entity = "dynamic_config"
          let r := outcome (if isDynamic then .dynamicConfig else .experiment) name
          { name := o.hash.apply name, members := r.members, ruleId := r.ruleId
            isDeviceBased := ClientPayloadOptions.isDeviceBased spec.idType
            exposures := exposures r.exposures, idType := o.idType? spec
            kind :=
              if isDynamic then .inl r.value
              else .inr
                { isInLayer := r.isInLayer, explicitParameters := r.explicitParameters
                  groupName := r.groupName, isActive := r.isExperimentActive
                  isUserIn := r.isExperimentGroup } }) p.configs) ∧
      (Separates o.hash s.payload.layers →
        o.Lists s.payload.layers (fun name spec =>
          let r := outcome .layer name
          { name := o.hash.apply name, members := r.members, ruleId := r.ruleId
            isDeviceBased := ClientPayloadOptions.isDeviceBased spec.idType
            exposures := exposures r.exposures
            undelegatedExposures := exposures (r.undelegatedExposures.getD [])
            explicitParameters := r.explicitParameters
            allocatedExperiment := r.delegate.map o.hash.apply, groupName := r.groupName
            isExperimentActive := r.isExperimentActive
            isUserInExperiment := r.isExperimentGroup }) p.layers) := by
  intro p outcome exposures
  have hexposures : ∀ l, exposures l = o.clientExposures l := fun l => (o.clientExposures_eq l).symm
  refine ⟨fun hnone => ?_, fun s hsnapshot => ?_⟩
  · have hempty : p = { hash := o.hash, user := e.placed user } := by
      show (ClientPayload.make e.snapshot (e.placed user) o (fun kind name =>
        evaluateAgainst e.snapshot (e.placed user) kind name false) e).1 = _
      rw [hnone]
      rfl
    rw [hempty]
    exact ⟨rfl, rfl, rfl⟩
  · have hp := congrArg Prod.fst (clientPayload_of_none hstorage hsnapshot user o)
    have houtcome := evaluate_of_none hstorage hsnapshot (e.placed user)
    refine ⟨fun h => ?_, fun h => ?_, fun h => ?_⟩
    · have hgates := congrArg ClientPayload.gates hp
      change p.gates = _ at hgates
      rw [hgates]
      simp only [outcome, houtcome, hexposures]
      exact o.lists_of_separates h _
    · have hconfigs := congrArg ClientPayload.configs hp
      change p.configs = _ at hconfigs
      simp only [ClientPayloadOptions.config_eq, ClientPayloadOptions.configKind] at hconfigs
      rw [hconfigs]
      simp only [outcome, houtcome, hexposures]
      exact o.lists_of_separates h _
    · have hlayers := congrArg ClientPayload.layers hp
      change p.layers = _ at hlayers
      rw [hlayers]
      simp only [outcome, houtcome, hexposures]
      exact o.lists_of_separates h _

/-! ### A page for a client -/

/-- The specs of a page, with a segment. -/
def pageSpecs : Snapshot :=
  { payload :=
      { featureGates := .ofList
          [("employees", .parsed { Allocation.staff with entity := "segment" }),
            ("staff", .parsed Allocation.staff)]
        dynamicConfigs := .ofList [("colors", .parsed Allocation.colors)]
        layers := .ofList [("page", .parsed Allocation.page)] }
    idLists := ∅, source := .network, lcut := 1, receivedAt := 1 }

/-- An engine with these specs. -/
def pageServer : Engine :=
  { settings := {}, intake := { catalog := { snapshot := some pageSpecs }, now := 1 } }

theorem clientPayload_lists_page :
    (pageServer.storage = none ∧ pageServer.snapshot = some pageSpecs ∧
      Separates .djb2 pageSpecs.payload.featureGates ∧
      Separates .djb2 pageSpecs.payload.layers) ∧
    let p := (clientPayload (.withUserId "u") { hash := .djb2 } pageServer).1
    let outcome (kind : EntityKind) (name : String) : Outcome :=
      (evaluate (pageServer.placed (.withUserId "u")) kind name {} pageServer).1
    (∃ g, p.gates.get? (Digest.djb2Text "staff") = some g ∧
      g.value = (outcome .gate "staff").value) ∧
    ∃ l, p.layers.get? (Digest.djb2Text "page") = some l ∧
      l.allocatedExperiment = (outcome .layer "page").delegate.map Digest.djb2Text := by
  have hgates : Separates .djb2 pageSpecs.payload.featureGates := by decide +kernel
  have hlayers : Separates .djb2 pageSpecs.payload.layers := by decide +kernel
  refine ⟨⟨rfl, rfl, hgates, hlayers⟩, ?_⟩
  obtain ⟨hlistsGates, -, hlistsLayers⟩ := (clientPayload_lists (e := pageServer) rfl
    (.withUserId "u") { hash := .djb2 } {}).2 pageSpecs rfl
  have hstaff := (hlistsGates hgates (Digest.djb2Text "staff") _).2
    ⟨"staff", Allocation.staff, rfl, by decide, by decide, rfl, rfl, rfl⟩
  have hpage := (hlistsLayers hlayers (Digest.djb2Text "page") _).2
    ⟨"page", Allocation.page, rfl, by decide, by decide, rfl, rfl, rfl⟩
  intro p outcome
  dsimp only at hstaff hpage
  exact ⟨⟨_, hstaff, by simp only [outcome]⟩, _, hpage, by simp only [outcome]; rfl⟩

end Engine

end Rollout
