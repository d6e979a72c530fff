import Rollout.Proofs.ClientEntries

/-!
# Filters of a payload for a client

A filter is meant for a kind of entity: gates, dynamic configs, experiments or layers. The payload
for a client shows of each entity of what kind it was taken to be, by the map it stands in and by
how it was evaluated. Which filter applies to an entity is decided by what its spec says of itself,
though (`ClientPayloadOptions.keeps_eq`), and a spec may say something else, or nothing. The filters
therefore select by kind, whatever they are, if and only if all specs that clients may see say of
what kind they are (`Engine.selectsByKind_iff`).
-/

namespace Rollout

open Digest (NameHash)

/-! ### Maps of lists with repeated keys -/

namespace Dict

variable {α : Type} {l : List (String × α)} {k : String} {a : α}

theorem ofList_concat (l : List (String × α)) (e : String × α) :
    ofList (l ++ [e]) = (ofList l).insert e.1 e.2 :=
  List.foldl_concat ..

theorem mem_of_get?_ofList (h : (ofList l).get? k = some a) : (k, a) ∈ l := by
  induction l using List.reverseRecOn with
  | nil => cases h
  | append_singleton l e ih =>
    rw [ofList_concat, get?_insert] at h
    rw [List.mem_append, List.mem_singleton]
    split at h
    · next hk =>
      obtain rfl := Option.some.inj h
      exact .inr (Prod.ext hk rfl)
    · exact .inl (ih h)

theorem exists_get?_ofList (h : k ∈ l.map Prod.fst) : ∃ a, (ofList l).get? k = some a := by
  induction l using List.reverseRecOn with
  | nil => cases h
  | append_singleton l e ih =>
    rw [ofList_concat, get?_insert]
    by_cases hk : k = e.1
    · exact ⟨e.2, if_pos hk⟩
    · rw [if_neg hk]
      rw [List.map_append, List.mem_append] at h
      exact ih (h.resolve_right fun he => hk (List.mem_singleton.1 he))

end Dict

/-! ### Entries made one after another -/

section Entries

variable {σ α β : Type} {f : α → StateM σ β}

theorem map_mapM {γ : Type} (g : α → γ) (h : β → γ) (hf : ∀ a s, h (f a s).1 = g a)
    (l : List α) (s : σ) : (l.mapM f s).1.map h = l.map g := by
  induction l generalizing s with
  | nil => rfl
  | cons a l ih =>
    rw [List.mapM_cons, bind_apply, bind_apply]
    exact congrArg₂ _ (hf a s) (ih _)

theorem exists_of_mem_mapM {l : List α} {s : σ} {b : β} (h : b ∈ (l.mapM f s).1) :
    ∃ a ∈ l, ∃ s', b = (f a s').1 := by
  induction l generalizing s with
  | nil => cases h
  | cons a l ih =>
    rw [List.mapM_cons, bind_apply, bind_apply] at h
    rcases List.mem_cons.1 h with rfl | h
    · exact ⟨a, List.mem_cons_self, s, rfl⟩
    · obtain ⟨a', ha', hb⟩ := ih h
      exact ⟨a', List.mem_cons_of_mem a ha', hb⟩

end Entries

/-! ### Kinds -/

/-- Whether a client may see a spec. -/
def Spec.isForClients (spec : Spec) : Prop := spec.entity ≠ "segment" ∧ spec.entity ≠ "holdout"

/-- The kind of entity of which a spec says that it is, if it does. -/
def Spec.statedKind? (spec : Spec) : Option EntityKind :=
  match spec.entity with
  | "feature_gate" => some .gate
  | "dynamic_config" => some .dynamicConfig
  | "experiment" => some .experiment
  | "layer" => some .layer
  | _ => none

/-- The kind of entity as which a client is told of a config. -/
def ClientConfig.toldKind (c : ClientConfig) : EntityKind :=
  match c.kind with
  | .inl _ => .dynamicConfig
  | .inr _ => .experiment

namespace ClientPayloadOptions

/-- The filter of a kind of entity, if it is set. -/
def filter? (o : ClientPayloadOptions) : EntityKind → Option (List String)
  | .gate => o.gates
  | .dynamicConfig => o.dynamicConfigs
  | .experiment => o.experiments
  | .layer => o.layers

/-- The filter that applies to a spec is that of the kind that it states. -/
theorem keeps_eq (o : ClientPayloadOptions) (spec : Spec) (name : String) :
    o.keeps spec.entity name =
      ((spec.statedKind?.bind o.filter?).map (·.contains name)).getD true := by
  unfold keeps Spec.statedKind?
  generalize spec.entity = entity
  split <;> simp [filter?, *]

theorem configKind_of_statedKind? {spec : Spec} {kind : EntityKind}
    (h : spec.statedKind? = some kind) (hkind : kind = .dynamicConfig ∨ kind = .experiment) :
    configKind spec = kind := by
  unfold Spec.statedKind? at h
  unfold configKind
  split at h <;> cases h <;> simp_all

theorem toldKind_config (o : ClientPayloadOptions) (name : String) (spec : Spec) (r : Outcome) :
    (o.config name spec r).toldKind = configKind spec := by
  unfold config ClientConfig.toldKind configKind
  by_cases h : spec.entity = "dynamic_config" <;> simp [h]

end ClientPayloadOptions

/-! ### One map -/

namespace ClientPayloadOptions

section Map

variable {β : Type} (o : ClientPayloadOptions) (specs : Dict (Entry Spec))
  (kind : Spec → EntityKind) (toldKind : β → EntityKind) (entry : String → Spec → Outcome → β)

/-- An entry for a client belongs to an entity: it is made from the entity's spec and some outcome,
under the hashed name. -/
def Belongs (name key : String) (b : β) : Prop :=
  ∃ spec r, specs.get? name = some (.parsed spec) ∧ key = o.hash.apply name ∧ b = entry name spec r

/-- The entries of a kind whose filter is set belong to entities that the filter names. Of a kind
whose filter is not set, all entities that clients may see have entries. -/
structure Selects (entries : Dict β) : Prop where
  named : ∀ key b filter, entries.get? key = some b → o.filter? (toldKind b) = some filter →
    ∃ name ∈ filter, o.Belongs specs entry name key b
  unfiltered : ∀ name spec, specs.get? name = some (.parsed spec) → spec.isForClients →
    o.filter? (kind spec) = none → ∃ b, entries.get? (o.hash.apply name) = some b

/-- All specs of a map that clients may see say of what kind they are. -/
def StateKinds : Prop :=
  ∀ name spec, specs.get? name = some (.parsed spec) → spec.isForClients →
    spec.statedKind? = some (kind spec)

variable {o specs kind toldKind entry} {σ : Type}
  {evaluate : EntityKind → String → StateM σ Outcome}

variable (o specs kind entry evaluate) in
/-- The entries that a client is given. -/
def given : StateM σ (Dict β) :=
  ClientPayload.entries (o.visible specs) o.hash fun name spec => do
    return entry name spec (← evaluate (kind spec) name)

theorem mem_visible_iff {name : String} {spec : Spec} :
    (name, spec) ∈ o.visible specs ↔ specs.get? name = some (.parsed spec) ∧ spec.isForClients ∧
      o.keeps spec.entity name = true := by
  rw [visible_eq]
  refine Dict.mem_entries_iff.trans ((o.get?_told specs).trans ?_)
  unfold Spec.isForClients
  rw [and_assoc]

/-- Whatever is given belongs to an entity that the filters keep. -/
theorem exists_of_get?_given {s : σ} {key : String} {b : β}
    (h : (o.given specs kind entry evaluate s).1.get? key = some b) :
    ∃ name spec, (name, spec) ∈ o.visible specs ∧ key = o.hash.apply name ∧
      ∃ r, b = entry name spec r := by
  obtain ⟨⟨name, spec⟩, hvisible, s', heq⟩ := exists_of_mem_mapM (Dict.mem_of_get?_ofList h)
  obtain ⟨rfl, rfl⟩ := Prod.mk.inj heq
  exact ⟨name, spec, hvisible, rfl, _, rfl⟩

/-- Of each entity that clients may see and the filters keep, something is given. -/
theorem exists_get?_given {name : String} {spec : Spec} (h : (name, spec) ∈ o.visible specs)
    (s : σ) : ∃ b, (o.given specs kind entry evaluate s).1.get? (o.hash.apply name) = some b := by
  refine Dict.exists_get?_ofList ?_
  have hkeys := map_mapM (f := fun x : String × Spec => do
    return (o.hash.apply x.1, entry x.1 x.2 (← evaluate (kind x.2) x.1)))
    (fun x => o.hash.apply x.1) Prod.fst (fun _ _ => rfl) (o.visible specs) s
  exact hkeys.symm ▸ List.mem_map_of_mem h

theorem selects_of_stateKinds (hstate : StateKinds specs kind)
    (htold : ∀ name spec r, toldKind (entry name spec r) = kind spec) (s : σ) :
    o.Selects specs kind toldKind entry (o.given specs kind entry evaluate s).1 where
  named key b filter hb hfilter := by
    obtain ⟨name, spec, hvisible, hkey, r, rfl⟩ := exists_of_get?_given hb
    obtain ⟨hspec, hclients, hkeeps⟩ := mem_visible_iff.1 hvisible
    rw [htold] at hfilter
    rw [keeps_eq, hstate name spec hspec hclients, Option.bind_some, hfilter] at hkeeps
    exact ⟨name, List.contains_iff_mem.1 hkeeps, spec, r, hspec, hkey, rfl⟩
  unfiltered name spec hspec hclients hnone := by
    refine exists_get?_given (mem_visible_iff.2 ⟨hspec, hclients, ?_⟩) s
    rw [keeps_eq, hstate name spec hspec hclients, Option.bind_some, hnone]
    rfl

end Map

/-- Options that drop everything of some kinds. -/
def dropping (drops : EntityKind → Bool) : ClientPayloadOptions :=
  let filter (kind : EntityKind) : Option (List String) := if drops kind then some [] else none
  { gates := filter .gate, dynamicConfigs := filter .dynamicConfig
    experiments := filter .experiment, layers := filter .layer }

theorem filter?_dropping (drops : EntityKind → Bool) (kind : EntityKind) :
    (dropping drops).filter? kind = if drops kind then some [] else none := by
  cases kind <;> rfl

/-- Where options that drop all kinds of a map select by kind, the specs of the map say of what kind
they are: of one that does not, an entry is given, and no filter names it. -/
theorem stateKinds_of_selects {β σ : Type} {drops : EntityKind → Bool} {specs : Dict (Entry Spec)}
    {kind : Spec → EntityKind} {toldKind : β → EntityKind} {entry : String → Spec → Outcome → β}
    {evaluate : EntityKind → String → StateM σ Outcome} {s : σ}
    (h : (dropping drops).Selects specs kind toldKind entry
      ((dropping drops).given specs kind entry evaluate s).1)
    (htold : ∀ b, drops (toldKind b) = true)
    (hkind : ∀ spec stated, spec.statedKind? = some stated → drops stated = true →
      stated = kind spec) : StateKinds specs kind := by
  intro name spec hspec hclients
  by_contra hne
  have hunfiltered : spec.statedKind?.bind (dropping drops).filter? = none := by
    cases hstated : spec.statedKind? with
    | none => rfl
    | some stated =>
      have hnot : ¬ drops stated = true := fun hdrops =>
        hne (hstated.trans (congrArg some (hkind spec stated hstated hdrops)))
      rw [Option.bind_some, filter?_dropping, if_neg hnot]
  have hkeeps : (dropping drops).keeps spec.entity name = true := by
    rw [keeps_eq, hunfiltered]
    rfl
  obtain ⟨b, hb⟩ := exists_get?_given (mem_visible_iff.2 ⟨hspec, hclients, hkeeps⟩) s
  obtain ⟨name', hname', -⟩ := h.named _ b [] hb (by rw [filter?_dropping, if_pos (htold b)])
  cases hname'

/-! ### All maps -/

/-- The filters select by kind from the specs what a client is told of. -/
structure SelectsByKind (o : ClientPayloadOptions) (specs : Payload) (p : ClientPayload) :
    Prop where
  gates : o.Selects specs.featureGates (fun _ => .gate) (fun _ => .gate) o.gate p.gates
  configs : o.Selects specs.dynamicConfigs configKind ClientConfig.toldKind o.config p.configs
  layers : o.Selects specs.layers (fun _ => .layer) (fun _ => .layer) o.layer p.layers

end ClientPayloadOptions

open ClientPayloadOptions

/-- All specs that clients may see say of what kind they are. -/
structure Payload.StatesKinds (p : Payload) : Prop where
  gates : StateKinds p.featureGates fun _ => .gate
  configs : StateKinds p.dynamicConfigs configKind
  layers : StateKinds p.layers fun _ => .layer

namespace Engine

variable {e : Engine} {s : Snapshot}

/-- A payload for a client is made of three maps, one after another. -/
theorem exists_clientPayload (hsnapshot : e.snapshot = some s) (user : User)
    (o : ClientPayloadOptions) :
    ∃ (evaluate : EntityKind → String → StateM Engine Outcome) (e₁ e₂ : Engine),
      let p := (clientPayload user o e).1
      p.gates = (o.given s.payload.featureGates (fun _ => .gate) o.gate evaluate e).1 ∧
      p.configs = (o.given s.payload.dynamicConfigs configKind o.config evaluate e₁).1 ∧
      p.layers = (o.given s.payload.layers (fun _ => .layer) o.layer evaluate e₂).1 := by
  let evaluate (kind : EntityKind) (name : String) : StateM Engine Outcome :=
    evaluateAgainst (some s) (e.placed user) kind name false
  have hp : clientPayload user o e = ClientPayload.make (some s) (e.placed user) o evaluate e := by
    show ClientPayload.make e.snapshot (e.placed user) o (fun kind name =>
      evaluateAgainst e.snapshot (e.placed user) kind name false) e = _
    rw [hsnapshot]
  rw [hp]
  exact ⟨evaluate, _, _, rfl, rfl, rfl⟩

/-- Filters select by kind, whatever they are and whoever the user is, if and only if all specs that
clients may see say of what kind they are. -/
theorem selectsByKind_iff (s : Snapshot) :
    (∀ (e : Engine) (user : User) (o : ClientPayloadOptions), e.snapshot = some s →
      o.SelectsByKind s.payload (clientPayload user o e).1) ↔ s.payload.StatesKinds := by
  constructor
  · intro h
    let e : Engine :=
      { settings := {}, intake := { catalog := { snapshot := some s }, now := 0 } }
    have hgiven (drops : EntityKind → Bool) :=
      exists_clientPayload (e := e) (s := s) rfl {} (dropping drops)
    constructor
    · obtain ⟨evaluate, -, -, hgates, -, -⟩ := hgiven (· == .gate)
      have hselects := (h e {} (dropping (· == .gate)) rfl).gates
      rw [hgates] at hselects
      exact stateKinds_of_selects hselects (fun _ => rfl) fun _ _ _ hdrops => eq_of_beq hdrops
    · let drops (kind : EntityKind) : Bool := kind == .dynamicConfig || kind == .experiment
      obtain ⟨evaluate, e₁, -, -, hconfigs, -⟩ := hgiven drops
      have hselects := (h e {} (dropping drops) rfl).configs
      rw [hconfigs] at hselects
      refine stateKinds_of_selects hselects (fun b => ?_) fun spec stated hstated hdrops => ?_
      · unfold ClientConfig.toldKind
        cases b.kind <;> rfl
      · have hcases : stated = .dynamicConfig ∨ stated = .experiment := by
          simpa [drops] using hdrops
        exact (configKind_of_statedKind? hstated hcases).symm
    · obtain ⟨evaluate, -, e₂, -, -, hlayers⟩ := hgiven (· == .layer)
      have hselects := (h e {} (dropping (· == .layer)) rfl).layers
      rw [hlayers] at hselects
      exact stateKinds_of_selects hselects (fun _ => rfl) fun _ _ _ hdrops => eq_of_beq hdrops
  · intro hstates e user o hsnapshot
    obtain ⟨evaluate, e₁, e₂, hgates, hconfigs, hlayers⟩ := exists_clientPayload hsnapshot user o
    constructor
    · rw [hgates]
      exact selects_of_stateKinds hstates.gates (fun _ _ _ => rfl) e
    · rw [hconfigs]
      exact selects_of_stateKinds hstates.configs o.toldKind_config e₁
    · rw [hlayers]
      exact selects_of_stateKinds hstates.layers (fun _ _ _ => rfl) e₂

/-! ### A gate that does not say that it is one -/

/-- The specs of a gate that says nothing of its kind. -/
def unstated : Snapshot :=
  { payload := { featureGates := .ofList [("beta", .parsed Allocation.staff)] }
    idLists := ∅, source := .network, lcut := 1, receivedAt := 1 }

/-- A filter of gates that names another gate does not keep it from the client. -/
theorem not_forall_selectsByKind :
    ¬ ∀ (s : Snapshot) (e : Engine) (user : User) (o : ClientPayloadOptions), e.snapshot = some s →
      o.SelectsByKind s.payload (clientPayload user o e).1 := by
  intro h
  let e : Engine :=
    { settings := {}, intake := { catalog := { snapshot := some unstated }, now := 1 } }
  let o : ClientPayloadOptions := { hash := .identity, gates := some ["staff"] }
  have hgate : (clientPayload (.withUserId "u") o e).1.gates.contains "beta" = true := by
    decide +kernel
  obtain ⟨g, hg⟩ := Option.isSome_iff_exists.1 hgate
  obtain ⟨name, hname, _, _, _, hkey, -⟩ :=
    (h unstated e (.withUserId "u") o rfl).gates.named "beta" g ["staff"] hg rfl
  obtain rfl := List.mem_singleton.1 hname
  exact absurd hkey (by decide)

end Engine

end Rollout
