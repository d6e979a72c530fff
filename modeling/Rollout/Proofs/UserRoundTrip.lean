import Rollout.Proofs.RenderedRecords
import Rollout.Proofs.ShownEvents

/-!
# Users read back

A user that was read from a text is written as a text that reads as what is shown of the user
(`User.ofText?_render`), provided that the doubles among the custom attributes are written so that
they read back (`Number.ReadsBack`). Attributes keep their variants, and no user that can be read is
nested too deep to be read again.
-/

namespace Rollout

open Json Document

/-! ### Attributes -/

namespace Number

/-- The number stands for itself as an attribute, and its text is read back. -/
def IsKept : Number → Prop
  | .int n => -2 ^ 63 ≤ n ∧ n < 2 ^ 63
  | .double x => (Number.double x).ReadsBack

theorem IsKept.readsBack {n : Number} (h : n.IsKept) : n.ReadsBack := by
  cases n with
  | int n => exact readsBack_int h.1 (h.2.trans (by decide))
  | double x => exact h

/-- What is no finite number has no text that reads back. -/
theorem ReadsBack.exists_finite {x : Binary64} (h : (Number.double x).ReadsBack) :
    ∃ negative units, x = .finite negative units := by
  cases x with
  | nan => exact absurd h (by decide +kernel)
  | infinite negative =>
    cases negative
    · exact absurd h (by decide +kernel)
    · exact absurd h (by decide +kernel)
  | finite negative units => exact ⟨negative, units, rfl⟩

end Number

namespace Attribute

mutual

/-- The numbers in a value. -/
def numbers : Attribute → List Number
  | .int n => [.int n]
  | .double x => [.double x]
  | .array items => itemsNumbers items
  | .bool _ | .text _ => []

def itemsNumbers : List Attribute → List Number
  | [] => []
  | a :: rest => numbers a ++ itemsNumbers rest

end

mutual

/-- Nothing is written that is not in the value. -/
theorem mem_numbers_of_mem_toJson : ∀ (a : Attribute) {n : Number}, n ∈ a.toJson.numbers →
    n ∈ a.numbers
  | .bool _, _, h | .text _, _, h => h
  | .int _, _, h => h
  | .double x, n, h => by
    cases x with
    | finite negative units => exact h
    | nan | infinite negative => cases h
  | .array items, _, h => mem_itemsNumbers_of_mem_toJson items h

theorem mem_itemsNumbers_of_mem_toJson : ∀ (items : List Attribute) {n : Number},
    n ∈ Json.itemsNumbers (itemsToJson items) → n ∈ itemsNumbers items
  | [], _, h => h
  | a :: items, _, h => by
    rcases List.mem_append.1 h with hmem | hmem
    · exact List.mem_append_left _ (mem_numbers_of_mem_toJson a hmem)
    · exact List.mem_append_right _ (mem_itemsNumbers_of_mem_toJson items hmem)

end

mutual

/-- What is written of a value is read as the value, with the same variants. -/
theorem ofDocument?_toJson : ∀ (a : Attribute), (∀ n ∈ a.numbers, n.IsKept) →
    ofDocument? (ofJson a.toJson) = some a
  | .bool _, _ | .text _, _ => rfl
  | .int n, h => by
    have hn : (Number.int n).toInt64? = some n := if_pos (h (.int n) List.mem_cons_self).2
    show (match (Number.int n).toInt64? with
      | some n => some (Attribute.int n)
      | none => some (.double (Number.int n).toBinary64)) = _
    rw [hn]
  | .double x, h => by
    have hreadsBack : (Number.double x).ReadsBack := h (.double x) List.mem_cons_self
    obtain ⟨negative, units, rfl⟩ := hreadsBack.exists_finite
    rfl
  | .array items, h => by
    show (itemsOfDocuments? (itemsOfJson (itemsToJson items))).map Attribute.array = _
    rw [itemsOfDocuments?_toJson items h]
    rfl

theorem itemsOfDocuments?_toJson : ∀ (items : List Attribute),
    (∀ n ∈ itemsNumbers items, n.IsKept) →
    itemsOfDocuments? (itemsOfJson (itemsToJson items)) = some items
  | [], _ => rfl
  | a :: items, h => by
    have ha := ofDocument?_toJson a fun n hn => h n (List.mem_append_left _ hn)
    have hrest := itemsOfDocuments?_toJson items fun n hn => h n (List.mem_append_right _ hn)
    show ((ofDocument? (ofJson a.toJson)).bind fun a =>
      (itemsOfDocuments? (itemsOfJson (itemsToJson items))).map (a :: ·)) = _
    rw [ha, hrest]
    rfl

end

/-- A value as it can come from a text: nested at most so deep, with integers of 64 bits. -/
structure Fits (k : Nat) (a : Attribute) : Prop where
  depth_le : a.toJson.depth ≤ k
  isKept_int : ∀ n, Number.int n ∈ a.numbers → (Number.int n).IsKept

theorem fits_double (x : Binary64) (k : Nat) : (Attribute.double x).Fits k where
  depth_le := by cases x <;> exact Nat.zero_le _
  isKept_int n hn := by simp [numbers] at hn

theorem fits_int_of_isRead {n : Number} {i : Int} {k : Nat} (h : IsRead k (.number n))
    (hint : n.toInt64? = some i) : (Attribute.int i).Fits k where
  depth_le := Nat.zero_le _
  isKept_int m hm := by
    obtain rfl : m = i := by simpa [numbers] using hm
    cases n with
    | double x => cases hint
    | int n =>
      obtain ⟨hlt, heq⟩ := Option.ite_some_none_eq_some.1 hint
      obtain rfl : n = m := heq
      cases h with
      | number hrange => exact ⟨hrange.1, hlt⟩

mutual

theorem fits_of_isRead : ∀ {d : Document} {a : Attribute} {k : Nat}, IsRead k d →
    ofDocument? d = some a → a.Fits k
  | .bool b, _, _, _, h => by
    cases h
    exact ⟨Nat.zero_le _, fun n hn => by cases hn⟩
  | .number n, a, k, hread, h => by
    change (match n.toInt64? with
      | some i => some (Attribute.int i)
      | none => some (.double n.toBinary64)) = some a at h
    cases hint : n.toInt64? with
    | none =>
      rw [hint] at h
      cases h
      exact fits_double _ k
    | some i =>
      rw [hint] at h
      cases h
      exact fits_int_of_isRead hread hint
  | .text s, _, _, _, h => by
    cases h
    exact ⟨Nat.zero_le _, fun n hn => by cases hn⟩
  | .array items, a, k, hread, h => by
    obtain ⟨as, has, rfl⟩ := Option.map_eq_some_iff.1 h
    cases hread with
    | array hitems =>
      obtain ⟨hdepth, hints⟩ := items_fit_of_isRead hitems has
      exact ⟨Nat.succ_le_succ hdepth, hints⟩

theorem items_fit_of_isRead : ∀ {items : List Document} {as : List Attribute} {k : Nat},
    (∀ d ∈ items, IsRead k d) → itemsOfDocuments? items = some as →
    Json.itemsDepth (itemsToJson as) ≤ k ∧
      ∀ n, Number.int n ∈ itemsNumbers as → (Number.int n).IsKept
  | [], _, _, _, h => by
    cases h
    exact ⟨Nat.zero_le _, fun n hn => by cases hn⟩
  | d :: items, _, k, hread, h => by
    obtain ⟨a, ha, h⟩ := Option.bind_eq_some_iff.1 h
    obtain ⟨as, has, rfl⟩ := Option.map_eq_some_iff.1 h
    obtain ⟨hd, hitems⟩ := List.forall_mem_cons.1 hread
    have hfits := fits_of_isRead hd ha
    obtain ⟨hdepth, hints⟩ := items_fit_of_isRead hitems has
    refine ⟨Nat.max_le.2 ⟨hfits.depth_le, hdepth⟩, fun n hn => ?_⟩
    rcases List.mem_append.1 hn with hmem | hmem
    · exact hfits.isKept_int n hmem
    · exact hints n hmem

end

end Attribute

/-! ### Users -/

namespace User

/-- The user is what the members of a record are read as. -/
structure IsReadFrom (u : User) (r : Record) : Prop where
  userId : r.optional? "userID" text? = some u.userId
  customIds : r.withDefault? "customIDs" ∅ (dict? text?) = some u.customIds
  email : r.optional? "email" text? = some u.email
  ip : r.optional? "ip" text? = some u.ip
  userAgent : r.optional? "userAgent" text? = some u.userAgent
  country : r.optional? "country" text? = some u.country
  locale : r.optional? "locale" text? = some u.locale
  appVersion : r.optional? "appVersion" text? = some u.appVersion
  custom : r.withDefault? "custom" ∅ (dict? Attribute.ofDocument?) = some u.custom
  privateAttributes : r.withDefault? "privateAttributes" ∅ (dict? Attribute.ofDocument?) =
    some u.privateAttributes
  environment : r.withDefault? "statsigEnvironment" ∅ (dict? text?) = some u.environment

theorem ofDocument?_eq_some_iff {d : Document} {u : User} :
    ofDocument? d = some u ↔ ∃ r, record? declared d = some r ∧ u.IsReadFrom r := by
  constructor
  · intro h
    obtain ⟨r, hr, h⟩ := Option.bind_eq_some_iff.1 h
    obtain ⟨_, huserId, h⟩ := Option.bind_eq_some_iff.1 h
    obtain ⟨_, hcustomIds, h⟩ := Option.bind_eq_some_iff.1 h
    obtain ⟨_, hemail, h⟩ := Option.bind_eq_some_iff.1 h
    obtain ⟨_, hip, h⟩ := Option.bind_eq_some_iff.1 h
    obtain ⟨_, huserAgent, h⟩ := Option.bind_eq_some_iff.1 h
    obtain ⟨_, hcountry, h⟩ := Option.bind_eq_some_iff.1 h
    obtain ⟨_, hlocale, h⟩ := Option.bind_eq_some_iff.1 h
    obtain ⟨_, happVersion, h⟩ := Option.bind_eq_some_iff.1 h
    obtain ⟨_, hcustom, h⟩ := Option.bind_eq_some_iff.1 h
    obtain ⟨_, hprivate, h⟩ := Option.bind_eq_some_iff.1 h
    obtain ⟨_, henvironment, h⟩ := Option.bind_eq_some_iff.1 h
    cases h
    exact ⟨r, hr, huserId, hcustomIds, hemail, hip, huserAgent, hcountry, hlocale, happVersion,
      hcustom, hprivate, henvironment⟩
  · rintro ⟨r, hr, h⟩
    refine Option.bind_eq_some_iff.2 ⟨r, hr, ?_⟩
    refine Option.bind_eq_some_iff.2 ⟨_, h.userId, ?_⟩
    refine Option.bind_eq_some_iff.2 ⟨_, h.customIds, ?_⟩
    refine Option.bind_eq_some_iff.2 ⟨_, h.email, ?_⟩
    refine Option.bind_eq_some_iff.2 ⟨_, h.ip, ?_⟩
    refine Option.bind_eq_some_iff.2 ⟨_, h.userAgent, ?_⟩
    refine Option.bind_eq_some_iff.2 ⟨_, h.country, ?_⟩
    refine Option.bind_eq_some_iff.2 ⟨_, h.locale, ?_⟩
    refine Option.bind_eq_some_iff.2 ⟨_, h.appVersion, ?_⟩
    refine Option.bind_eq_some_iff.2 ⟨_, h.custom, ?_⟩
    refine Option.bind_eq_some_iff.2 ⟨_, h.privateAttributes, ?_⟩
    refine Option.bind_eq_some_iff.2 ⟨_, h.environment, ?_⟩
    rfl

/-- A map as a member, which is left out if it is empty. -/
def mapJson? {α : Type} (d : Dict α) (f : α → Json) : Option Json :=
  if d.isEmpty then none else some (.ofDict (d.map f))

/-- What there is to be written of a user, by the declared members. Private attributes are never
written. -/
def fields (u : User) : List (String × Option Json) :=
  [("userID", u.userId.map .text), ("customIDs", mapJson? u.customIds .text),
   ("email", u.email.map .text), ("ip", u.ip.map .text), ("userAgent", u.userAgent.map .text),
   ("country", u.country.map .text), ("locale", u.locale.map .text),
   ("appVersion", u.appVersion.map .text), ("custom", mapJson? u.custom Attribute.toJson),
   ("privateAttributes", none), ("statsigEnvironment", mapJson? u.environment .text)]

theorem textMember_eq (name : String) (s : Option String) :
    textMember name s = (s.map Json.text).toList.map (Prod.mk name) := by
  cases s <;> rfl

theorem mapMember_eq {α : Type} (name : String) (d : Dict α) (f : α → Json) :
    mapMember name d f = (mapJson? d f).toList.map (Prod.mk name) := by
  unfold mapMember mapJson?
  split <;> rfl

theorem toJson_eq (u : User) : u.toJson = .obj (presentMembers u.fields) := by
  unfold toJson presentMembers fields
  simp only [textMember_eq, mapMember_eq, List.flatMap_cons, List.flatMap_nil, List.append_nil,
    List.append_assoc, Option.toList_none, List.map_nil, List.nil_append]

theorem nodup_fields (u : User) : (u.fields.map Prod.fst).Nodup :=
  show (declared.map (·.name)).Nodup by decide

/-- What is written of a user is a record of it. -/
theorem exists_record?_toJson (u : User) : ∃ r, record? declared (ofJson u.toJson) = some r ∧
    ∀ e ∈ u.fields, r.lookup e.1 = e.2.map ofJson := by
  have haliases : ∀ m ∈ declared, m.aliases = [] := by decide
  obtain ⟨r, hr, hlookup⟩ :=
    exists_record?_entries ((Dict.ofList (presentMembers u.fields)).map ofJson) haliases
  refine ⟨r, ?_, fun e he => ?_⟩
  · rw [toJson_eq, Json.obj, ofJson_ofDict]
    exact hr
  · have hdeclared : e.1 ∈ declared.map (·.name) :=
      show e.1 ∈ u.fields.map Prod.fst from List.mem_map_of_mem he
    rw [hlookup, if_pos hdeclared, Dict.get?_map, get?_ofList_presentMembers u.nodup_fields he]

/-! ### What is written is read -/

section Reading

variable {r : Record} {name : String}

theorem optional?_of_lookup {s : Option String}
    (h : r.lookup name = (s.map Json.text).map ofJson) : r.optional? name text? = some s := by
  unfold Record.optional? Record.withDefault?
  rw [h]
  cases s <;> rfl

theorem withDefault?_of_lookup {α : Type} {d : Dict α} {write : α → Json}
    {read : Document → Option α} (h : r.lookup name = (mapJson? d write).map ofJson)
    (hread : ∀ e ∈ d.entries, read (ofJson (write e.2)) = some e.2) :
    r.withDefault? name ∅ (dict? read) = some d := by
  unfold Record.withDefault?
  rw [h, mapJson?]
  split_ifs with hempty
  · exact congrArg some (Dict.eq_empty_of_isEmpty hempty).symm
  · exact dict?_ofDict d hread

end Reading

/-- The numbers among the custom attributes. -/
def numbers (u : User) : List Number := u.custom.entries.flatMap (·.2.numbers)

theorem mem_numbers {u : User} {e : String × Attribute} (he : e ∈ u.custom.entries) {n : Number}
    (hn : n ∈ e.2.numbers) : n ∈ u.numbers := List.mem_flatMap.2 ⟨e, he, hn⟩

/-- What is written of a user is read as what is shown of it. -/
theorem ofDocument?_toJson {u : User} (h : ∀ n ∈ u.numbers, n.IsKept) :
    ofDocument? (ofJson u.toJson) = some u.shown := by
  obtain ⟨r, hr, hfields⟩ := u.exists_record?_toJson
  have hcustom : ∀ e ∈ u.custom.entries,
      Attribute.ofDocument? (ofJson e.2.toJson) = some e.2 := fun e he =>
    Attribute.ofDocument?_toJson e.2 fun n hn => h n (mem_numbers he hn)
  simp only [fields, List.forall_mem_cons] at hfields
  obtain ⟨huserId, hcustomIds, hemail, hip, huserAgent, hcountry, hlocale, happVersion, hmap,
    hprivate, henvironment, -⟩ := hfields
  refine ofDocument?_eq_some_iff.2 ⟨r, hr, ?_⟩
  exact {
    userId := optional?_of_lookup huserId
    customIds := withDefault?_of_lookup hcustomIds fun e _ => rfl
    email := optional?_of_lookup hemail
    ip := optional?_of_lookup hip
    userAgent := optional?_of_lookup huserAgent
    country := optional?_of_lookup hcountry
    locale := optional?_of_lookup hlocale
    appVersion := optional?_of_lookup happVersion
    custom := withDefault?_of_lookup hmap hcustom
    privateAttributes := by
      unfold Record.withDefault?
      rw [hprivate]
      rfl
    environment := withDefault?_of_lookup henvironment fun e _ => rfl }

/-! ### All that is written -/

/-- What holds of texts, of maps of texts and of the custom attributes holds of all that is
written. -/
theorem forall_mem_fields {P : Json → Prop} {u : User} (htext : ∀ s, P (.text s))
    (htexts : ∀ d : Dict String, P (.ofDict (d.map .text)))
    (hcustom : P (.ofDict (u.custom.map Attribute.toJson))) :
    ∀ e ∈ u.fields, ∀ j ∈ e.2, P j := by
  have hfield : ∀ s : Option String, ∀ j ∈ s.map Json.text, P j := by
    intro s j hj
    obtain ⟨t, -, rfl⟩ := Option.map_eq_some_iff.1 hj
    exact htext t
  have hmap : ∀ {α : Type} (d : Dict α) (write : α → Json), P (.ofDict (d.map write)) →
      ∀ j ∈ mapJson? d write, P j := by
    intro α d write h j hj
    obtain ⟨-, heq⟩ := Option.ite_none_left_eq_some.1 hj
    exact Option.some.inj heq ▸ h
  simp only [fields, List.forall_mem_cons]
  exact ⟨hfield _, hmap _ _ (htexts _), hfield _, hfield _, hfield _, hfield _, hfield _, hfield _,
    hmap _ _ hcustom, nofun, hmap _ _ (htexts _), nofun⟩

theorem mem_fields_of_mem_entries {u : User} {e : String × Json}
    (he : e ∈ (Dict.ofList (presentMembers u.fields)).entries) : (e.1, some e.2) ∈ u.fields :=
  mem_presentMembers_iff.1 (Dict.mem_of_mem_ofList he)

/-- The only numbers that are written are those of the custom attributes. -/
theorem mem_numbers_of_mem_toJson {u : User} {n : Number} (hn : n ∈ u.toJson.numbers) :
    n ∈ u.numbers := by
  rw [toJson_eq] at hn
  obtain ⟨e, he, hn⟩ := Json.mem_membersNumbers_iff.1 hn
  refine forall_mem_fields (P := fun j => n ∈ j.numbers → n ∈ u.numbers) ?_ ?_ ?_ _
    (mem_fields_of_mem_entries he) e.2 rfl hn
  · intro s hs
    cases hs
  · intro d hd
    obtain ⟨m, hm, hmem⟩ := Json.mem_membersNumbers_iff.1 hd
    obtain ⟨t, -, rfl⟩ := List.mem_map.1 hm
    cases hmem
  · intro hcustom
    obtain ⟨m, hm, hmem⟩ := Json.mem_membersNumbers_iff.1 hcustom
    obtain ⟨a, ha, rfl⟩ := List.mem_map.1 hm
    exact mem_numbers ha (Attribute.mem_numbers_of_mem_toJson a.2 hmem)

/-- What is written is nested two levels deeper than the custom attributes. -/
theorem depth_toJson_le {u : User} {k : Nat} (h : ∀ e ∈ u.custom.entries, e.2.toJson.depth ≤ k) :
    u.toJson.depth ≤ k + 2 := by
  rw [toJson_eq]
  refine Nat.succ_le_succ (Json.membersDepth_le_iff.2 fun e he => ?_)
  refine forall_mem_fields (P := fun j => j.depth ≤ k + 1) ?_ ?_ ?_ _
    (mem_fields_of_mem_entries he) e.2 rfl
  · intro s
    exact Nat.zero_le _
  · intro d
    refine Nat.succ_le_succ (Json.membersDepth_le_iff.2 fun m hm => ?_)
    obtain ⟨t, -, rfl⟩ := List.mem_map.1 hm
    exact Nat.zero_le _
  · refine Nat.succ_le_succ (Json.membersDepth_le_iff.2 fun m hm => ?_)
    obtain ⟨a, ha, rfl⟩ := List.mem_map.1 hm
    exact h a ha

/-! ### Users from texts -/

/-- The custom attributes of a user that was read from a text stand on the third level. -/
theorem fits_of_ofText? {s : String} {u : User} (h : ofText? s = some u) :
    ∀ e ∈ u.custom.entries, e.2.Fits (maxLevel - 2) := by
  intro e he
  obtain ⟨d, hd, hu⟩ := Option.bind_eq_some_iff.1 h
  obtain ⟨r, hr, hread⟩ := ofDocument?_eq_some_iff.1 hu
  have hcustom := hread.custom
  unfold Record.withDefault? at hcustom
  split at hcustom
  · next x hx =>
    have hx' : IsRead (maxLevel - 2 + 1) x := isRead_of_record? (isRead_of_ofText? hd) hr hx
    obtain ⟨y, hy, hattribute⟩ := exists_isRead_of_dict? hx' hcustom he
    exact Attribute.fits_of_isRead hy hattribute
  · rw [← Option.some.inj hcustom] at he
    cases he

theorem isKept_of_ofText? {s : String} {u : User} (h : ofText? s = some u)
    (hdoubles : ∀ x, .double x ∈ u.numbers → (Number.double x).ReadsBack) :
    ∀ n ∈ u.numbers, n.IsKept
  | .double x, hn => hdoubles x hn
  | .int n, hn => by
    obtain ⟨e, he, hmem⟩ := List.mem_flatMap.1 hn
    exact (fits_of_ofText? h e he).isKept_int n hmem

/-- The text of a user that was read from a text is read as what is shown of the user. -/
theorem ofText?_render {s : String} {u : User} (h : ofText? s = some u)
    (hdoubles : ∀ x, .double x ∈ u.numbers → (Number.double x).ReadsBack) :
    ofText? u.toJson.render = some u.shown := by
  have hkept := isKept_of_ofText? h hdoubles
  have hdepth : u.toJson.depth ≤ maxLevel :=
    depth_toJson_le (k := maxLevel - 2) fun e he => (fits_of_ofText? h e he).depth_le
  have hnumbers : ∀ n ∈ u.toJson.numbers, n.ReadsBack := fun n hn =>
    (hkept n (mem_numbers_of_mem_toJson hn)).readsBack
  rw [ofText?, Json.Document.ofText?_render hnumbers hdepth, Option.bind_some,
    ofDocument?_toJson hkept]

end User

/-! ### Events and payloads for clients -/

namespace Event

/-- What there is to be written of an event. -/
def fields (x : Event) : List (String × Option Json) :=
  [("eventName", some (.text x.name)), ("user", some x.user.toJson), ("time", some (.int x.time)),
   ("value", x.value), ("metadata", x.metadata.map fun m => .ofDict (m.map .text)),
   ("secondaryExposures", x.exposures.map StickyValues.exposuresJson)]

theorem toJson_eq (x : Event) : x.toJson = .obj (presentMembers x.fields) := by
  obtain ⟨name, user, value, metadata, time, exposures⟩ := x
  cases value <;> cases metadata <;> cases exposures <;> rfl

theorem member?_user (x : Event) : x.toJson.member? "user" = some x.user.toJson := by
  have hnodup : (x.fields.map Prod.fst).Nodup :=
    show ["eventName", "user", "time", "value", "metadata", "secondaryExposures"].Nodup by decide
  rw [toJson_eq]
  exact Json.member?_obj_presentMembers hnodup (List.mem_cons_of_mem _ List.mem_cons_self)

end Event

theorem ClientPayload.member?_user (p : ClientPayload) :
    p.toJson.member? "user" = some p.user.toJson := by
  refine (Dict.lookup_entries _ "user").trans ((Dict.get?_ofList_iff ?_).2 ?_)
  · show ["feature_gates", "dynamic_configs", "layer_configs", "time", "has_updates", "hash_used",
      "user", "evaluated_keys", "sdkInfo"].Nodup
    decide
  · exact List.mem_iff_getElem?.2 ⟨6, rfl⟩

namespace Engine

theorem placed_of_none {e : Engine} (h : e.settings.environment = none) (u : User) :
    e.placed u = u := by
  unfold placed User.withTier
  rw [h]

/-- A payload for a client is for the user, placed in the environment of the engine. -/
theorem user_clientPayload (u : User) (o : ClientPayloadOptions) (e : Engine) :
    (clientPayload u o e).1.user = e.placed u := by
  show (ClientPayload.make e.snapshot (e.placed u) o (fun kind name =>
    evaluateAgainst e.snapshot (e.placed u) kind name false) e).1.user = _
  cases e.snapshot <;> rfl

/-- Where no environment is set, what events and payloads for clients say of a user that was read
from a text is read again as the user without private attributes. Doubles have to be written so that
they are read back. -/
theorem ofText?_writtenUser {s : String} {u : User} (h : User.ofText? s = some u)
    (hdoubles : ∀ x, .double x ∈ u.numbers → (Number.double x).ReadsBack) {e : Engine}
    (henvironment : e.settings.environment = none) :
    (∀ x : Event, x.user = e.placed u →
      (x.toJson.member? "user").bind (fun j => User.ofText? j.render) = some u.shown) ∧
    ∀ o, ((clientPayload u o e).1.toJson.member? "user").bind (fun j => User.ofText? j.render) =
      some u.shown := by
  have hplaced := placed_of_none henvironment u
  have hrender := User.ofText?_render h hdoubles
  constructor
  · intro x hx
    rw [x.member?_user, hx, hplaced, Option.bind_some, hrender]
  · intro o
    rw [ClientPayload.member?_user, user_clientPayload, hplaced, Option.bind_some, hrender]

/-- A user with a double and an integer of one value, and with attributes inside of others. -/
def nestedUserText : String :=
  "\x7b\"userID\":\"a\\n\\u00e9\",\"customIDs\":\x7b\x7d," ++
  "\"statsigEnvironment\":\x7b\"tier\":\"dev\"\x7d,\"privateAttributes\":\x7b\"age\":30\x7d," ++
  "\"custom\":\x7b\"rank\":1,\"score\":1.0,\"tags\":[[2.5,-3],\"x\",true]\x7d\x7d"

theorem ofText?_writtenUser_nested : ∃ u,
    (User.ofText? nestedUserText = some u ∧
      u.numbers = [.int 1, .double (.ofInt 1), .double (.finite false (5 * 2 ^ 1073)), .int (-3)] ∧
      (∀ x, .double x ∈ u.numbers → (Number.double x).ReadsBack) ∧
      pageServer.settings.environment = none) ∧
    (∀ x : Event, x.user = pageServer.placed u →
      (x.toJson.member? "user").bind (fun j => User.ofText? j.render) = some u.shown) ∧
    ∀ o, ((clientPayload u o pageServer).1.toJson.member? "user").bind
      (fun j => User.ofText? j.render) = some u.shown := by
  have hread : (User.ofText? nestedUserText).map User.numbers =
      some [.int 1, .double (.ofInt 1), .double (.finite false (5 * 2 ^ 1073)), .int (-3)] := by
    decide +kernel
  have hreadsBack : ∀ n ∈ [Number.int 1, .double (.ofInt 1), .double (.finite false (5 * 2 ^ 1073)),
      .int (-3)], n.ReadsBack := by decide +kernel
  obtain ⟨u, hu, hnumbers⟩ := Option.map_eq_some_iff.1 hread
  have hdoubles : ∀ x, .double x ∈ u.numbers → (Number.double x).ReadsBack := fun x hx =>
    hreadsBack _ (hnumbers ▸ hx)
  exact ⟨u, ⟨hu, hnumbers, hdoubles, rfl⟩, ofText?_writtenUser hu hdoubles rfl⟩

end Engine

end Rollout
