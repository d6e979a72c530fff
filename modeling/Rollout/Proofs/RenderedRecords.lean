import Rollout.Proofs.ClientFilters
import Rollout.Proofs.JsonDocuments
import Rollout.Proofs.PayloadGaps

/-!
# Records of written objects

An object is written with those of its members that are there (`presentMembers`). Each is looked up
as what was there under its name (`get?_ofList_presentMembers`), and the record that is read from
the object has the same (`Json.Document.exists_record?_entries`). What a record or a map holds lies
one level deeper than its document (`Json.Document.isRead_of_record?`).
-/

namespace Rollout

open Json Document

/-! ### Maps -/

namespace Dict

variable {α β : Type}

theorem lookup_entries (d : Dict α) (k : String) : d.entries.lookup k = d.get? k := by
  unfold get?
  induction d.entries with
  | nil => rfl
  | cons e rest ih =>
    rw [List.lookup_cons, List.find?_cons, Bool.beq_comm (a := e.1)]
    cases k == e.1 with
    | true => rfl
    | false => exact ih

theorem ofList_entries (d : Dict α) : ofList d.entries = d := by
  refine ext_get? fun k => ?_
  refine (get?_foldl_insert d.increasing empty k).trans ?_
  rw [get?_empty, Option.or_none]
  rfl

theorem get?_map (f : α → β) (d : Dict α) (k : String) : (d.map f).get? k = (d.get? k).map f := by
  show ((d.entries.map fun e => (e.1, f e.2)).find? fun e => e.1 == k).map Prod.snd = _
  rw [List.find?_map, Option.map_map, get?, Option.map_map]
  rfl

theorem mem_of_mem_ofList {l : List (String × α)} {e : String × α}
    (h : e ∈ (ofList l).entries) : e ∈ l :=
  mem_of_get?_ofList (mem_entries_iff.1 h)

theorem eq_empty_of_isEmpty {d : Dict α} (h : d.isEmpty = true) : d = ∅ := by
  obtain ⟨entries, increasing⟩ := d
  obtain rfl := List.isEmpty_iff.1 h
  rfl

end Dict

/-! ### Members that may be left out -/

/-- The members that are there, of those that may be. -/
def presentMembers {α : Type} (fields : List (String × Option α)) : List (String × α) :=
  fields.flatMap fun e => e.2.toList.map (Prod.mk e.1)

section PresentMembers

variable {α : Type} {fields : List (String × Option α)} {k : String}

theorem mem_presentMembers_iff {a : α} : (k, a) ∈ presentMembers fields ↔ (k, some a) ∈ fields := by
  unfold presentMembers
  rw [List.mem_flatMap]
  constructor
  · rintro ⟨⟨name, o⟩, he, hmem⟩
    obtain ⟨a', ha', heq⟩ := List.mem_map.1 hmem
    cases heq
    exact Option.mem_toList.1 ha' ▸ he
  · intro h
    exact ⟨_, h, List.mem_singleton_self _⟩

theorem nodup_presentMembers (h : (fields.map Prod.fst).Nodup) :
    ((presentMembers fields).map Prod.fst).Nodup := by
  refine List.Nodup.sublist ?_ h
  unfold presentMembers
  induction fields with
  | nil => exact .slnil
  | cons e rest ih =>
    have hrest := ih h.of_cons
    cases e with
    | mk name o =>
      cases o with
      | none => exact hrest.cons name
      | some a => exact hrest.cons_cons name

/-- Each name is looked up as what was there under it. -/
theorem get?_ofList_presentMembers (h : (fields.map Prod.fst).Nodup) {o : Option α}
    (hmem : (k, o) ∈ fields) : (Dict.ofList (presentMembers fields)).get? k = o := by
  refine Option.ext fun a => ?_
  rw [Dict.get?_ofList_iff (nodup_presentMembers h), mem_presentMembers_iff]
  constructor
  · intro ha
    have heq := List.inj_on_of_nodup_map h hmem ha rfl
    exact (Prod.mk.inj heq).2
  · rintro rfl
    exact hmem

theorem Json.member?_obj_presentMembers {o : Option Json}
    {fields : List (String × Option Json)} (h : (fields.map Prod.fst).Nodup)
    (hmem : (k, o) ∈ fields) : (Json.obj (presentMembers fields)).member? k = o :=
  (Dict.lookup_entries _ k).trans (get?_ofList_presentMembers h hmem)

end PresentMembers

/-! ### Records -/

namespace Json.Document

theorem membersOfJson_eq_map (members : List (String × Json)) :
    membersOfJson members = members.map fun e => (e.1, ofJson e.2) := by
  induction members with
  | nil => rfl
  | cons e rest ih => rw [membersOfJson, ih, List.map_cons]

theorem ofJson_ofDict (d : Dict Json) : ofJson (.ofDict d) = .object (d.map ofJson).entries :=
  congrArg Document.object (membersOfJson_eq_map d.entries)

theorem filter_isNamed_of_not_mem {m : Member} (hm : m.aliases = [])
    {members : List (String × Document)} (h : m.name ∉ members.map Prod.fst) :
    members.filter (fun e => m.isNamed e.1) = [] := by
  refine List.filter_eq_nil_iff.2 fun e he hname => h ?_
  have heq : m.name = e.1 := by simpa [Member.isNamed, hm] using hname
  exact heq ▸ List.mem_map_of_mem he

/-- A member of an object without repetitions is found under its name. -/
theorem found?_entries (d : Dict Document) {m : Member} (hm : m.aliases = []) :
    Gap.found? m d.entries = some (d.get? m.name) := by
  unfold Gap.found?
  cases hget : d.get? m.name with
  | none =>
    have hnot : m.name ∉ d.entries.map Prod.fst := by
      intro hmem
      obtain ⟨⟨_, x⟩, hx, rfl⟩ := List.mem_map.1 hmem
      rw [Dict.mem_entries_iff.1 hx] at hget
      cases hget
    rw [filter_isNamed_of_not_mem hm hnot]
  | some x =>
    obtain ⟨before, after, hsplit⟩ := List.append_of_mem (Dict.mem_entries_iff.2 hget)
    have hnodup : (d.entries.map Prod.fst).Nodup := d.nodup_keys
    rw [hsplit, List.map_append, List.map_cons, List.nodup_middle, List.nodup_cons,
      List.mem_append, not_or] at hnodup
    have hthis : m.isNamed m.name = true := by simp [Member.isNamed]
    rw [hsplit, List.filter_append, List.filter_cons, if_pos hthis,
      filter_isNamed_of_not_mem hm hnodup.1.1, filter_isNamed_of_not_mem hm hnodup.1.2]
    rfl

/-- The record of an object without repetitions has the declared ones of its members. -/
theorem exists_record?_entries (d : Dict Document) {declared : List Member}
    (haliases : ∀ m ∈ declared, m.aliases = []) :
    ∃ r, record? declared (.object d.entries) = some r ∧
      ∀ k, r.lookup k = if k ∈ declared.map (·.name) then d.get? k else none := by
  induction declared with
  | nil => exact ⟨[], rfl, fun k => by simp⟩
  | cons m declared ih =>
    obtain ⟨hm, hrest⟩ := List.forall_mem_cons.1 haliases
    obtain ⟨rest, hrecord, hlookup⟩ := ih hrest
    rw [Gap.record?_cons, found?_entries d hm, hrecord]
    refine ⟨_, rfl, fun k => ?_⟩
    rw [List.lookup_append, hlookup, List.map_cons]
    by_cases hk : k = m.name
    · subst hk
      rw [if_pos List.mem_cons_self]
      cases hget : d.get? m.name with
      | none => simp
      | some x => simp
    · have hfirst : ((d.get? m.name).toList.map (Prod.mk m.name)).lookup k = none := by
        cases d.get? m.name with
        | none => rfl
        | some x => simp [List.lookup_cons, beq_eq_false_iff_ne.2 hk]
      rw [hfirst, Option.none_or]
      simp [hk]

theorem mapM_readMember_map {α : Type} {read : Document → Option α} {write : α → Json}
    {l : List (String × α)} (h : ∀ e ∈ l, read (ofJson (write e.2)) = some e.2) :
    (l.map fun e => (e.1, ofJson (write e.2))).mapM (Gap.readMember read) = some l := by
  induction l with
  | nil => rfl
  | cons e rest ih =>
    obtain ⟨he, hrest⟩ := List.forall_mem_cons.1 h
    rw [List.map_cons, List.mapM_cons, Gap.readMember, he, ih hrest]
    rfl

/-- A map is read back if its values are. -/
theorem dict?_ofDict {α : Type} {read : Document → Option α} {write : α → Json} (d : Dict α)
    (h : ∀ e ∈ d.entries, read (ofJson (write e.2)) = some e.2) :
    dict? read (ofJson (.ofDict (d.map write))) = some d := by
  have hmap : ((d.map write).map ofJson).entries =
      d.entries.map fun e => (e.1, ofJson (write e.2)) := List.map_map
  have hread := congrArg (Option.map Dict.ofList) (mapM_readMember_map h)
  rw [ofJson_ofDict, hmap]
  exact hread.trans (congrArg some d.ofList_entries)

theorem exists_of_mem_mapM {α : Type} {read : Document → Option α} {l : List (String × Document)}
    {l' : List (String × α)} (h : l.mapM (Gap.readMember read) = some l') {e : String × α}
    (he : e ∈ l') : ∃ m ∈ l, read m.2 = some e.2 := by
  induction l generalizing l' with
  | nil =>
    cases h
    cases he
  | cons m l ih =>
    rw [List.mapM_cons] at h
    obtain ⟨e', he', h⟩ := Option.bind_eq_some_iff.1 h
    obtain ⟨rest, hrest, h⟩ := Option.bind_eq_some_iff.1 h
    cases h
    rcases List.mem_cons.1 he with rfl | hmem
    · obtain ⟨v, hv, rfl⟩ := Option.map_eq_some_iff.1 he'
      exact ⟨m, List.mem_cons_self, hv⟩
    · obtain ⟨m', hm', hread⟩ := ih hrest hmem
      exact ⟨m', List.mem_cons_of_mem m hm', hread⟩

/-- What a record of an object holds are values of members. -/
theorem exists_of_mem_record? {declared : List Member} {members : List (String × Document)}
    {r : Record} (h : record? declared (.object members) = some r) {e : String × Document}
    (he : e ∈ r) : ∃ m ∈ members, m.2 = e.2 := by
  induction declared generalizing r with
  | nil =>
    cases h
    cases he
  | cons m declared ih =>
    rw [Gap.record?_cons] at h
    obtain ⟨d, hd, h⟩ := Option.bind_eq_some_iff.1 h
    obtain ⟨rest, hrest, rfl⟩ := Option.map_eq_some_iff.1 h
    rcases List.mem_append.1 he with hmem | hmem
    · obtain ⟨x, hx, rfl⟩ := List.mem_map.1 hmem
      rw [Option.mem_toList] at hx
      subst hx
      unfold Gap.found? at hd
      split at hd
      · cases hd
      · next found hfilter =>
        cases hd
        have hfound : found ∈ members.filter (fun e => m.isNamed e.1) :=
          hfilter ▸ List.mem_singleton_self found
        exact ⟨found, (List.mem_filter.1 hfound).1, rfl⟩
      · cases hd
    · exact ih hrest hmem

theorem mem_of_lookup {r : Record} {name : String} {x : Document} (h : r.lookup name = some x) :
    (name, x) ∈ r := by
  obtain ⟨before, after, rfl, -⟩ := List.lookup_eq_some_iff.1 h
  exact List.mem_append_right _ List.mem_cons_self

/-- What a record holds lies within its document. -/
theorem isRead_of_record? {declared : List Member} {d : Document} {r : Record} {k : Nat}
    (h : IsRead (k + 1) d) (hr : record? declared d = some r) {name : String} {x : Document}
    (hx : r.lookup name = some x) : IsRead k x := by
  have hmem := mem_of_lookup hx
  cases h with
  | unreadable | null | bool | number | text => cases hr
  | array hitems =>
    obtain ⟨-, heq⟩ := Option.ite_none_left_eq_some.1 hr
    cases heq
    exact hitems x (List.of_mem_zip hmem).2
  | object hmembers =>
    obtain ⟨m, hm, rfl⟩ := exists_of_mem_record? hr hmem
    exact hmembers m hm

/-- The values of a map lie within its document. -/
theorem exists_isRead_of_dict? {α : Type} {read : Document → Option α} {d : Document} {m : Dict α}
    {k : Nat} (h : IsRead (k + 1) d) (hm : dict? read d = some m) {e : String × α}
    (he : e ∈ m.entries) : ∃ x, IsRead k x ∧ read x = some e.2 := by
  cases h with
  | unreadable | null | bool | number | text | array => cases hm
  | object hmembers =>
    obtain ⟨l, hl, rfl⟩ := Option.map_eq_some_iff.1 hm
    obtain ⟨m, hm, hread⟩ := exists_of_mem_mapM hl (Dict.mem_of_mem_ofList he)
    exact ⟨m.2, hmembers m hm, hread⟩

end Json.Document

end Rollout
