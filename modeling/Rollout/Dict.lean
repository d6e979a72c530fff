/-!
# Finite maps with text keys

A `Dict α` lists its entries by increasing key, each key once. Two maps that answer every look-up
alike are therefore equal (`Dict.ext_get?`), and each operation is described by the look-ups of its
result (`Dict.get?_insert`, `Dict.get?_erase`, `Dict.get?_overlay`).
-/

namespace Rollout

/-- A finite map from text to `α`. -/
structure Dict (α : Type) where
  /-- The entries, by strictly increasing key. -/
  entries : List (String × α)
  increasing : entries.Pairwise (fun a b => a.1 < b.1)
  deriving Repr, DecidableEq

namespace Dict

variable {α β : Type}

/-! ### Sorted entry lists -/

/-- Put `(k, v)` at its place in a list of entries sorted by key, in place of an entry for `k`. -/
def insertEntry (k : String) (v : α) : List (String × α) → List (String × α)
  | [] => [(k, v)]
  | e :: rest =>
    if k < e.1 then (k, v) :: e :: rest
    else if e.1 < k then e :: insertEntry k v rest
    else (k, v) :: rest

theorem mem_insertEntry {k : String} {v : α} {e : String × α} {l : List (String × α)}
    (h : e ∈ insertEntry k v l) : e = (k, v) ∨ e ∈ l := by
  induction l with
  | nil => simpa [insertEntry] using h
  | cons a l ih =>
    simp only [insertEntry] at h
    split at h
    · simpa using h
    · split at h
      · rcases List.mem_cons.1 h with h | h
        · simp [h]
        · rcases ih h with h | h <;> simp [h]
      · rcases List.mem_cons.1 h with h | h <;> simp [h]

theorem eq_of_not_lt {a b : String} (hab : ¬ a < b) (hba : ¬ b < a) : a = b :=
  String.le_antisymm hba hab

theorem pairwise_insertEntry (k : String) (v : α) {l : List (String × α)}
    (h : l.Pairwise (fun a b => a.1 < b.1)) :
    (insertEntry k v l).Pairwise (fun a b => a.1 < b.1) := by
  induction l with
  | nil => simp [insertEntry]
  | cons a l ih =>
    rw [List.pairwise_cons] at h
    simp only [insertEntry]
    split
    · next hk =>
      refine List.pairwise_cons.2 ⟨?_, List.pairwise_cons.2 h⟩
      intro e he
      rcases List.mem_cons.1 he with rfl | he
      · exact hk
      · exact String.lt_trans hk (h.1 e he)
    · split
      · next hk =>
        refine List.pairwise_cons.2 ⟨?_, ih h.2⟩
        intro e he
        rcases mem_insertEntry he with rfl | he
        · exact hk
        · exact h.1 e he
      · next h₁ h₂ =>
        have hk : k = a.1 := eq_of_not_lt h₁ h₂
        exact List.pairwise_cons.2 ⟨fun e he => hk ▸ h.1 e he, h.2⟩

/-! ### Operations -/

/-- The map without entries. -/
def empty : Dict α := ⟨[], .nil⟩

instance : EmptyCollection (Dict α) := ⟨empty⟩

instance : Inhabited (Dict α) := ⟨empty⟩

/-- The value of key `k`. -/
def get? (d : Dict α) (k : String) : Option α :=
  (d.entries.find? (fun e => e.1 == k)).map (·.2)

/-- Whether key `k` has a value. -/
def contains (d : Dict α) (k : String) : Bool := (d.get? k).isSome

/-- Give key `k` the value `v`. -/
def insert (d : Dict α) (k : String) (v : α) : Dict α :=
  ⟨insertEntry k v d.entries, pairwise_insertEntry k v d.increasing⟩

/-- Drop key `k`. -/
def erase (d : Dict α) (k : String) : Dict α :=
  ⟨d.entries.filter (fun e => e.1 != k), d.increasing.filter _⟩

/-- The map of a list of entries, of which the last one of a key counts. -/
def ofList (l : List (String × α)) : Dict α :=
  l.foldl (fun d e => d.insert e.1 e.2) empty

/-- The entries by increasing key. -/
def toList (d : Dict α) : List (String × α) := d.entries

/-- The keys, increasing. -/
def keys (d : Dict α) : List String := d.entries.map (·.1)

/-- The number of entries. -/
def size (d : Dict α) : Nat := d.entries.length

/-- Whether there is no entry. -/
def isEmpty (d : Dict α) : Bool := d.entries.isEmpty

/-- `base` with the entries of `top` put over it. -/
def overlay (base top : Dict α) : Dict α :=
  top.entries.foldl (fun d e => d.insert e.1 e.2) base

/-- Apply `f` to every value. -/
def map (f : α → β) (d : Dict α) : Dict β :=
  ⟨d.entries.map (fun e => (e.1, f e.2)), by simpa [List.pairwise_map] using d.increasing⟩

/-! ### Look-ups -/

@[simp] theorem get?_empty (k : String) : (empty : Dict α).get? k = none := rfl

theorem find?_insertEntry (k k' : String) (v : α) {l : List (String × α)}
    (h : l.Pairwise (fun a b => a.1 < b.1)) :
    ((insertEntry k v l).find? (fun e => e.1 == k')).map (·.2) =
      if k' = k then some v else (l.find? (fun e => e.1 == k')).map (·.2) := by
  induction l with
  | nil => by_cases hk : k' = k <;> simp [insertEntry, hk, eq_comm (a := k)]
  | cons a l ih =>
    rw [List.pairwise_cons] at h
    simp only [insertEntry]
    split
    · by_cases hk : k' = k <;> simp [hk, eq_comm (a := k)]
    · split
      · next hak =>
        by_cases hk : k' = k
        · have hne : ¬ a.1 = k := fun he => String.lt_irrefl k (he ▸ hak)
          simpa [List.find?_cons, hk, hne] using ih h.2
        · by_cases ha : a.1 = k'
          · simp [ha, hk]
          · simpa [List.find?_cons, hk, ha] using ih h.2
      · next h₁ h₂ =>
        have hka : k = a.1 := eq_of_not_lt h₁ h₂
        by_cases hk : k' = k
        · simp [hk]
        · have hne : ¬ a.1 = k' := fun he => hk (by rw [hka, he])
          have hne' : ¬ k = k' := fun he => hk he.symm
          simp [hk, hne, hne']

theorem get?_insert (d : Dict α) (k k' : String) (v : α) :
    (d.insert k v).get? k' = if k' = k then some v else d.get? k' :=
  find?_insertEntry k k' v d.increasing

theorem find?_filter_ne (k k' : String) (l : List (String × α)) :
    ((l.filter (fun e => e.1 != k)).find? (fun e => e.1 == k')).map (·.2) =
      if k' = k then none else (l.find? (fun e => e.1 == k')).map (·.2) := by
  induction l with
  | nil => simp
  | cons a l ih =>
    simp only [List.filter_cons]
    by_cases ha : a.1 = k
    · have hf : (a.1 != k) = false := by simp [ha]
      rw [hf]
      by_cases hk : k' = k
      · simp [hk]
      · have hne : ¬ a.1 = k' := fun he => hk (by rw [← he, ha])
        simpa [List.find?_cons, hk, hne] using ih
    · have hf : (a.1 != k) = true := by simp [ha]
      rw [hf]
      by_cases hak : a.1 = k'
      · have hk : ¬ k' = k := fun he => ha (by rw [hak, he])
        simp [hak, hk]
      · simpa [List.find?_cons, hak] using ih

theorem get?_erase (d : Dict α) (k k' : String) :
    (d.erase k).get? k' = if k' = k then none else d.get? k' :=
  find?_filter_ne k k' d.entries

theorem find?_eq_none_of_lt {l : List (String × α)} {k : String}
    (h : ∀ e ∈ l, k < e.1) : l.find? (fun e => e.1 == k) = none := by
  simp only [List.find?_eq_none, beq_iff_eq]
  intro e he hk
  have hlt := h e he
  rw [hk] at hlt
  exact String.lt_irrefl k hlt

theorem find?_of_mem {l : List (String × α)} (h : l.Pairwise (fun a b => a.1 < b.1))
    {e : String × α} (he : e ∈ l) : l.find? (fun x => x.1 == e.1) = some e := by
  induction l with
  | nil => cases he
  | cons a l ih =>
    rw [List.pairwise_cons] at h
    rcases List.mem_cons.1 he with rfl | he
    · simp
    · have hne : ¬ a.1 = e.1 := fun hk => String.lt_irrefl e.1 (hk ▸ h.1 e he)
      simpa [List.find?_cons, hne] using ih h.2 he

theorem mem_entries_iff {d : Dict α} {k : String} {v : α} :
    (k, v) ∈ d.entries ↔ d.get? k = some v := by
  constructor
  · intro h
    exact congrArg (Option.map Prod.snd) (find?_of_mem d.increasing h)
  · intro h
    obtain ⟨e, he, rfl⟩ := Option.map_eq_some_iff.1 h
    have hk : e.1 = k := by simpa using List.find?_some he
    rw [← hk]
    exact List.mem_of_find?_eq_some he

theorem get?_foldl_insert {l : List (String × α)} (h : l.Pairwise (fun a b => a.1 < b.1))
    (d : Dict α) (k : String) :
    (l.foldl (fun d e => d.insert e.1 e.2) d).get? k =
      ((l.find? (fun e => e.1 == k)).map (·.2)).or (d.get? k) := by
  induction l generalizing d with
  | nil => simp
  | cons a l ih =>
    rw [List.pairwise_cons] at h
    rw [List.foldl_cons, ih h.2, get?_insert]
    by_cases hk : a.1 = k
    · have hnone : l.find? (fun e => e.1 == k) = none :=
        find?_eq_none_of_lt fun e he => hk ▸ h.1 e he
      simp [hnone, hk]
    · have hk' : ¬ k = a.1 := fun he => hk he.symm
      simp [hk, hk']

theorem get?_overlay (base top : Dict α) (k : String) :
    (base.overlay top).get? k = (top.get? k).or (base.get? k) :=
  get?_foldl_insert top.increasing base k

theorem find?_filterMap (f : String → α → Option β) (k : String) {l : List (String × α)}
    (h : l.Pairwise (fun a b => a.1 < b.1)) :
    ((l.filterMap fun e => (f e.1 e.2).map (e.1, ·)).find? (fun e => e.1 == k)).map (·.2) =
      ((l.find? (fun e => e.1 == k)).map (·.2)).bind (f k) := by
  induction l with
  | nil => rfl
  | cons a l ih =>
    rw [List.pairwise_cons] at h
    by_cases hk : a.1 = k
    · subst hk
      cases hf : f a.1 a.2 with
      | some b => simp [hf]
      | none =>
        have hnone : (l.filterMap fun e => (f e.1 e.2).map (e.1, ·)).find?
            (fun e => e.1 == a.1) = none := by
          refine find?_eq_none_of_lt fun e he => ?_
          obtain ⟨x, hx, hxe⟩ := List.mem_filterMap.1 he
          obtain ⟨b, -, rfl⟩ := Option.map_eq_some_iff.1 hxe
          exact h.1 x hx
        simp [hf, hnone]
    · cases hf : f a.1 a.2 with
      | some b => simpa [List.find?_cons, hf, hk] using ih h.2
      | none => simpa [List.find?_cons, hf, hk] using ih h.2

theorem pairwise_filterMap (f : String → α → Option β) (d : Dict α) :
    (d.entries.filterMap fun e => (f e.1 e.2).map (e.1, ·)).Pairwise (fun a b => a.1 < b.1) := by
  refine d.increasing.filterMap _ fun a a' hlt b hb b' hb' => ?_
  obtain ⟨x, -, rfl⟩ := Option.map_eq_some_iff.1 hb
  obtain ⟨x', -, rfl⟩ := Option.map_eq_some_iff.1 hb'
  exact hlt

/-- Apply `f` to every entry and drop those that it gives nothing for. -/
def filterMap (f : String → α → Option β) (d : Dict α) : Dict β :=
  ⟨d.entries.filterMap fun e => (f e.1 e.2).map (e.1, ·), pairwise_filterMap f d⟩

theorem get?_filterMap (d : Dict α) (f : String → α → Option β) (k : String) :
    (d.filterMap f).get? k = (d.get? k).bind (f k) :=
  find?_filterMap f k d.increasing

theorem get?_ofList_filterMap (d : Dict α) (f : String → α → Option β) (k : String) :
    (ofList (d.toList.filterMap fun e => (f e.1 e.2).map (e.1, ·))).get? k =
      (d.get? k).bind (f k) := by
  have h := get?_foldl_insert (pairwise_filterMap f d) empty k
  rw [find?_filterMap f k d.increasing, get?_empty, Option.or_none] at h
  exact h

theorem entries_eq_of_find? {l l' : List (String × α)}
    (h : l.Pairwise (fun a b => a.1 < b.1)) (h' : l'.Pairwise (fun a b => a.1 < b.1))
    (heq : ∀ k,
      (l.find? (fun e => e.1 == k)).map (·.2) = (l'.find? (fun e => e.1 == k)).map (·.2)) :
    l = l' := by
  induction l generalizing l' with
  | nil =>
    cases l' with
    | nil => rfl
    | cons b l' => simpa using heq b.1
  | cons a l ih =>
    cases l' with
    | nil => simpa using heq a.1
    | cons b l' =>
      rw [List.pairwise_cons] at h h'
      have hab : a.1 = b.1 := by
        apply eq_of_not_lt
        · intro hlt
          have hnone : l'.find? (fun e => e.1 == a.1) = none :=
            find?_eq_none_of_lt fun e he => String.lt_trans hlt (h'.1 e he)
          have hne : ¬ b.1 = a.1 := fun he => String.lt_irrefl a.1 (he ▸ hlt)
          simpa [List.find?_cons, hne, hnone] using heq a.1
        · intro hlt
          have hnone : l.find? (fun e => e.1 == b.1) = none :=
            find?_eq_none_of_lt fun e he => String.lt_trans hlt (h.1 e he)
          have hne : ¬ a.1 = b.1 := fun he => String.lt_irrefl b.1 (he ▸ hlt)
          simpa [List.find?_cons, hne, hnone] using heq b.1
      have hv : a.2 = b.2 := by simpa [hab] using heq a.1
      have htail : l = l' := by
        apply ih h.2 h'.2
        intro k
        by_cases hk : a.1 = k
        · have h₁ : l.find? (fun e => e.1 == k) = none :=
            find?_eq_none_of_lt fun e he => hk ▸ h.1 e he
          have h₂ : l'.find? (fun e => e.1 == k) = none :=
            find?_eq_none_of_lt fun e he => by rw [← hk, hab]; exact h'.1 e he
          rw [h₁, h₂]
        · have hk' : ¬ b.1 = k := fun he => hk (hab.trans he)
          simpa [List.find?_cons, hk, hk'] using heq k
      rw [Prod.ext hab hv, htail]

/-- Maps are equal if every look-up answers alike. -/
theorem ext_get? {d d' : Dict α} (h : ∀ k, d.get? k = d'.get? k) : d = d' := by
  obtain ⟨l, hl⟩ := d
  obtain ⟨l', hl'⟩ := d'
  obtain rfl := entries_eq_of_find? hl hl' h
  rfl

end Dict

end Rollout
