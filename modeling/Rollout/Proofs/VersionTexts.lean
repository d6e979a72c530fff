import Mathlib.Data.List.DropRight
import Rollout.Proofs.IdListReplay
import Rollout.Spec.Operator

/-!
# Texts of versions

A text is taken apart in four steps: the blanks around it are left out, then one leading `v`, then
all from the first hyphen or plus sign on, and what remains is cut at its points
(`Version.IsCutInto`). There is one way to do so, and the text is read as a version if and only if
every part is the decimal text of a number below 2⁶⁴ (`Version.ofText?_eq_some_iff`,
`Version.ofText?_eq_none_iff`).
-/

namespace Rollout

/-! ### Trimming and cutting -/

namespace Text

variable {p : Char → Bool} {cs : List Char}

/-- `inner` is the list without what satisfies `p` at its two ends. -/
def TrimsTo (p : Char → Bool) (cs inner : List Char) : Prop :=
  ∃ lead trail, cs = lead ++ inner ++ trail ∧ (∀ c ∈ lead ++ trail, p c = true) ∧
    (∀ c ∈ inner.head?, p c = false) ∧ ∀ c ∈ inner.getLast?, p c = false

/-- `front` is the list up to the first element that satisfies `p`. -/
def EndsAtFirst (p : Char → Bool) (cs front : List Char) : Prop :=
  ∃ rest, cs = front ++ rest ∧ (∀ c ∈ front, p c = false) ∧ ∀ c ∈ rest.head?, p c = true

theorem head?_dropWhile (p : Char → Bool) (cs : List Char) :
    ∀ c ∈ (cs.dropWhile p).head?, p c = false := by
  intro c hc
  have hnot := List.head?_dropWhile_not p cs
  rwa [Option.mem_def.1 hc] at hnot

theorem dropWhile_of_head? (h : ∀ c ∈ cs.head?, p c = false) : cs.dropWhile p = cs := by
  cases cs with
  | nil => rfl
  | cons c rest => rw [List.dropWhile_cons, h c rfl, if_neg Bool.false_ne_true]

theorem takeWhile_of_head? (h : ∀ c ∈ cs.head?, p c = false) : cs.takeWhile p = [] := by
  cases cs with
  | nil => rfl
  | cons c rest => rw [List.takeWhile_cons, h c rfl, if_neg Bool.false_ne_true]

theorem trimsTo_trimList (p : Char → Bool) (cs : List Char) : TrimsTo p cs (trimList p cs) := by
  -- The second pass of `trimList`, from the right, is the library's `rdropWhile`.
  have hinner : trimList p cs <+: cs.dropWhile p := List.rdropWhile_prefix p _
  refine ⟨cs.takeWhile p, (cs.dropWhile p).rtakeWhile p, ?_, fun c hc => ?_, fun c hc => ?_,
    fun c hc => ?_⟩
  · calc
      cs = cs.takeWhile p ++ cs.dropWhile p := List.takeWhile_append_dropWhile.symm
      _ = cs.takeWhile p ++ (trimList p cs ++ (cs.dropWhile p).rtakeWhile p) :=
        congrArg _ List.rdropWhile_append_rtakeWhile.symm
      _ = cs.takeWhile p ++ trimList p cs ++ (cs.dropWhile p).rtakeWhile p :=
        (List.append_assoc ..).symm
  · rcases List.mem_append.1 hc with hlead | htrail
    · exact List.mem_takeWhile_imp hlead
    · exact List.mem_rtakeWhile_imp htrail
  · obtain ⟨trail, htrail⟩ := hinner
    refine head?_dropWhile p cs c ?_
    rw [← htrail, List.head?_append, Option.mem_def.1 hc]
    rfl
  · refine head?_dropWhile p (cs.dropWhile p).reverse c ?_
    rwa [trimList, List.getLast?_reverse] at hc

theorem TrimsTo.eq {inner : List Char} (h : TrimsTo p cs inner) : inner = trimList p cs := by
  obtain ⟨lead, trail, rfl, hblank, hhead, hlast⟩ := h
  have hlead : ∀ c ∈ lead, p c = true := fun c hc => hblank c (List.mem_append_left trail hc)
  have htrail : ∀ c ∈ trail, p c = true := fun c hc => hblank c (List.mem_append_right lead hc)
  rw [trimList, List.append_assoc, List.dropWhile_append_of_pos hlead]
  cases inner with
  | nil =>
    -- All is blank, so that nothing stops the first of the two passes before the end.
    rw [List.nil_append, List.dropWhile_eq_nil_iff.2 htrail]
    rfl
  | cons c rest =>
    have hfront : (c :: rest ++ trail).dropWhile p = c :: rest ++ trail :=
      dropWhile_of_head? fun d hd => hhead d hd
    have hback : ((c :: rest).reverse).dropWhile p = (c :: rest).reverse :=
      dropWhile_of_head? fun d hd => hlast d (by rwa [List.head?_reverse] at hd)
    rw [hfront, List.reverse_append,
      List.dropWhile_append_of_pos fun d hd => htrail d (List.mem_reverse.1 hd), hback,
      List.reverse_reverse]

theorem trimsTo_iff {inner : List Char} : TrimsTo p cs inner ↔ inner = trimList p cs :=
  ⟨TrimsTo.eq, fun h => h ▸ trimsTo_trimList p cs⟩

theorem endsAtFirst_iff {front : List Char} :
    EndsAtFirst p cs front ↔ front = cs.takeWhile (!p ·) := by
  constructor
  · rintro ⟨rest, rfl, hfront, hrest⟩
    have hnone : rest.takeWhile (!p ·) = [] := takeWhile_of_head? fun c hc => by
      rw [hrest c hc]
      rfl
    rw [List.takeWhile_append_of_pos fun c hc => by rw [hfront c hc]; rfl, hnone,
      List.append_nil]
  · rintro rfl
    refine ⟨cs.dropWhile (!p ·), List.takeWhile_append_dropWhile.symm, fun c hc => ?_,
      fun c hc => ?_⟩
    · simpa using List.mem_takeWhile_imp hc
    · simpa using head?_dropWhile (!p ·) cs c hc

theorem splitList_eq_splitOn (c : Char) (cs : List Char) :
    splitList (· == c) cs = cs.splitOn c := by
  rw [List.splitOn_eq_splitOnP]
  induction cs with
  | nil => rfl
  | cons d rest ih =>
    rw [splitList, List.splitOnP_cons_eq_if_modifyHead, ih]
    cases hrest : rest.splitOnP (· == c) with
    | nil => exact absurd hrest (List.splitOnP_ne_nil _ rest)
    | cons first parts => rfl

theorem exists_splitList_cons {c : Char} (hc : ¬ p c = true) (rest : List Char) :
    ∃ first parts, splitList p rest = first :: parts ∧
      splitList p (c :: rest) = (c :: first) :: parts := by
  obtain ⟨first, parts, hrest⟩ := List.exists_cons_of_ne_nil (splitList_ne_nil p rest)
  refine ⟨first, parts, hrest, ?_⟩
  rw [splitList, if_neg hc, hrest]

/-- The parts are free of what they are cut at. -/
theorem eq_false_of_mem_splitList {part : List Char} (h : part ∈ splitList p cs) :
    ∀ c ∈ part, p c = false := by
  induction cs generalizing part with
  | nil =>
    obtain rfl := List.mem_singleton.1 h
    exact fun _ hc => absurd hc List.not_mem_nil
  | cons d rest ih =>
    by_cases hd : p d = true
    · rw [splitList, if_pos hd] at h
      rcases List.mem_cons.1 h with rfl | hlater
      · exact fun _ hc => absurd hc List.not_mem_nil
      · exact ih hlater
    · obtain ⟨first, parts, hrest, hparts⟩ := exists_splitList_cons hd rest
      rw [hparts] at h
      rw [hrest] at ih
      rcases List.mem_cons.1 h with rfl | hlater
      · intro c hc
        rcases List.mem_cons.1 hc with rfl | hfirst
        · exact Bool.eq_false_iff.2 hd
        · exact ih List.mem_cons_self c hfirst
      · exact ih (List.mem_cons_of_mem first hlater)

/-- What is cut at a character is joined by it again. -/
theorem splitList_eq_iff {c : Char} {parts : List (List Char)} :
    splitList (· == c) cs = parts ↔
      cs = [c].intercalate parts ∧ parts ≠ [] ∧ ∀ part ∈ parts, c ∉ part := by
  constructor
  · rintro rfl
    refine ⟨?_, ?_, fun part hpart hc => ?_⟩
    · rw [splitList_eq_splitOn, List.intercalate_splitOn]
    · rw [splitList_eq_splitOn]
      exact List.splitOn_ne_nil c cs
    · exact absurd (eq_false_of_mem_splitList hpart c hc) (by simp)
  · rintro ⟨rfl, hne, hnot⟩
    rw [splitList_eq_splitOn, List.splitOn_intercalate c hnot hne]

end Text

/-! ### The parts of a text -/

namespace Version

/-- How a text is taken apart: without the blanks around it, `inner` is left; without one leading
`v`, `body`; and without all from the first hyphen or plus sign on, `counted`, whose points divide
the parts. -/
def IsCutInto (s : String) (parts : List (List Char)) : Prop :=
  ∃ inner body counted,
    Text.TrimsTo Text.isBlank s.toList inner ∧
    (inner = 'v' :: body ∨ inner = body ∧ inner.head? ≠ some 'v') ∧
    Text.EndsAtFirst (fun c => c == '-' || c == '+') body counted ∧
    counted = ['.'].intercalate parts ∧ parts ≠ [] ∧ ∀ part ∈ parts, '.' ∉ part

/-- The part is the decimal text of a number below 2⁶⁴. -/
def IsComponent (part : List Char) : Prop :=
  part ≠ [] ∧ (∀ c ∈ part, c.isDigit = true) ∧ Binary64.digitsValue part < Nat.pow 2 64

/-- The text is one of the version: its parts are the texts of the components. -/
def Spells (s : String) (v : Version) : Prop :=
  ∃ parts, IsCutInto s parts ∧ (∀ part ∈ parts, IsComponent part) ∧
    v = parts.map Binary64.digitsValue

/-- The text has a part that is empty, holds a character other than a digit, or is too large. -/
def IsFaulty (s : String) : Prop :=
  ∃ parts, IsCutInto s parts ∧ ∃ part ∈ parts,
    part = [] ∨ (∃ c ∈ part, c.isDigit = false) ∨ Nat.pow 2 64 ≤ Binary64.digitsValue part

/-- The list without one leading `v`. -/
def unmarked : List Char → List Char
  | 'v' :: r => r
  | r => r

/-- What counts of a text as a version. -/
def countedOf (s : String) : List Char :=
  (unmarked (Text.trimList Text.isBlank s.toList)).takeWhile fun c => c != '-' && c != '+'

theorem eq_unmarked_iff {inner body : List Char} :
    (inner = 'v' :: body ∨ inner = body ∧ inner.head? ≠ some 'v') ↔ body = unmarked inner := by
  constructor
  · rintro (rfl | ⟨rfl, hhead⟩)
    · rfl
    · unfold unmarked
      split
      · exact absurd rfl hhead
      · rfl
  · rintro rfl
    unfold unmarked
    split
    · exact .inl rfl
    · next hmark =>
      refine .inr ⟨rfl, fun hhead => ?_⟩
      obtain ⟨rest, hrest⟩ := List.head?_eq_some_iff.1 hhead
      exact hmark rest hrest

theorem isCutInto_iff {s : String} {parts : List (List Char)} :
    IsCutInto s parts ↔ parts = Text.splitList (· == '.') (countedOf s) := by
  have hcounted : countedOf s = (unmarked (Text.trimList Text.isBlank s.toList)).takeWhile
      (!(fun c => c == '-' || c == '+') ·) := by
    simp only [countedOf, Bool.not_or, bne]
  constructor
  · rintro ⟨inner, body, counted, hinner, hbody, hend, hparts⟩
    rw [← Text.splitList_eq_iff.2 hparts, Text.endsAtFirst_iff.1 hend, eq_unmarked_iff.1 hbody,
      Text.trimsTo_iff.1 hinner, hcounted]
  · rintro rfl
    exact ⟨_, _, _, Text.trimsTo_iff.2 rfl, eq_unmarked_iff.2 rfl, Text.endsAtFirst_iff.2 hcounted,
      Text.splitList_eq_iff.1 rfl⟩

/-- There is one way to take a text apart. -/
theorem existsUnique_isCutInto (s : String) : ∃! parts, IsCutInto s parts :=
  ⟨_, isCutInto_iff.2 rfl, fun _ => isCutInto_iff.1⟩

/-! ### Reading -/

theorem not_isComponent_iff {part : List Char} :
    ¬ IsComponent part ↔
      part = [] ∨ (∃ c ∈ part, c.isDigit = false) ∨ Nat.pow 2 64 ≤ Binary64.digitsValue part := by
  simp only [IsComponent, not_and_or, not_not, not_forall, not_lt, Bool.not_eq_true, exists_prop]

theorem component?_of_isComponent {part : List Char} (h : IsComponent part) :
    component? part = some (Binary64.digitsValue part) := by
  obtain ⟨hne, hdigits, hlt⟩ := h
  have hempty : part.isEmpty = false := List.isEmpty_eq_false_iff.2 hne
  have hall : part.all Char.isDigit = true := List.all_eq_true.2 hdigits
  simp [component?, hempty, hall, not_le.2 hlt]

theorem component?_of_not_isComponent {part : List Char} (h : ¬ IsComponent part) :
    component? part = none := by
  refine if_pos ?_
  rcases not_isComponent_iff.1 h with rfl | ⟨c, hc, hdigit⟩ | hlarge
  · rfl
  · have hall : part.all Char.isDigit = false := List.all_eq_false.2 ⟨c, hc, by simp [hdigit]⟩
    simp [hall]
  · simp [hlarge]

theorem mapM_component?_of_forall {parts : List (List Char)}
    (h : ∀ part ∈ parts, IsComponent part) :
    parts.mapM component? = some (parts.map Binary64.digitsValue) := by
  induction parts with
  | nil => rfl
  | cons part parts ih =>
    rw [List.mapM_cons, component?_of_isComponent (h part List.mem_cons_self),
      ih fun q hq => h q (List.mem_cons_of_mem part hq)]
    rfl

theorem mapM_component?_of_exists {parts : List (List Char)}
    (h : ∃ part ∈ parts, ¬ IsComponent part) : parts.mapM component? = none := by
  induction parts with
  | nil =>
    obtain ⟨part, hpart, -⟩ := h
    cases hpart
  | cons part parts ih =>
    rw [List.mapM_cons]
    by_cases hfirst : IsComponent part
    · obtain ⟨q, hq, hnot⟩ := h
      have hrest : q ∈ parts := by
        rcases List.mem_cons.1 hq with rfl | hrest
        · exact absurd hfirst hnot
        · exact hrest
      rw [component?_of_isComponent hfirst, ih ⟨q, hrest, hnot⟩]
      rfl
    · rw [component?_of_not_isComponent hfirst]
      rfl

/-- An empty text has one part, which is no component. -/
theorem ofText?_eq_mapM (s : String) :
    ofText? s = (Text.splitList (· == '.') (countedOf s)).mapM component? := by
  have heq : ofText? s = if (countedOf s).isEmpty then none
      else (Text.splitList (· == '.') (countedOf s)).mapM component? := rfl
  rw [heq]
  cases countedOf s with
  | nil => rfl
  | cons c rest => rfl

theorem isFaulty_iff {s : String} :
    IsFaulty s ↔ ∃ part ∈ Text.splitList (· == '.') (countedOf s), ¬ IsComponent part := by
  simp only [IsFaulty, isCutInto_iff, exists_eq_left, not_isComponent_iff]

theorem spells_iff {s : String} {v : Version} :
    Spells s v ↔ (∀ part ∈ Text.splitList (· == '.') (countedOf s), IsComponent part) ∧
      v = (Text.splitList (· == '.') (countedOf s)).map Binary64.digitsValue := by
  simp only [Spells, isCutInto_iff, exists_eq_left]

theorem not_isFaulty_iff {s : String} : ¬ IsFaulty s ↔ ∃ v, Spells s v := by
  rw [isFaulty_iff]
  simp only [not_exists, not_and, not_not]
  refine ⟨fun h => ⟨_, spells_iff.2 ⟨h, rfl⟩⟩, ?_⟩
  rintro ⟨v, hv⟩
  exact (spells_iff.1 hv).1

theorem ofText?_of_spells {s : String} {v : Version} (h : Spells s v) : ofText? s = some v := by
  obtain ⟨hparts, rfl⟩ := spells_iff.1 h
  exact (ofText?_eq_mapM s).trans (mapM_component?_of_forall hparts)

theorem ofText?_of_isFaulty {s : String} (h : IsFaulty s) : ofText? s = none :=
  (ofText?_eq_mapM s).trans (mapM_component?_of_exists (isFaulty_iff.1 h))

/-- A text is read as the version that it spells. -/
theorem ofText?_eq_some_iff {s : String} {v : Version} : ofText? s = some v ↔ Spells s v := by
  refine ⟨fun h => ?_, ofText?_of_spells⟩
  have hsound : ¬ IsFaulty s := fun hfaulty => by
    rw [ofText?_of_isFaulty hfaulty] at h
    cases h
  obtain ⟨w, hw⟩ := not_isFaulty_iff.1 hsound
  rw [ofText?_of_spells hw] at h
  exact Option.some.inj h ▸ hw

/-- A text that is not read has a faulty part. -/
theorem ofText?_eq_none_iff {s : String} : ofText? s = none ↔ IsFaulty s := by
  refine ⟨fun h => ?_, ofText?_of_isFaulty⟩
  by_contra hsound
  obtain ⟨v, hv⟩ := not_isFaulty_iff.1 hsound
  rw [ofText?_of_spells hv] at h
  cases h

end Version

end Rollout
