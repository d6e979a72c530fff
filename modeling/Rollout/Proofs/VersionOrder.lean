import Mathlib.Data.List.Lex
import Mathlib.Order.Compare
import Rollout.Proofs.NegatedForms
import Rollout.Proofs.VersionTexts

/-!
# The order of versions

Two versions compare as the lists of their components do in the lexicographic order, once the zeros
at the ends of these are dropped (`Version.order_compares`). So on all texts that spell a version
the six tests are those of a total preorder (`VersionTest.Preorders`). Where the value or the target
names no version, none of them holds (`Operator.versionTests_preorder`).
-/

namespace Rollout

/-! ### Significant components -/

namespace Version

/-- The components without the zeros at the end. -/
def significant (v : Version) : Version := v.rdropWhile (· == 0)

/-- A component before significant ones: a zero that nothing follows does not count. -/
def lead (a : Nat) (v : Version) : Version := if a = 0 ∧ v = [] then [] else a :: v

theorem lead_of_ne_nil (a : Nat) {v : Version} (h : v ≠ []) : lead a v = a :: v :=
  if_neg fun hzero => h hzero.2

theorem lead_of_pos {a : Nat} (h : 0 < a) (v : Version) : lead a v = a :: v :=
  if_neg fun hzero => h.ne' hzero.1

theorem significant_cons (a : Nat) (v : Version) :
    significant (a :: v) = lead a (significant v) := by
  have hrest : significant v = (v.reverse.dropWhile (· == 0)).reverse := rfl
  have hall : significant (a :: v) = ((v.reverse ++ [a]).dropWhile (· == 0)).reverse := by
    rw [significant, List.rdropWhile, List.reverse_cons]
  rw [hall, List.dropWhile_append]
  split
  case isTrue hempty =>
    rw [hrest, List.isEmpty_iff.1 hempty]
    cases a with
    | zero => rfl
    | succ n => rfl
  case isFalse hempty =>
    have hne : significant v ≠ [] := fun h => hempty (by simpa [hrest] using h)
    rw [lead_of_ne_nil a hne, hrest, List.reverse_append]
    rfl

theorem lead_le (a : Nat) (v : Version) : lead a v ≤ a :: v := by
  unfold lead
  split
  · exact (List.nil_lt_cons a v).le
  · exact le_rfl

theorem lead_lt_lead_of_lt {a b : Nat} (h : a < b) (v w : Version) : lead a v < lead b w := by
  rw [lead_of_pos (Nat.zero_lt_of_lt h)]
  exact (lead_le a v).trans_lt (List.cons_lt_cons_iff.2 (.inl h))

theorem lead_lt_lead (a : Nat) {v w : Version} (h : v < w) : lead a v < lead a w := by
  have hne : w ≠ [] := by
    rintro rfl
    exact List.not_lt_nil v h
  rw [lead_of_ne_nil a hne]
  exact (lead_le a v).trans_lt (List.cons_lt_cons_iff.2 (.inr ⟨rfl, h⟩))

/-- The first components decide, and the others only where these are equal. -/
theorem compares_lead {o : Ordering} {v w : Version} (h : o.Compares v w) (a b : Nat) :
    ((compare a b).then o).Compares (lead a v) (lead b w) := by
  rcases lt_trichotomy a b with hlt | rfl | hgt
  · rw [Nat.compare_eq_lt.2 hlt]
    exact lead_lt_lead_of_lt hlt v w
  · rw [Nat.compare_eq_eq.2 rfl]
    cases o with
    | lt => exact lead_lt_lead a h
    | eq => exact congrArg (lead a) h
    | gt => exact lead_lt_lead a (show w < v from h)
  · rw [Nat.compare_eq_gt.2 hgt]
    exact lead_lt_lead_of_lt hgt w v

/-- Versions compare as their significant components do. -/
theorem order_compares (v w : Version) : (order v w).Compares v.significant w.significant := by
  -- A version that has ended goes on with zeros, and `lead 0 []` is `[]` as the induction needs it.
  fun_induction order v w with
  | case1 => rfl
  | case2 a as ih =>
    rw [significant_cons]
    exact compares_lead ih a 0
  | case3 b bs ih =>
    rw [significant_cons]
    exact compares_lead ih 0 b
  | case4 a as b bs ih =>
    rw [significant_cons, significant_cons]
    exact compares_lead ih a b

end Version

/-! ### Tests of versions -/

namespace VersionTest

/-- What the test asks of two lists of components, in the lexicographic order. -/
def Relates : VersionTest → Version → Version → Prop
  | .greater, v, w => v > w
  | .atLeast, v, w => v ≥ w
  | .less, v, w => v < w
  | .atMost, v, w => v ≤ w
  | .same, v, w => v = w
  | .different, v, w => v ≠ w

instance decidableRelates : (t : VersionTest) → (v w : Version) → Decidable (t.Relates v w)
  | .greater, v, w => inferInstanceAs (Decidable (v > w))
  | .atLeast, v, w => inferInstanceAs (Decidable (v ≥ w))
  | .less, v, w => inferInstanceAs (Decidable (v < w))
  | .atMost, v, w => inferInstanceAs (Decidable (v ≤ w))
  | .same, v, w => inferInstanceAs (Decidable (v = w))
  | .different, v, w => inferInstanceAs (Decidable (v ≠ w))

/-- The test that holds with the sides exchanged. -/
def mirrored : VersionTest → VersionTest
  | .greater => .less
  | .atLeast => .atMost
  | .less => .greater
  | .atMost => .atLeast
  | .same => .same
  | .different => .different

theorem holds_iff_relates {o : Ordering} {v w : Version} (h : o.Compares v w) (t : VersionTest) :
    t.holds o = true ↔ t.Relates v w := by
  cases t with
  | greater => exact beq_iff_eq.trans h.eq_gt
  | atLeast => exact bne_iff_ne.trans h.ne_lt
  | less => exact beq_iff_eq.trans h.eq_lt
  | atMost => exact bne_iff_ne.trans h.ne_gt
  | same => exact beq_iff_eq.trans h.eq_eq
  | different => exact bne_iff_ne.trans (not_congr h.eq_eq)

theorem relates_mirrored (t : VersionTest) (v w : Version) :
    t.mirrored.Relates w v ↔ t.Relates v w := by
  cases t with
  | greater | atLeast | less | atMost => exact Iff.rfl
  | same => exact eq_comm
  | different => exact ne_comm

theorem Relates.trans {t : VersionTest} (ht : t ≠ .different) {u v w : Version}
    (huv : t.Relates u v) (hvw : t.Relates v w) : t.Relates u w := by
  cases t with
  | greater => exact gt_trans huv hvw
  | atLeast => exact ge_trans huv hvw
  | less => exact lt_trans huv hvw
  | atMost => exact le_trans huv hvw
  | same => exact Eq.trans huv hvw
  | different => exact absurd rfl ht

theorem existsUnique_holds (o : Ordering) :
    ∃! t : VersionTest, t ∈ [less, same, greater] ∧ t.holds o = true := by
  have hsome : ∃ t ∈ [less, same, greater], t.holds o = true := by cases o <;> decide
  have hone : ∀ s ∈ [less, same, greater], ∀ t ∈ [less, same, greater],
      s.holds o = true → t.holds o = true → s = t := by cases o <;> decide
  obtain ⟨t, ht, hholds⟩ := hsome
  exact ⟨t, ⟨ht, hholds⟩, fun s hs => hone s hs.1 t ht hs.2 hholds⟩

theorem existsUnique_relates (v w : Version) :
    ∃! t : VersionTest, t ∈ [less, same, greater] ∧ t.Relates v w :=
  (existsUnique_congr fun t =>
    and_congr_right fun _ => holds_iff_relates (cmp_compares v w) t).1 (existsUnique_holds _)

/-- The tests compare the texts of `S` as a total preorder does. -/
structure Preorders (holds : VersionTest → String → String → Prop) (S : String → Prop) : Prop where
  existsUnique {a b : String} (ha : S a) (hb : S b) :
    ∃! t : VersionTest, t ∈ [less, same, greater] ∧ holds t a b
  atMost_iff {a b : String} (ha : S a) (hb : S b) : holds atMost a b ↔ ¬ holds greater a b
  atLeast_iff {a b : String} (ha : S a) (hb : S b) : holds atLeast a b ↔ ¬ holds less a b
  different_iff {a b : String} (ha : S a) (hb : S b) : holds different a b ↔ ¬ holds same a b
  trans {t : VersionTest} {a b c : String} (ht : t ≠ different) (ha : S a) (hb : S b) (hc : S c)
    (hab : holds t a b) (hbc : holds t b c) : holds t a c
  mirror {a b : String} (t : VersionTest) (ha : S a) (hb : S b) :
    holds t.mirrored b a ↔ holds t a b

/-- Tests that compare what the texts stand for are those of a total preorder. -/
theorem preorders_of_relates {holds : VersionTest → String → String → Prop} {S : String → Prop}
    (f : String → Version)
    (h : ∀ a b, S a → S b → ∀ t : VersionTest, holds t a b ↔ t.Relates (f a) (f b)) :
    Preorders holds S where
  existsUnique ha hb :=
    (existsUnique_congr fun t => and_congr_right fun _ => h _ _ ha hb t).2
      (existsUnique_relates _ _)
  atMost_iff ha hb := by
    rw [h _ _ ha hb, h _ _ ha hb]
    exact not_lt.symm
  atLeast_iff ha hb := by
    rw [h _ _ ha hb, h _ _ ha hb]
    exact not_lt.symm
  different_iff ha hb := by
    rw [h _ _ ha hb, h _ _ ha hb]
    exact Iff.rfl
  trans ht ha hb hc hab hbc :=
    (h _ _ ha hc _).2 (((h _ _ ha hb _).1 hab).trans ht ((h _ _ hb hc _).1 hbc))
  mirror t ha hb := by
    rw [h _ _ hb ha, h _ _ ha hb]
    exact t.relates_mirrored _ _

end VersionTest

/-! ### Values and targets -/

namespace Version

/-- There is a text, which spells the version. -/
def SpelledBy (text : Option String) (v : Version) : Prop := ∃ s, text = some s ∧ Spells s v

theorem bind_ofText?_eq_some_iff {text : Option String} {v : Version} :
    text.bind ofText? = some v ↔ SpelledBy text v := by
  simp only [Option.bind_eq_some_iff, ofText?_eq_some_iff, SpelledBy]

theorem bind_ofText?_eq_none {text : Option String} (h : ¬ ∃ v, SpelledBy text v) :
    text.bind ofText? = none :=
  Option.eq_none_iff_forall_ne_some.2 fun v hv => h ⟨v, bind_ofText?_eq_some_iff.1 hv⟩

theorem not_exists_spelledBy_iff {text : Option String} :
    (¬ ∃ v, SpelledBy text v) ↔ text = none ∨ ∃ s, text = some s ∧ IsFaulty s := by
  cases text with
  | none => simp [SpelledBy]
  | some s => simp [SpelledBy, ← not_isFaulty_iff]

end Version

namespace Attribute

/-- The value has a text, which spells the version. -/
def NamesVersion (value : Option Attribute) (v : Version) : Prop :=
  Version.SpelledBy (value.bind comparableText?) v

/-- The value is missing, or an array, or its text has a part that is no component. -/
def NamesNoVersion (value : Option Attribute) : Prop :=
  value.all isArray = true ∨ ∃ s, value.bind comparableText? = some s ∧ Version.IsFaulty s

theorem bind_comparableText?_eq_none_iff {value : Option Attribute} :
    value.bind comparableText? = none ↔ value.all isArray = true := by
  refine ⟨fun h => ?_, bind_comparableText?_eq_none⟩
  match value with
  | none | some (.array _) => rfl
  | some (.bool _) | some (.int _) | some (.double _) | some (.text _) => cases h

theorem namesNoVersion_iff {value : Option Attribute} :
    NamesNoVersion value ↔ ¬ ∃ v, NamesVersion value v := by
  rw [NamesNoVersion, ← bind_comparableText?_eq_none_iff]
  exact Version.not_exists_spelledBy_iff.symm

end Attribute

namespace Json

/-- Whether the target has no text, which only single values have. -/
def isTextless : Json → Bool
  | .null | .array _ | .object _ => true
  | .bool _ | .number _ | .text _ => false

/-- The target has a text, which spells the version. -/
def NamesVersion (target : Option Json) (v : Version) : Prop :=
  Version.SpelledBy (target.bind comparableText?) v

/-- The target is missing, or has no text, or its text has a part that is no component. -/
def NamesNoVersion (target : Option Json) : Prop :=
  target.all isTextless = true ∨ ∃ s, target.bind comparableText? = some s ∧ Version.IsFaulty s

theorem bind_comparableText?_eq_none_iff {target : Option Json} :
    target.bind comparableText? = none ↔ target.all isTextless = true := by
  match target with
  | none | some .null | some (.array _) | some (.object _) => exact iff_of_true rfl rfl
  | some (.bool _) | some (.text _) => exact iff_of_false nofun nofun
  | some (.number n) =>
    refine iff_of_false (fun h => ?_) nofun
    simp only [Option.bind_some, comparableText?] at h
    split at h <;> cases h

theorem namesNoVersion_iff {target : Option Json} :
    NamesNoVersion target ↔ ¬ ∃ v, NamesVersion target v := by
  rw [NamesNoVersion, ← bind_comparableText?_eq_none_iff]
  exact Version.not_exists_spelledBy_iff.symm

end Json

namespace Operator

variable {value : Option Attribute} {target : Option Json} {v w : Version} {idLists : Dict IdList}

/-- The outcome is that of comparing the significant components. -/
theorem test_version (hvalue : Attribute.NamesVersion value v)
    (htarget : Json.NamesVersion target w) (t : VersionTest) :
    (version t).test value target idLists = true ↔ t.Relates v.significant w.significant := by
  have htest : (version t).test value target idLists = t.holds (v.order w) := by
    simp only [test, test?, Version.bind_ofText?_eq_some_iff.2 hvalue,
      Version.bind_ofText?_eq_some_iff.2 htarget]
    rfl
  rw [htest]
  exact VersionTest.holds_iff_relates (Version.order_compares v w) t

theorem test_version_of_namesNoVersion
    (h : Attribute.NamesNoVersion value ∨ Json.NamesNoVersion target) (t : VersionTest) :
    (version t).test value target idLists = false := by
  rcases h with hvalue | htarget
  · simp only [test, test?, Version.bind_ofText?_eq_none (Attribute.namesNoVersion_iff.1 hvalue)]
    rfl
  · simp only [test, test?, Version.bind_ofText?_eq_none (Json.namesNoVersion_iff.1 htarget)]
    cases (value.bind Attribute.comparableText?).bind Version.ofText? <;> rfl

/-- On the texts that spell a version, the tests are those of a total preorder. What holds of a
value and a target depends only on their components before the zeros at the end. If one of the two
names no version, none of the tests holds; that is so if it is missing, has no text, or has a text
with a faulty part, and in no other case. A text is taken apart in one way. -/
theorem versionTests_preorder (idLists : Dict IdList) :
    VersionTest.Preorders
      (fun t a b => (version t).test (some (.text a)) (some (.text b)) idLists = true)
      (fun s => ∃ v, Version.Spells s v) ∧
    (∀ (value : Option Attribute) (target : Option Json) (v w : Version),
      Attribute.NamesVersion value v → Json.NamesVersion target w → ∀ t : VersionTest,
      ((version t).test value target idLists = true ↔ t.Relates v.significant w.significant)) ∧
    (∀ (value : Option Attribute) (target : Option Json),
      Attribute.NamesNoVersion value ∨ Json.NamesNoVersion target → ∀ t : VersionTest,
      (version t).test value target idLists = false) ∧
    (∀ value : Option Attribute,
      Attribute.NamesNoVersion value ↔ ¬ ∃ v, Attribute.NamesVersion value v) ∧
    (∀ target : Option Json, Json.NamesNoVersion target ↔ ¬ ∃ w, Json.NamesVersion target w) ∧
    ∀ s : String, ∃! parts, Version.IsCutInto s parts := by
  refine ⟨VersionTest.preorders_of_relates (fun s => ((Version.ofText? s).getD []).significant) ?_,
    fun _ _ _ _ hvalue htarget => test_version hvalue htarget,
    fun _ _ h => test_version_of_namesNoVersion h, fun _ => Attribute.namesNoVersion_iff,
    fun _ => Json.namesNoVersion_iff, Version.existsUnique_isCutInto⟩
  rintro a b ⟨v, hv⟩ ⟨w, hw⟩ t
  rw [Version.ofText?_eq_some_iff.2 hv, Version.ofText?_eq_some_iff.2 hw]
  exact test_version ⟨a, rfl, hv⟩ ⟨b, rfl, hw⟩ t

/-- Releases of three, of four and of two components, an integer, and a name that is no version. -/
theorem versionTests_preorder_releases :
    Version.Spells "1.2.3" [1, 2, 3] ∧ Version.Spells "1.2.3.1" [1, 2, 3, 1] ∧
    Version.Spells " v1.10-beta.2" [1, 10] ∧
    (version .less).test (some (.text "1.2.3")) (some (.text " v1.10-beta.2")) ∅ = true ∧
    Attribute.NamesVersion (some (.int 2)) [2] ∧ Json.NamesVersion (some (.text "2.0")) [2, 0] ∧
    (version .same).test (some (.int 2)) (some (.text "2.0")) ∅ = true ∧
    Attribute.NamesNoVersion (some (.text "1.x")) ∧
    (version .different).test (some (.text "1.x")) (some (.text "2.0")) ∅ = false := by
  have hthree : Version.Spells "1.2.3" [1, 2, 3] :=
    Version.ofText?_eq_some_iff.1 (by decide +kernel)
  have hfour : Version.Spells "1.2.3.1" [1, 2, 3, 1] :=
    Version.ofText?_eq_some_iff.1 (by decide +kernel)
  have hbeta : Version.Spells " v1.10-beta.2" [1, 10] :=
    Version.ofText?_eq_some_iff.1 (by decide +kernel)
  have hinteger : Attribute.NamesVersion (some (.int 2)) [2] :=
    Version.bind_ofText?_eq_some_iff.1 (by decide +kernel)
  have htarget : Json.NamesVersion (some (.text "2.0")) [2, 0] :=
    Version.bind_ofText?_eq_some_iff.1 (by decide +kernel)
  have hname : Attribute.NamesNoVersion (some (.text "1.x")) :=
    .inr ⟨"1.x", rfl, Version.ofText?_eq_none_iff.1 (by decide +kernel)⟩
  obtain ⟨hlaws, houtcome, hnone, -⟩ := versionTests_preorder ∅
  have hfirst := (houtcome (some (.text "1.2.3")) (some (.text "1.2.3.1")) _ _ ⟨_, rfl, hthree⟩
    ⟨_, rfl, hfour⟩ .less).2 (by decide)
  have hsecond := (houtcome (some (.text "1.2.3.1")) (some (.text " v1.10-beta.2")) _ _
    ⟨_, rfl, hfour⟩ ⟨_, rfl, hbeta⟩ .less).2 (by decide)
  exact ⟨hthree, hfour, hbeta,
    hlaws.trans (by decide) ⟨_, hthree⟩ ⟨_, hfour⟩ ⟨_, hbeta⟩ hfirst hsecond, hinteger, htarget,
    (houtcome _ _ _ _ hinteger htarget .same).2 (by decide), hname,
    hnone _ _ (.inl hname) .different⟩

end Operator

end Rollout
