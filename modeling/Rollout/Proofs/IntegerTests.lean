import Rollout.Proofs.Decimals
import Rollout.Spec.Operator

/-!
# Tests of integers

The numeric operators compare the binary64 numbers nearest to two integers, also where these are
written as texts. They are exact on two integers if and only if these are equal or have different
nearest numbers (`Operator.exactOn_iff_nearest`). Texts are compared as they are, so a list of one
integer is always exact.
-/

namespace Rollout

namespace NumberTest

/-- Whether the test holds of two integers. -/
def holdsOf (t : NumberTest) (a b : Int) : Bool :=
  match t with
  | .greater => decide (a > b)
  | .atLeast => decide (a ≥ b)
  | .less => decide (a < b)
  | .atMost => decide (a ≤ b)

theorem holds_ofInt_of_ne {a b : Int} (h : Binary64.ofInt a ≠ Binary64.ofInt b) (t : NumberTest) :
    t.holds (Binary64.ofInt a) (Binary64.ofInt b) = t.holdsOf a b := by
  rw [Bool.eq_iff_iff]
  cases t <;> simp [holds, holdsOf, Binary64.less_ofInt_iff, Binary64.atMost_ofInt_iff, h, h.symm]

theorem holds_ofInt_of_eq {a b : Int} (h : Binary64.ofInt a = Binary64.ofInt b) (t : NumberTest) :
    t.holds (Binary64.ofInt a) (Binary64.ofInt b) = t.holdsOf a a := by
  rw [Bool.eq_iff_iff]
  cases t <;> simp [holds, holdsOf, Binary64.less_ofInt_iff, Binary64.atMost_ofInt_iff, h]

end NumberTest

/-- An integer as a value: as it is, or as its text. -/
def Attribute.writings (n : Int) : List Attribute := [.int n, .text (toString n)]

/-- An integer as a target: as it is, or as its text. -/
def Json.writings (n : Int) : List Json := [.int n, .text (toString n)]

namespace Operator

/-! ### What the operators compare -/

theorem test_number {value : Attribute} {target : Json} {x y : Binary64}
    (hvalue : value.toBinary64? = some x) (htarget : target.toBinary64? = some y) (t : NumberTest)
    (idLists : Dict IdList) :
    (number t).test (some value) (some target) idLists = t.holds x y := by
  simp [test, test?, hvalue, htarget]

theorem toBinary64?_of_mem_writings {n : Int} {value : Attribute}
    (h : value ∈ Attribute.writings n) : value.toBinary64? = some (Binary64.ofInt n) := by
  obtain rfl | rfl : value = .int n ∨ value = .text (toString n) := by
    simpa [Attribute.writings] using h
  · rfl
  · rw [Attribute.toBinary64?, Text.trim_toString, Binary64.ofText?_toString]

theorem toBinary64?_of_mem_json_writings {n : Int} {target : Json} (h : target ∈ Json.writings n) :
    target.toBinary64? = some (Binary64.ofInt n) := by
  obtain rfl | rfl : target = .int n ∨ target = .text (toString n) := by
    simpa [Json.writings] using h
  · rfl
  · rw [Json.toBinary64?, Text.trim_toString, Binary64.ofText?_toString]

/-- The numeric tests of two integers, in all writings. -/
theorem test_number_of_mem_writings {a b : Int} {value : Attribute} {target : Json}
    (hvalue : value ∈ Attribute.writings a) (htarget : target ∈ Json.writings b) (t : NumberTest)
    (idLists : Dict IdList) :
    (number t).test (some value) (some target) idLists =
      t.holds (Binary64.ofInt a) (Binary64.ofInt b) :=
  test_number (toBinary64?_of_mem_writings hvalue) (toBinary64?_of_mem_json_writings htarget) t
    idLists

theorem test_equals (negated : Bool) (value : Option Attribute) (target : Option Json)
    (idLists : Dict IdList) :
    (equals negated).test value target idLists =
      (((value.map Attribute.toJson).getD .null).looselyEqual (target.getD .null) != negated) := rfl

theorem looselyEqual_number (m n : Number) :
    (Json.number m).looselyEqual (.number n) = m.toBinary64.equal n.toBinary64 := rfl

theorem equal_toBinary64_int (a b : Int) :
    (Number.int a).toBinary64.equal (Number.int b).toBinary64 =
      decide (Binary64.ofInt a = Binary64.ofInt b) := by
  rw [Bool.eq_iff_iff, decide_eq_true_eq]
  exact Binary64.equal_ofInt_iff

theorem test_equals_int (negated : Bool) (a b : Int) (idLists : Dict IdList) :
    (equals negated).test (some (.int a)) (some (.int b)) idLists =
      (decide (Binary64.ofInt a = Binary64.ofInt b) != negated) := by
  have hvalue : ((some (Attribute.int a)).map Attribute.toJson).getD .null = .number (.int a) := rfl
  rw [test_equals, hvalue, Option.getD_some, Json.int, looselyEqual_number, equal_toBinary64_int]

/-- Texts tell all integers apart. -/
theorem test_oneOf_int {b : Int} (hb : b < 2 ^ 63) (a : Int) (idLists : Dict IdList) :
    (oneOf false false).test (some (.int a)) (some (.array [.int b])) idLists = decide (a = b) := by
  have htarget : (Json.int b).comparableText? = some (toString b) := by
    simp only [Json.int, Json.comparableText?, Number.toInt64?]
    rw [if_pos (hb.trans_eq (by norm_num))]
  have htext : (toString a == toString b) = decide (a = b) := by
    rw [Bool.eq_iff_iff, beq_iff_eq, decide_eq_true_eq]
    exact ⟨Decimal.toString_inj, congrArg toString⟩
  simp only [test, test?, found?, Option.bind_some, Json.comparableTexts?,
    Attribute.comparableText?, List.filterMap_cons, List.filterMap_nil, htarget, Option.map_some,
    List.any_cons, List.any_nil, Bool.or_false, if_neg Bool.false_ne_true, Text.lowercase_toString,
    htext, Bool.bne_false, Option.getD_some]

/-! ### Where they are exact -/

/-- The numeric operators say of the integers `a`, as the value, and `b`, as the target, how these
compare. -/
structure ExactOn (idLists : Dict IdList) (a b : Int) : Prop where
  equal : (equals false).test (some (.int a)) (some (.int b)) idLists = decide (a = b)
  unequal : (equals true).test (some (.int a)) (some (.int b)) idLists = decide (a ≠ b)
  order (t : NumberTest) {value : Attribute} {target : Json} (hvalue : value ∈ Attribute.writings a)
    (htarget : target ∈ Json.writings b) :
    (number t).test (some value) (some target) idLists = t.holdsOf a b
  /-- Being equal is being in the list of one. -/
  listed : (equals false).test (some (.int a)) (some (.int b)) idLists =
    (oneOf false false).test (some (.int a)) (some (.array [.int b])) idLists

variable {a b : Int} {idLists : Dict IdList}

theorem ExactOn.eq_or_ne (h : ExactOn idLists a b) :
    a = b ∨ Binary64.ofInt a ≠ Binary64.ofInt b := by
  by_contra! hne
  have hequal := h.equal
  rw [test_equals_int, hne.2, decide_eq_true rfl, decide_eq_false hne.1] at hequal
  cases hequal

theorem exactOn_of_eq_or_ne (hb : b < 2 ^ 63)
    (h : a = b ∨ Binary64.ofInt a ≠ Binary64.ofInt b) : ExactOn idLists a b := by
  have hnearest : Binary64.ofInt a = Binary64.ofInt b ↔ a = b := by
    rcases h with rfl | hne
    · exact iff_of_true rfl rfl
    · exact iff_of_false hne fun heq => hne (congrArg Binary64.ofInt heq)
  have hholds (t : NumberTest) :
      t.holds (Binary64.ofInt a) (Binary64.ofInt b) = t.holdsOf a b := by
    rcases h with rfl | hne
    · exact t.holds_ofInt_of_eq rfl
    · exact t.holds_ofInt_of_ne hne
  have hequal : (equals false).test (some (.int a)) (some (.int b)) idLists = decide (a = b) := by
    rw [test_equals_int, Bool.bne_false, decide_eq_decide]
    exact hnearest
  exact
    { equal := hequal
      unequal := by
        rw [test_equals_int, Bool.bne_true, ← decide_not, decide_eq_decide]
        exact not_congr hnearest
      order := fun t _ _ hvalue htarget =>
        (test_number_of_mem_writings hvalue htarget t idLists).trans (hholds t)
      listed := hequal.trans (test_oneOf_int hb a idLists).symm }

/-- The operators are exact on two integers if and only if these are equal or have different nearest
numbers, as all integers of up to 53 binary digits have. Integers with the same nearest number are
taken for equal. A list of one integer is exact in any case. -/
theorem exactOn_iff_nearest (idLists : Dict IdList) (a b : Int) (hb : b < 2 ^ 63) :
    (ExactOn idLists a b ↔ a = b ∨ Binary64.ofInt a ≠ Binary64.ofInt b) ∧
    (a.natAbs ≤ 2 ^ 53 → b.natAbs ≤ 2 ^ 53 → ExactOn idLists a b) ∧
    (Binary64.ofInt a = Binary64.ofInt b →
      (equals false).test (some (.int a)) (some (.int b)) idLists = true ∧
      (equals true).test (some (.int a)) (some (.int b)) idLists = false ∧
      ∀ t : NumberTest, ∀ value ∈ Attribute.writings a, ∀ target ∈ Json.writings b,
        (number t).test (some value) (some target) idLists = t.holdsOf a a) ∧
    (oneOf false false).test (some (.int a)) (some (.array [.int b])) idLists = decide (a = b) := by
  refine ⟨⟨ExactOn.eq_or_ne, exactOn_of_eq_or_ne hb⟩, fun ha hb' => ?_, fun h => ?_,
    test_oneOf_int hb a idLists⟩
  · exact exactOn_of_eq_or_ne hb
      (or_iff_not_imp_left.2 fun hne h => hne (Binary64.ofInt_inj_of_natAbs_le ha hb' h))
  · refine ⟨by rw [test_equals_int, h, decide_eq_true rfl]; rfl,
      by rw [test_equals_int, h, decide_eq_true rfl]; rfl, fun t value hvalue target htarget => ?_⟩
    rw [← t.holds_ofInt_of_eq h]
    exact test_number_of_mem_writings hvalue htarget t idLists

/-- Two milliseconds of one day. -/
theorem exactOn_iff_nearest_milliseconds :
    (1704067200001 : Int) < 2 ^ 63 ∧ (1704067200000 : Int).natAbs ≤ 2 ^ 53 ∧
    (1704067200001 : Int).natAbs ≤ 2 ^ 53 ∧ ExactOn ∅ 1704067200000 1704067200001 := by
  have hbound : (1704067200001 : Int) < 2 ^ 63 := by decide
  have ha : (1704067200000 : Int).natAbs ≤ 2 ^ 53 := by decide
  have hb : (1704067200001 : Int).natAbs ≤ 2 ^ 53 := by decide
  exact ⟨hbound, ha, hb, (exactOn_iff_nearest ∅ 1704067200000 1704067200001 hbound).2.1 ha hb⟩

/-- The first integer that is no number of the format is taken for the one before it. -/
theorem not_forall_exactOn :
    ¬ ∀ a b : Int, -2 ^ 63 ≤ a → a < 2 ^ 63 → -2 ^ 63 ≤ b → b < 2 ^ 63 → ExactOn ∅ a b := by
  intro h
  have hexact : ExactOn ∅ (2 ^ 53) (2 ^ 53 + 1) :=
    h (2 ^ 53) (2 ^ 53 + 1) (by decide) (by decide) (by decide) (by decide)
  have hsame : Binary64.ofInt (2 ^ 53) = Binary64.ofInt (2 ^ 53 + 1) := by decide +kernel
  rcases hexact.eq_or_ne with heq | hne
  · exact absurd heq (by decide)
  · exact hne hsame

end Operator

end Rollout
