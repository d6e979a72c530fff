import Rollout.Evaluation

/-!
# Conditions and their negated forms

Eight operators have a negated form (`Operator.negatedForms`). Where such an operator can be
applied, its negated form says the opposite (`Operator.Negates.test?_eq`); where it cannot, neither
of them holds. Which values and targets it can be applied to depends on the operator
(`Operator.applies`). A condition that a gate passes and one that it fails differ in no other way
(`Context.gateFinding_negated`).
-/

namespace Rollout

/-! ### Values and targets that operators apply to -/

namespace Json

/-- Whether the target counts as a list of texts, as an array or as a single value. -/
def isListable : Json → Bool
  | .text _ | .number _ | .bool _ | .array _ => true
  | .null | .object _ => false

/-- Whether the target is the text or the number of a version. -/
def isVersion (j : Json) : Bool := (j.comparableText?.bind Version.ofText?).isSome

theorem isSome_comparableTexts? (j : Json) : j.comparableTexts?.isSome = j.isListable := by
  cases j with
  | number n =>
    simp only [comparableTexts?, comparableText?, isListable]
    split <;> rfl
  | null | bool b | text s | array items | object members => rfl

end Json

namespace Attribute

/-- Whether the value is an array. -/
def isArray : Attribute → Bool
  | .array _ => true
  | _ => false

/-- Whether the value is the text or the number of a version. -/
def isVersion (a : Attribute) : Bool := (a.comparableText?.bind Version.ofText?).isSome

end Attribute

namespace Operator

/-- The operators that have a negated form, each with that form. -/
def negatedForms : List (String × String) :=
  [("version_eq", "version_neq"), ("any", "none"), ("any_case_sensitive", "none_case_sensitive"),
   ("str_contains_any", "str_contains_none"), ("eq", "neq"),
   ("in_segment_list", "not_in_segment_list"), ("array_contains_any", "array_contains_none"),
   ("array_contains_all", "not_array_contains_all")]

/-- Whether an operator with a negated form, or such a form, can be applied. -/
def applies (o : Operator) (value : Option Attribute) (target : Option Json) : Bool :=
  match o with
  | .equals _ | .inIdList _ => true
  | .oneOf _ _ | .containsOneOf _ => target.any Json.isListable
  | .holdsOneOf _ | .holdsAllOf _ => value.any Attribute.isArray && target.any Json.isListable
  | .version _ => value.any Attribute.isVersion && target.any Json.isVersion
  | _ => false

/-- Whether the operator looks for one of its targets in a single text. -/
def testsText : Operator → Bool
  | .oneOf _ _ | .containsOneOf _ => true
  | _ => false

/-- The first operator is the negated form of the second one. -/
inductive Negates : Operator → Operator → Prop where
  | version : Negates (.version .different) (.version .same)
  | oneOf (caseSensitive : Bool) : Negates (.oneOf caseSensitive true) (.oneOf caseSensitive false)
  | containsOneOf : Negates (.containsOneOf true) (.containsOneOf false)
  | equals : Negates (.equals true) (.equals false)
  | inIdList : Negates (.inIdList true) (.inIdList false)
  | holdsOneOf : Negates (.holdsOneOf true) (.holdsOneOf false)
  | holdsAllOf : Negates (.holdsAllOf true) (.holdsAllOf false)

theorem negates_iff_mem_negatedForms {o n : Operator} :
    n.Negates o ↔ ∃ form ∈ negatedForms, o = ofName form.1 ∧ n = ofName form.2 := by
  constructor
  · intro h
    cases h with
    | version => exact ⟨("version_eq", "version_neq"), by decide⟩
    | oneOf caseSensitive =>
      cases caseSensitive
      · exact ⟨("any", "none"), by decide⟩
      · exact ⟨("any_case_sensitive", "none_case_sensitive"), by decide⟩
    | containsOneOf => exact ⟨("str_contains_any", "str_contains_none"), by decide⟩
    | equals => exact ⟨("eq", "neq"), by decide⟩
    | inIdList => exact ⟨("in_segment_list", "not_in_segment_list"), by decide⟩
    | holdsOneOf => exact ⟨("array_contains_any", "array_contains_none"), by decide⟩
    | holdsAllOf => exact ⟨("array_contains_all", "not_array_contains_all"), by decide⟩
  · rintro ⟨form, hform, rfl, rfl⟩
    simp only [negatedForms, List.mem_cons, List.not_mem_nil, or_false] at hform
    obtain rfl | rfl | rfl | rfl | rfl | rfl | rfl | rfl := hform
    · exact .version
    · exact .oneOf false
    · exact .oneOf true
    · exact .containsOneOf
    · exact .equals
    · exact .inIdList
    · exact .holdsOneOf
    · exact .holdsAllOf

/-! ### What the negated form comes to -/

variable {o n : Operator} {value : Option Attribute} {target : Option Json} {idLists : Dict IdList}

theorem map_bne_true (x : Option Bool) :
    x.map (· != true) = (x.map (· != false)).map (!·) := by
  cases x with
  | none => rfl
  | some b => cases b <;> rfl

/-- The negated form says the opposite, and cannot be applied where the operator cannot. -/
theorem Negates.test?_eq (h : n.Negates o) (value : Option Attribute) (target : Option Json)
    (idLists : Dict IdList) :
    n.test? value target idLists = (o.test? value target idLists).map (!·) := by
  cases h with
  | version =>
    simp only [test?]
    cases (value.bind Attribute.comparableText?).bind Version.ofText? with
    | none => rfl
    | some v => cases (target.bind Json.comparableText?).bind Version.ofText? <;> rfl
  | oneOf caseSensitive => exact map_bne_true _
  | containsOneOf => exact map_bne_true _
  | equals => exact map_bne_true (some _)
  | inIdList => exact map_bne_true (some _)
  | holdsOneOf => exact map_bne_true _
  | holdsAllOf => exact map_bne_true _

theorem isSome_bind_comparableTexts? (target : Option Json) :
    (target.bind Json.comparableTexts?).isSome = target.any Json.isListable := by
  cases target with
  | none => rfl
  | some j => exact j.isSome_comparableTexts?

theorem isSome_items? (value : Option Attribute) (target : Option Json)
    (test : List String → List String → Bool) :
    (items? value target test).isSome =
      (value.any Attribute.isArray && target.any Json.isListable) := by
  match value with
  | some (.array items) =>
    simp [items?, Attribute.isArray, -Option.map_bind, isSome_bind_comparableTexts?]
  | none | some (.bool _) | some (.int _) | some (.double _) | some (.text _) => rfl

theorem Negates.isSome_test? (h : n.Negates o) (value : Option Attribute) (target : Option Json)
    (idLists : Dict IdList) :
    (o.test? value target idLists).isSome = o.applies value target := by
  cases h with
  | version =>
    cases value with
    | none => rfl
    | some a =>
      cases target with
      | none => simp [test?, applies]
      | some j =>
        simp only [test?, applies, Option.any_some, Attribute.isVersion, Json.isVersion,
          Option.bind_some]
        cases a.comparableText?.bind Version.ofText? with
        | none => rfl
        | some v => cases j.comparableText?.bind Version.ofText? <;> rfl
  | oneOf caseSensitive | containsOneOf =>
    simp only [test?, applies, found?, Option.isSome_map, isSome_bind_comparableTexts?]
  | equals | inIdList => rfl
  | holdsOneOf | holdsAllOf => simp [test?, applies, isSome_items?]

theorem Negates.test_of_applies (h : n.Negates o) (happlies : o.applies value target = true) :
    n.test value target idLists = !o.test value target idLists := by
  have hsome := (h.isSome_test? value target idLists).trans happlies
  obtain ⟨b, hb⟩ := Option.isSome_iff_exists.1 hsome
  simp [test, h.test?_eq, hb]

theorem Negates.test_of_not_applies (h : n.Negates o) (happlies : o.applies value target = false) :
    o.test value target idLists = false ∧ n.test value target idLists = false := by
  have hnone : o.test? value target idLists = none := by
    simpa [happlies] using h.isSome_test? value target idLists
  simp [test, h.test?_eq, hnone]

theorem Negates.not_both (h : n.Negates o) :
    ¬ (o.test value target idLists = true ∧ n.test value target idLists = true) := by
  rintro ⟨ho, hn⟩
  cases happlies : o.applies value target with
  | true => simp [h.test_of_applies happlies, ho] at hn
  | false => simp [(h.test_of_not_applies happlies).1] at ho

/-- A test for texts finds nothing in a value that has no text. -/
theorem Negates.test_of_comparableText?_eq_none (h : n.Negates o) (htext : o.testsText = true)
    (hvalue : value.bind Attribute.comparableText? = none)
    (htarget : target.any Json.isListable = true) : n.test value target idLists = true := by
  obtain ⟨texts, htexts⟩ :=
    Option.isSome_iff_exists.1 ((isSome_bind_comparableTexts? target).trans htarget)
  cases h with
  | oneOf caseSensitive | containsOneOf => simp [test, test?, found?, hvalue, htexts]
  | version | equals | inIdList | holdsOneOf | holdsAllOf => cases htext

end Operator

namespace Attribute

theorem bind_comparableText?_eq_none {value : Option Attribute}
    (h : value.all Attribute.isArray = true) : value.bind comparableText? = none := by
  match value with
  | none | some (.array _) => rfl
  | some (.bool _) | some (.int _) | some (.double _) | some (.text _) => cases h

end Attribute

/-! ### Conditions -/

namespace Finding

/-- The opposite, found on the same way. -/
def negate (f : Finding) : Finding := { f with holds := !f.holds }

end Finding

namespace Context

theorem gateFinding_negated (nested : NestedEvaluation) (target : Option Json) :
    gateFinding nested target true = (gateFinding nested target false).map Finding.negate := by
  unfold gateFinding
  cases target.bind Json.text? with
  | none => rfl
  | some gate =>
    cases hgate : nested .gate gate with
    | error halt => simp [hgate, Except.map]
    | ok outcome =>
      cases hvalue : outcome.value <;> simp [hgate, Except.map, Finding.negate, hvalue]

theorem evaluateCondition_failGate (c : Context) (nested : NestedEvaluation) (snapshot : Snapshot)
    (condition : Condition) :
    c.evaluateCondition nested snapshot { condition with kind := .failGate } =
      (c.evaluateCondition nested snapshot { condition with kind := .passGate }).map
        Finding.negate :=
  gateFinding_negated nested condition.target

/-- An operator and its negated form never both hold. Where they apply, exactly one of them holds,
and otherwise none; of a value that is missing or an array, no text is found. A gate that is to fail
is found to hold exactly when it is not found to pass, after the same exposures; or both stop the
evaluation alike. -/
theorem negatedForms_complement :
    (∀ form ∈ Operator.negatedForms, ∀ (value : Option Attribute) (target : Option Json)
        (idLists : Dict IdList),
      let o := Operator.ofName form.1
      let n := Operator.ofName form.2
      ¬ (o.test value target idLists = true ∧ n.test value target idLists = true) ∧
      (o.applies value target = true →
        n.test value target idLists = !o.test value target idLists) ∧
      (o.applies value target = false →
        o.test value target idLists = false ∧ n.test value target idLists = false) ∧
      (o.testsText = true → target.any Json.isListable = true →
        value.all Attribute.isArray = true → n.test value target idLists = true)) ∧
    ∀ (c : Context) (nested : NestedEvaluation) (snapshot : Snapshot) (condition : Condition),
      c.evaluateCondition nested snapshot { condition with kind := .failGate } =
        (c.evaluateCondition nested snapshot { condition with kind := .passGate }).map
          Finding.negate := by
  refine ⟨fun form hform value target idLists => ?_, evaluateCondition_failGate⟩
  have h : (Operator.ofName form.2).Negates (Operator.ofName form.1) :=
    Operator.negates_iff_mem_negatedForms.2 ⟨form, hform, rfl, rfl⟩
  refine ⟨h.not_both, h.test_of_applies, h.test_of_not_applies, fun htext htarget hvalue => ?_⟩
  exact h.test_of_comparableText?_eq_none htext (Attribute.bind_comparableText?_eq_none hvalue)
    htarget

/-- A missing value passes a rule that leaves two countries out. -/
theorem negatedForms_complement_missing :
    ("any", "none") ∈ Operator.negatedForms ∧
    (Operator.ofName "any").applies none (some (.texts ["NL", "BE"])) = true ∧
    (Operator.ofName "none").test none (some (.texts ["NL", "BE"])) ∅ = true ∧
    (Operator.ofName "any").test none (some (.texts ["NL", "BE"])) ∅ = false := by
  have happlies : (Operator.ofName "any").applies none (some (.texts ["NL", "BE"])) = true := by
    decide
  obtain ⟨-, hopposite, -, hmissing⟩ := negatedForms_complement.1 ("any", "none") (by decide) none
    (some (.texts ["NL", "BE"])) ∅
  have hnone := hmissing (by decide) (by decide) (by decide)
  refine ⟨by decide, happlies, hnone, ?_⟩
  simpa [hnone] using (hopposite happlies).symm

end Context

end Rollout
