import Rollout.Binary64.Reading
import Rollout.Proofs.Rounding
import Rollout.Text.Blank
import Rollout.Text.Casing

/-!
# The decimal text of an integer

The text of an integer is a sign, if it is negative, and decimal digits without a leading zero.
Blanks and case are nothing to it (`Text.trim_toString`, `Text.lowercase_toString`), and read as a
binary64 number it is the one nearest to the integer (`Binary64.ofText?_toString`).
-/

namespace Rollout

/-! ### Digits -/

namespace Decimal

/-- The digits of a natural number. -/
abbrev digits (n : Nat) : List Char := Nat.toDigits 10 n

theorem isDigit_iff {c : Char} : c.isDigit = true ↔ 48 ≤ c.toNat ∧ c.toNat ≤ 57 := by
  simp only [Char.isDigit, Bool.and_eq_true, decide_eq_true_eq]
  rfl

theorem isDigit_of_mem_digits {n : Nat} {c : Char} (h : c ∈ digits n) : c.isDigit = true :=
  Nat.isDigit_of_mem_toDigits (by omega) (by omega) h

theorem digits_ne_nil (n : Nat) : digits n ≠ [] := Nat.toDigits_ne_nil

theorem exists_digits_eq_cons (n : Nat) : ∃ c rest, digits n = c :: rest ∧ c.isDigit = true := by
  obtain ⟨c, rest, h⟩ := List.exists_cons_of_ne_nil (digits_ne_nil n)
  exact ⟨c, rest, h, isDigit_of_mem_digits (h ▸ List.mem_cons_self)⟩

theorem digits_ne_cons (n : Nat) {c : Char} (hc : c.isDigit = false) (rest : List Char) :
    digits n ≠ c :: rest := by
  intro h
  have hdigit := isDigit_of_mem_digits (h ▸ List.mem_cons_self : c ∈ digits n)
  rw [hc] at hdigit
  cases hdigit

theorem digits_of_lt {n : Nat} (h : n < 10) : digits n = [n.digitChar] := Nat.toDigits_of_lt_base h

theorem digits_of_le {n : Nat} (h : 10 ≤ n) :
    digits n = digits (n / 10) ++ [(n % 10).digitChar] :=
  Nat.toDigits_of_base_le (by omega) h

/-- Only zero starts with a zero. -/
theorem head_digits_ne_zero {n : Nat} (hn : 0 < n) : (digits n).head? ≠ some '0' := by
  induction n using Nat.strongRecOn with
  | ind n ih =>
    rcases Nat.lt_or_ge n 10 with hlt | hge
    · rw [digits_of_lt hlt]
      simpa using Nat.pos_iff_ne_zero.1 hn
    · have hhead : (digits n).head? = (digits (n / 10)).head? := by
        obtain ⟨c, rest, hdigits, -⟩ := exists_digits_eq_cons (n / 10)
        rw [digits_of_le hge, hdigits]
        rfl
      rw [hhead]
      exact ih _ (Nat.div_lt_self hn (by omega)) (Nat.div_pos hge (by omega))

theorem takeWhile_digits (n : Nat) : (digits n).takeWhile Char.isDigit = digits n :=
  List.takeWhile_eq_self_iff.2 fun _ => isDigit_of_mem_digits

theorem dropWhile_digits (n : Nat) : (digits n).dropWhile Char.isDigit = [] :=
  List.dropWhile_eq_nil_iff.2 fun _ => isDigit_of_mem_digits

theorem digitsValue_digits (n : Nat) : Binary64.digitsValue (digits n) = n :=
  Nat.ofDigitChars_ten_toDigits

theorem digits_inj {m n : Nat} (h : digits m = digits n) : m = n := by
  rw [← digitsValue_digits m, h, digitsValue_digits]

theorem toList_toString_ofNat (n : Nat) : (toString (Int.ofNat n)).toList = digits n :=
  Nat.toList_repr

theorem toList_toString_negSucc (n : Nat) :
    (toString (Int.negSucc n)).toList = '-' :: digits (n + 1) := by
  rw [Int.toString_eq_repr, Int.repr_eq_if, if_neg (by omega), String.toList_append,
    Nat.toList_repr]
  rfl

theorem toString_inj {a b : Int} (h : toString a = toString b) : a = b := by
  have hchars := congrArg String.toList h
  cases a with
  | ofNat m =>
    cases b with
    | ofNat n =>
      rw [toList_toString_ofNat, toList_toString_ofNat] at hchars
      rw [digits_inj hchars]
    | negSucc n =>
      rw [toList_toString_ofNat, toList_toString_negSucc] at hchars
      exact absurd hchars (digits_ne_cons m rfl _)
  | negSucc m =>
    cases b with
    | ofNat n =>
      rw [toList_toString_negSucc, toList_toString_ofNat] at hchars
      exact absurd hchars.symm (digits_ne_cons n rfl _)
    | negSucc n =>
      rw [toList_toString_negSucc, toList_toString_negSucc] at hchars
      have hsucc := digits_inj (List.cons.inj hchars).2
      rw [Nat.succ.inj hsucc]

/-- The characters of the text stand between the hyphen and the digit nine. -/
theorem toNat_of_mem_toString {n : Int} {c : Char} (h : c ∈ (toString n).toList) :
    45 ≤ c.toNat ∧ c.toNat ≤ 57 := by
  have hdigit : ∀ m, c ∈ digits m → 45 ≤ c.toNat ∧ c.toNat ≤ 57 := fun m hm => by
    have := isDigit_iff.1 (isDigit_of_mem_digits hm)
    omega
  cases n with
  | ofNat m => exact hdigit m (toList_toString_ofNat m ▸ h)
  | negSucc m =>
    rw [toList_toString_negSucc] at h
    rcases List.mem_cons.1 h with rfl | hmem
    · decide
    · exact hdigit (m + 1) hmem

end Decimal

/-! ### Blanks and case -/

namespace Text

theorem dropWhile_of_forall {p : Char → Bool} {cs : List Char} (h : ∀ c ∈ cs, p c = false) :
    cs.dropWhile p = cs := by
  cases cs with
  | nil => rfl
  | cons c rest => rw [List.dropWhile_cons, h c List.mem_cons_self, if_neg Bool.false_ne_true]

theorem trimList_of_forall {p : Char → Bool} {cs : List Char} (h : ∀ c ∈ cs, p c = false) :
    trimList p cs = cs := by
  rw [trimList, dropWhile_of_forall h,
    dropWhile_of_forall fun c hc => h c (List.mem_reverse.1 hc), List.reverse_reverse]

theorem trim_toString (n : Int) : trim (toString n) = toString n := by
  have hblank : ∀ c ∈ (toString n).toList, isBlank c = false := fun c hc => by
    have := Decimal.toNat_of_mem_toString hc
    simp [isBlank]
    omega
  rw [trim, trimList_of_forall hblank, String.ofList_toList]

theorem toLower_of_lt {c : Char} (h : c.toNat < 65) : c.toLower = c := by
  refine dif_neg fun hletter => ?_
  have : 65 ≤ c.toNat := hletter.1
  omega

/-- Characters before the letters are not changed. -/
theorem lowercaseFrom_of_forall (before : List Char) {cs : List Char}
    (h : ∀ c ∈ cs, c.toNat < 65) : lowercaseFrom before cs = cs := by
  induction cs generalizing before with
  | nil => rfl
  | cons c rest ih =>
    have hc : c.toNat < 65 := h c List.mem_cons_self
    have hsigma : c ≠ 'Σ' := by
      rintro rfl
      exact absurd hc (by decide)
    have hdotted : c ≠ 'İ' := by
      rintro rfl
      exact absurd hc (by decide)
    have hlower : lowercaseChar c = c := by
      rw [lowercaseChar, if_pos (by omega), toLower_of_lt hc]
    rw [lowercaseFrom, if_neg hsigma, if_neg hdotted, hlower,
      ih _ fun d hd => h d (List.mem_cons_of_mem c hd)]
    rfl

theorem lowercase_toString (n : Int) : lowercase (toString n) = toString n := by
  have hplain : ∀ c ∈ (toString n).toList, c.toNat < 65 := fun c hc => by
    have := Decimal.toNat_of_mem_toString hc
    omega
  rw [lowercase, lowercaseFrom_of_forall [] hplain, String.ofList_toList]

end Text

/-! ### Reading as a binary64 number -/

namespace Binary64

theorem ofDecimal_zero_exponent (negative : Bool) {n : Nat} (hn : 0 < n) :
    ofDecimal negative n 0 = ofUnits negative (n * one) 1 := by
  unfold ofDecimal
  rw [if_neg (by omega), if_neg (by omega), if_neg (by omega), if_pos (by omega)]
  simp

theorem unsigned?_digits (negative : Bool) (n : Nat) :
    unsigned? negative (Decimal.digits n) = some (ofDecimal negative n 0) := by
  simp [unsigned?, Decimal.takeWhile_digits, Decimal.dropWhile_digits, exponent?,
    Decimal.digitsValue_digits]

/-- Digits are none of the words for numbers that are not finite. -/
theorem map_toLower_digits_ne (n : Nat) {c : Char} {rest : List Char} (hc : c.isDigit = false) :
    (Decimal.digits n).map Char.toLower ≠ c :: rest := by
  have hlower : (Decimal.digits n).map Char.toLower = Decimal.digits n := by
    refine (List.map_congr_left fun d hd => ?_).trans (List.map_id _)
    have := Decimal.isDigit_iff.1 (Decimal.isDigit_of_mem_digits hd)
    exact Text.toLower_of_lt (by omega)
  rw [hlower]
  exact Decimal.digits_ne_cons n hc rest

theorem ofText?_of_digits {s : String} {n : Nat} (h : s.toList = Decimal.digits n) :
    ofText? s = some (ofDecimal false n 0) := by
  have hminus : ∀ cs, Decimal.digits n ≠ '-' :: cs := Decimal.digits_ne_cons n rfl
  have hplus : ∀ cs, Decimal.digits n ≠ '+' :: cs := Decimal.digits_ne_cons n rfl
  have hinf : (Decimal.digits n).map Char.toLower ≠ "inf".toList := map_toLower_digits_ne n rfl
  have hinfinity : (Decimal.digits n).map Char.toLower ≠ "infinity".toList :=
    map_toLower_digits_ne n rfl
  have hnan : (Decimal.digits n).map Char.toLower ≠ "nan".toList := map_toLower_digits_ne n rfl
  simp only [ofText?, h]
  rw [if_neg (not_or.2 ⟨hinf, hinfinity⟩), if_neg hnan, unsigned?_digits]

theorem ofText?_of_minus {s : String} {n : Nat} (h : s.toList = '-' :: Decimal.digits n) :
    ofText? s = some (ofDecimal true n 0) := by
  have hinf : (Decimal.digits n).map Char.toLower ≠ "inf".toList := map_toLower_digits_ne n rfl
  have hinfinity : (Decimal.digits n).map Char.toLower ≠ "infinity".toList :=
    map_toLower_digits_ne n rfl
  have hnan : (Decimal.digits n).map Char.toLower ≠ "nan".toList := map_toLower_digits_ne n rfl
  simp only [ofText?, h]
  rw [if_neg (not_or.2 ⟨hinf, hinfinity⟩), if_neg hnan, unsigned?_digits]

/-- The text of an integer is read as the number nearest to it. -/
theorem ofText?_toString (n : Int) : ofText? (toString n) = some (ofInt n) := by
  cases n with
  | ofNat m =>
    rw [ofText?_of_digits (Decimal.toList_toString_ofNat m)]
    cases m with
    | zero => decide +kernel
    | succ k =>
      rw [ofDecimal_zero_exponent false k.succ_pos]
      exact congrArg some (ofInt_natCast (k + 1)).symm
  | negSucc m =>
    rw [ofText?_of_minus (Decimal.toList_toString_negSucc m),
      ofDecimal_zero_exponent true m.succ_pos, ofInt_negSucc]

end Binary64

end Rollout
