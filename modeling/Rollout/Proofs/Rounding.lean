import Mathlib
import Rollout.Binary64

/-!
# Rounding keeps the order

More units are never rounded to fewer (`roundUnits_mono`): within a stretch of equal spacing the
nearest multiples come in order, and stretches meet at powers of two, which are numbers of the
format themselves. So multiplying by a positive number keeps the order of all numbers, the infinite
ones included (`atMost_mul`).

Numbers are compared by their `rank?`. What is not a number has none. The numbers nearest to two
integers compare as the integers do, unless they are the same number (`less_ofInt_iff`).
-/

namespace Rollout.Binary64

/-! ### Units -/

theorem roundDiv_mono {a b den : Nat} (h : a ≤ b) (hden : 0 < den) :
    roundDiv a den ≤ roundDiv b den := by
  have hquotient : a / den ≤ b / den := Nat.div_le_div_right h
  have hmod : b % den < den := Nat.mod_lt b hden
  have ha := Nat.div_add_mod a den
  have hb := Nat.div_add_mod b den
  unfold roundDiv
  dsimp only
  rcases Nat.lt_or_eq_of_le hquotient with hlt | heq
  · split_ifs <;> omega
  · rw [heq] at ha ⊢
    split_ifs <;> omega

theorem roundDiv_mul_left {den : Nat} (hden : 0 < den) (q : Nat) : roundDiv (den * q) den = q := by
  unfold roundDiv
  rw [Nat.mul_mod_right, Nat.mul_div_cancel_left q hden]
  exact if_pos hden

theorem spacing_mono {u v : Nat} (h : u ≤ v) : spacing u ≤ spacing v := by
  refine Nat.sub_le_sub_right ?_ 52
  rcases Nat.eq_zero_or_pos u with rfl | hu
  · exact Nat.zero_le _
  · rw [Nat.le_log2 (by omega)]
    exact (Nat.log2_self_le (by omega)).trans h

/-- A number has at most 53 binary digits above its spacing. -/
theorem lt_pow_spacing (u : Nat) : u < 2 ^ (53 + spacing u) :=
  Nat.lt_log2_self.trans_le (Nat.pow_le_pow_right (by omega) (by unfold spacing; omega))

/-- A number has all 53 binary digits above its spacing, unless it is one of the smallest. -/
theorem pow_spacing_le {u : Nat} (h : 0 < spacing u) : 2 ^ (52 + spacing u) ≤ u := by
  have hu : u ≠ 0 := by
    rintro rfl
    cases h
  refine (Nat.pow_le_pow_right (by omega) ?_).trans (Nat.log2_self_le hu)
  unfold spacing at h ⊢
  omega

theorem roundUnits_le (num : Nat) {den : Nat} (hden : 0 < den) :
    roundUnits num den ≤ 2 ^ (53 + spacing (num / den)) := by
  have hstep : 0 < den * 2 ^ spacing (num / den) := Nat.mul_pos hden (Nat.two_pow_pos _)
  have hnum : num ≤ den * 2 ^ spacing (num / den) * 2 ^ 53 := by
    rw [Nat.mul_assoc, ← Nat.pow_add, Nat.add_comm _ 53, Nat.mul_comm]
    exact ((Nat.div_lt_iff_lt_mul hden).1 (lt_pow_spacing (num / den))).le
  calc roundUnits num den
      ≤ roundDiv (den * 2 ^ spacing (num / den) * 2 ^ 53) (den * 2 ^ spacing (num / den)) *
          2 ^ spacing (num / den) := Nat.mul_le_mul_right _ (roundDiv_mono hnum hstep)
    _ = 2 ^ (53 + spacing (num / den)) := by rw [roundDiv_mul_left hstep, Nat.pow_add]

theorem le_roundUnits {num den : Nat} (hden : 0 < den) (h : 0 < spacing (num / den)) :
    2 ^ (52 + spacing (num / den)) ≤ roundUnits num den := by
  have hstep : 0 < den * 2 ^ spacing (num / den) := Nat.mul_pos hden (Nat.two_pow_pos _)
  have hnum : den * 2 ^ spacing (num / den) * 2 ^ 52 ≤ num := by
    rw [Nat.mul_assoc, ← Nat.pow_add, Nat.add_comm _ 52, Nat.mul_comm]
    exact (Nat.le_div_iff_mul_le hden).1 (pow_spacing_le h)
  calc 2 ^ (52 + spacing (num / den))
      = roundDiv (den * 2 ^ spacing (num / den) * 2 ^ 52) (den * 2 ^ spacing (num / den)) *
          2 ^ spacing (num / den) := by rw [roundDiv_mul_left hstep, Nat.pow_add]
    _ ≤ roundUnits num den := Nat.mul_le_mul_right _ (roundDiv_mono hnum hstep)

/-- More units are not rounded to fewer. -/
theorem roundUnits_mono {a b den : Nat} (h : a ≤ b) (hden : 0 < den) :
    roundUnits a den ≤ roundUnits b den := by
  rcases Nat.lt_or_eq_of_le (spacing_mono (Nat.div_le_div_right (c := den) h)) with hlt | heq
  · -- the spacing grows, so there is a power of two between the two
    calc roundUnits a den
        ≤ 2 ^ (53 + spacing (a / den)) := roundUnits_le a hden
      _ ≤ 2 ^ (52 + spacing (b / den)) := Nat.pow_le_pow_right (by omega) (by omega)
      _ ≤ roundUnits b den := le_roundUnits hden (by omega)
  · unfold roundUnits
    rw [heq]
    exact Nat.mul_le_mul_right _ (roundDiv_mono h (Nat.mul_pos hden (Nat.two_pow_pos _)))

/-! ### The order of numbers -/

/-- The place of a number in the order of all of them, in units. -/
def rank? : Binary64 → Option (WithBot (WithTop Int))
  | .nan => none
  | .infinite negative => some (if negative then ⊥ else ⊤)
  | .finite negative units => some (WithBot.some (WithTop.some (signedUnits negative units)))

theorem less_eq_true_iff {a b : Binary64} :
    a.less b = true ↔ ∃ x y, a.rank? = some x ∧ b.rank? = some y ∧ x < y := by
  unfold less compare?
  rcases a with _ | ⟨_ | _⟩ | ⟨s, u⟩ <;> rcases b with _ | ⟨_ | _⟩ | ⟨t, v⟩ <;>
    simp [rank?, compare_lt_iff_lt, ← WithBot.coe_top]

theorem atMost_eq_true_iff {a b : Binary64} :
    a.atMost b = true ↔ ∃ x y, a.rank? = some x ∧ b.rank? = some y ∧ x ≤ y := by
  unfold atMost less equal compare?
  rcases a with _ | ⟨_ | _⟩ | ⟨s, u⟩ <;> rcases b with _ | ⟨_ | _⟩ | ⟨t, v⟩ <;>
    simp [rank?, compare_lt_iff_lt, le_iff_lt_or_eq, ← WithBot.coe_top]

theorem less_of_less_of_atMost {a b c : Binary64} (hab : a.less b = true)
    (hbc : b.atMost c = true) : a.less c = true := by
  obtain ⟨x, y, hx, hy, hxy⟩ := less_eq_true_iff.1 hab
  obtain ⟨y', z, hy', hz, hyz⟩ := atMost_eq_true_iff.1 hbc
  obtain rfl : y = y' := Option.some.inj (hy.symm.trans hy')
  exact less_eq_true_iff.2 ⟨x, z, hx, hz, hxy.trans_le hyz⟩

theorem less_of_atMost_of_less {a b c : Binary64} (hab : a.atMost b = true)
    (hbc : b.less c = true) : a.less c = true := by
  obtain ⟨x, y, hx, hy, hxy⟩ := atMost_eq_true_iff.1 hab
  obtain ⟨y', z, hy', hz, hyz⟩ := less_eq_true_iff.1 hbc
  obtain rfl : y = y' := Option.some.inj (hy.symm.trans hy')
  exact less_eq_true_iff.2 ⟨x, z, hx, hz, hxy.trans_lt hyz⟩

theorem atMost_trans {a b c : Binary64} (hab : a.atMost b = true) (hbc : b.atMost c = true) :
    a.atMost c = true := by
  obtain ⟨x, y, hx, hy, hxy⟩ := atMost_eq_true_iff.1 hab
  obtain ⟨y', z, hy', hz, hyz⟩ := atMost_eq_true_iff.1 hbc
  obtain rfl : y = y' := Option.some.inj (hy.symm.trans hy')
  exact atMost_eq_true_iff.2 ⟨x, z, hx, hz, hxy.trans hyz⟩

theorem less_eq_false_of_atMost {a b : Binary64} (h : b.atMost a = true) : a.less b = false := by
  obtain ⟨y, x, hy, hx, hyx⟩ := atMost_eq_true_iff.1 h
  rw [Bool.eq_false_iff]
  intro hless
  obtain ⟨x', y', hx', hy', hxy⟩ := less_eq_true_iff.1 hless
  obtain rfl : x = x' := Option.some.inj (hx.symm.trans hx')
  obtain rfl : y = y' := Option.some.inj (hy.symm.trans hy')
  exact absurd hyx hxy.not_ge

/-! ### Products -/

/-- Rounding keeps the order of signed units. -/
theorem signedUnits_roundUnits_mono {s t : Bool} {a b den : Nat} (hden : 0 < den)
    (h : signedUnits s a ≤ signedUnits t b) :
    signedUnits s (roundUnits a den) ≤ signedUnits t (roundUnits b den) := by
  cases s with
  | false =>
    cases t with
    | false =>
      change (a : Int) ≤ b at h
      exact Int.ofNat_le.2 (roundUnits_mono (by omega) hden)
    | true =>
      change (a : Int) ≤ -b at h
      obtain ⟨rfl, rfl⟩ : a = 0 ∧ b = 0 := by omega
      have hzero : roundUnits 0 den = 0 := by simp [roundUnits, roundDiv]
      rw [hzero]
      decide
  | true =>
    cases t with
    | false =>
      show -(roundUnits a den : Int) ≤ roundUnits b den
      omega
    | true =>
      change -(a : Int) ≤ -b at h
      exact Int.neg_le_neg (Int.ofNat_le.2 (roundUnits_mono (by omega) hden))

/-- The place of so many units, at one of the ends past the largest number. -/
def clip (n : Int) : WithBot (WithTop Int) :=
  if (largest : Int) < n then ⊤
  else if n < -largest then ⊥
  else WithBot.some (WithTop.some n)

theorem clip_mono {m n : Int} (h : m ≤ n) : clip m ≤ clip n := by
  unfold clip
  split_ifs <;>
    first
    | exact le_top
    | exact bot_le
    | exact WithBot.coe_le_coe.2 (WithTop.coe_le_coe.2 h)
    | omega

theorem rank?_ofUnits (s : Bool) (num den : Nat) :
    (ofUnits s num den).rank? = some (clip (signedUnits s (roundUnits num den))) := by
  unfold ofUnits
  dsimp only
  by_cases hlarge : largest < roundUnits num den
  · rw [if_pos hlarge]
    cases s with
    | false =>
      show some ⊤ = some (clip (roundUnits num den : Int))
      rw [clip, if_pos (by omega)]
    | true =>
      show some ⊥ = some (clip (-(roundUnits num den : Int)))
      rw [clip, if_neg (by omega), if_pos (by omega)]
  · rw [if_neg hlarge]
    have hrange : ¬ (largest : Int) < signedUnits s (roundUnits num den) ∧
        ¬ signedUnits s (roundUnits num den) < -largest := by
      cases s with
      | false =>
        show ¬ (largest : Int) < roundUnits num den ∧ ¬ (roundUnits num den : Int) < -largest
        omega
      | true =>
        show ¬ (largest : Int) < -(roundUnits num den : Int) ∧
          ¬ -(roundUnits num den : Int) < -largest
        omega
    rw [clip, if_neg hrange.1, if_neg hrange.2]
    rfl

theorem atMost_ofUnits {s t : Bool} {a b den : Nat} (hden : 0 < den)
    (h : signedUnits s a ≤ signedUnits t b) :
    (ofUnits s a den).atMost (ofUnits t b den) = true :=
  atMost_eq_true_iff.2 ⟨_, _, rank?_ofUnits .., rank?_ofUnits ..,
    clip_mono (signedUnits_roundUnits_mono hden h)⟩

theorem one_pos : 0 < one := by decide +kernel

theorem signedUnits_mul (s : Bool) (u n : Nat) :
    signedUnits s (u * n) = signedUnits s u * (n : Int) := by
  cases s with
  | false => exact Int.natCast_mul u n
  | true =>
    show -((u * n : Nat) : Int) = -(u : Int) * n
    rw [Int.natCast_mul, Int.neg_mul]

theorem mul_finite (s t : Bool) (u v : Nat) :
    (finite s u).mul (finite t v) = ofUnits (s != t) (u * v) one := rfl

/-- Multiplying by a positive number keeps the order. -/
theorem atMost_mul {a b : Binary64} {units : Nat} (hunits : 0 < units) (h : a.atMost b = true) :
    (a.mul (.finite false units)).atMost (b.mul (.finite false units)) = true := by
  obtain ⟨x, y, hx, hy, hxy⟩ := atMost_eq_true_iff.1 h
  cases a with
  | nan => cases hx
  | infinite s =>
    cases b with
    | nan => cases hy
    | infinite t => simpa [mul, hunits.ne'] using h
    | finite t v =>
      cases hx
      cases hy
      cases s with
      | true =>
        rw [mul_finite, atMost_eq_true_iff]
        exact ⟨⊥, _, by simp [mul, hunits.ne', rank?], rank?_ofUnits .., bot_le⟩
      | false => simp at hxy
  | finite s u =>
    cases b with
    | nan => cases hy
    | infinite t =>
      cases hx
      cases hy
      cases t with
      | true => simp at hxy
      | false =>
        rw [mul_finite, atMost_eq_true_iff]
        exact ⟨_, ⊤, rank?_ofUnits .., by simp [mul, hunits.ne', rank?], le_top⟩
    | finite t v =>
      cases hx
      cases hy
      have huv : signedUnits s u ≤ signedUnits t v := by simpa using hxy
      rw [mul_finite, mul_finite]
      refine atMost_ofUnits one_pos ?_
      rw [Bool.bne_false, Bool.bne_false, signedUnits_mul, signedUnits_mul]
      exact Int.mul_le_mul_of_nonneg_right huv (Int.natCast_nonneg units)

/-! ### Numbers nearest to integers -/

theorem ofInt_natCast (n : Nat) : ofInt n = ofUnits false (n * one) 1 := by
  unfold ofInt
  rw [Int.natAbs_natCast, decide_eq_false (Int.not_lt.2 (Int.natCast_nonneg n))]

theorem ofInt_negSucc (n : Nat) : ofInt (Int.negSucc n) = ofUnits true ((n + 1) * one) 1 := by
  rw [ofInt, decide_eq_true (Int.negSucc_lt_zero n), Int.natAbs_negSucc]

theorem signedUnits_ofInt (n : Int) : signedUnits (n < 0) (n.natAbs * one) = n * one := by
  rw [signedUnits_mul]
  congr 1
  by_cases h : n < 0
  · rw [decide_eq_true h]
    show -(n.natAbs : Int) = n
    omega
  · rw [decide_eq_false h]
    show (n.natAbs : Int) = n
    omega

/-- Integers keep their order. -/
theorem atMost_ofInt_of_le {a b : Int} (h : a ≤ b) : (ofInt a).atMost (ofInt b) = true := by
  refine atMost_ofUnits Nat.one_pos ?_
  rw [signedUnits_ofInt, signedUnits_ofInt]
  exact Int.mul_le_mul_of_nonneg_right h (Int.natCast_nonneg one)

theorem equal_eq_true_iff {a b : Binary64} :
    a.equal b = true ↔ ∃ x, a.rank? = some x ∧ b.rank? = some x := by
  unfold equal compare?
  rcases a with _ | ⟨_ | _⟩ | ⟨s, u⟩ <;> rcases b with _ | ⟨_ | _⟩ | ⟨t, v⟩ <;>
    simp [rank?, ← WithBot.coe_top]
  exact eq_comm

theorem le_roundUnits_one {n : Nat} (hn : 0 < n) : one ≤ roundUnits (n * one) 1 := by
  have hone : roundUnits one 1 = one := by decide +kernel
  calc one = roundUnits one 1 := hone.symm
    _ ≤ roundUnits (n * one) 1 := roundUnits_mono (Nat.le_mul_of_pos_left one hn) Nat.one_pos

/-- No integer is nearest to the zero with a sign. -/
theorem ofInt_ne_neg_zero (n : Int) : ofInt n ≠ .finite true 0 := by
  intro h
  cases n with
  | ofNat m =>
    rw [Int.ofNat_eq_natCast, ofInt_natCast, ofUnits] at h
    split at h <;> cases h
  | negSucc m =>
    rw [ofInt_negSucc, ofUnits] at h
    split at h
    · cases h
    · have hzero : roundUnits ((m + 1) * one) 1 = 0 := (Binary64.finite.inj h).2
      have hle : one ≤ roundUnits ((m + 1) * one) 1 := le_roundUnits_one m.succ_pos
      have hpos := one_pos
      omega

theorem rank?_ofInt (n : Int) : ∃ x, (ofInt n).rank? = some x := ⟨_, rank?_ofUnits ..⟩

/-- Numbers of one rank are the same, but for the sign of zero. -/
theorem eq_of_rank?_eq {a b : Binary64} {x : WithBot (WithTop Int)} (ha : a.rank? = some x)
    (hb : b.rank? = some x) (hazero : a ≠ .finite true 0) (hbzero : b ≠ .finite true 0) :
    a = b := by
  have hrank := ha.trans hb.symm
  rcases a with _ | ⟨_ | _⟩ | ⟨s, u⟩ <;> rcases b with _ | ⟨_ | _⟩ | ⟨t, v⟩ <;>
    simp [rank?, ← WithBot.coe_top] at hrank ha ⊢
  cases s <;> cases t <;> simp [signedUnits] at hrank hazero hbzero ⊢ <;> omega

theorem equal_ofInt_iff {a b : Int} : (ofInt a).equal (ofInt b) = true ↔ ofInt a = ofInt b := by
  rw [equal_eq_true_iff]
  constructor
  · rintro ⟨x, ha, hb⟩
    exact eq_of_rank?_eq ha hb (ofInt_ne_neg_zero a) (ofInt_ne_neg_zero b)
  · intro h
    obtain ⟨x, hx⟩ := rank?_ofInt a
    exact ⟨x, hx, h ▸ hx⟩

theorem less_eq_not_atMost_ofInt (a b : Int) :
    (ofInt a).less (ofInt b) = !(ofInt b).atMost (ofInt a) := by
  obtain ⟨x, hx⟩ := rank?_ofInt a
  obtain ⟨y, hy⟩ := rank?_ofInt b
  rw [Bool.eq_iff_iff, Bool.not_eq_true', Bool.eq_false_iff, Ne, atMost_eq_true_iff,
    less_eq_true_iff]
  simp [hx, hy]

theorem atMost_ofInt_iff {a b : Int} :
    (ofInt a).atMost (ofInt b) = true ↔ a ≤ b ∨ ofInt a = ofInt b := by
  constructor
  · intro h
    rcases Int.le_total a b with hab | hba
    · exact .inl hab
    · -- the order is kept both ways, so the ranks are the same
      obtain ⟨x, y, hx, hy, hxy⟩ := atMost_eq_true_iff.1 h
      obtain ⟨y', x', hy', hx', hyx⟩ := atMost_eq_true_iff.1 (atMost_ofInt_of_le hba)
      obtain rfl : x = x' := Option.some.inj (hx.symm.trans hx')
      obtain rfl : y = y' := Option.some.inj (hy.symm.trans hy')
      obtain rfl : x = y := le_antisymm hxy hyx
      exact .inr (eq_of_rank?_eq hx hy (ofInt_ne_neg_zero a) (ofInt_ne_neg_zero b))
  · rintro (hab | heq)
    · exact atMost_ofInt_of_le hab
    · rw [heq]
      exact atMost_ofInt_of_le le_rfl

theorem less_ofInt_iff {a b : Int} :
    (ofInt a).less (ofInt b) = true ↔ a < b ∧ ofInt a ≠ ofInt b := by
  rw [less_eq_not_atMost_ofInt, Bool.not_eq_true', Bool.eq_false_iff, Ne, atMost_ofInt_iff,
    not_or, not_le, eq_comm]

/-! ### Integers that are numbers of the format -/

theorem roundUnits_of_dvd {num : Nat} (h : 2 ^ spacing num ∣ num) : roundUnits num 1 = num := by
  have hquotient : roundDiv (2 ^ spacing num * (num / 2 ^ spacing num)) (2 ^ spacing num) =
      num / 2 ^ spacing num := roundDiv_mul_left (Nat.two_pow_pos _) _
  rw [Nat.mul_div_cancel' h] at hquotient
  show roundDiv num (1 * 2 ^ spacing (num / 1)) * 2 ^ spacing (num / 1) = num
  rw [Nat.div_one, Nat.one_mul, hquotient, Nat.div_mul_cancel h]

theorem log2_one : Nat.log2 one = 1074 := by decide +kernel

theorem one_eq_two_pow_log2 : one = 2 ^ Nat.log2 one := by decide +kernel

theorem spacing_mul_one_dvd {n : Nat} (hn : n ≤ 2 ^ 53) : 2 ^ spacing (n * one) ∣ n * one := by
  have he := log2_one
  rw [one_eq_two_pow_log2]
  generalize Nat.log2 one = e at he ⊢
  rcases Nat.lt_or_eq_of_le hn with hlt | rfl
  · have hspacing : spacing (n * 2 ^ e) ≤ e := by
      rcases Nat.eq_zero_or_pos n with rfl | hpos
      · simp [spacing]
      · have hlog : Nat.log2 (n * 2 ^ e) < 53 + e := by
          rw [Nat.log2_lt (Nat.mul_pos hpos (Nat.two_pow_pos e)).ne', Nat.pow_add]
          exact Nat.mul_lt_mul_of_pos_right hlt (Nat.two_pow_pos e)
        unfold spacing
        omega
    exact Dvd.dvd.mul_left (pow_dvd_pow 2 hspacing) n
  · rw [← Nat.pow_add, spacing, Nat.log2_two_pow]
    exact pow_dvd_pow 2 (by omega)

/-- Integers of up to 53 binary digits are numbers of the format. -/
theorem ofInt_of_natAbs_le {n : Int} (hn : n.natAbs ≤ 2 ^ 53) :
    ofInt n = .finite (n < 0) (n.natAbs * one) := by
  have hround : roundUnits (n.natAbs * one) 1 = n.natAbs * one :=
    roundUnits_of_dvd (spacing_mul_one_dvd hn)
  have hlargest : ¬ largest < n.natAbs * one := by
    have hbound : 2 ^ 53 * one ≤ largest := by decide +kernel
    exact Nat.not_lt.2 ((Nat.mul_le_mul_right one hn).trans hbound)
  rw [ofInt, ofUnits, hround, if_neg hlargest]

/-- Such integers are told apart. -/
theorem ofInt_inj_of_natAbs_le {a b : Int} (ha : a.natAbs ≤ 2 ^ 53) (hb : b.natAbs ≤ 2 ^ 53)
    (h : ofInt a = ofInt b) : a = b := by
  rw [ofInt_of_natAbs_le ha, ofInt_of_natAbs_le hb] at h
  obtain ⟨hsign, hunits⟩ := Binary64.finite.inj h
  have hmagnitude : a.natAbs = b.natAbs := Nat.eq_of_mul_eq_mul_right one_pos hunits
  have hnegative : a < 0 ↔ b < 0 := decide_eq_decide.1 hsign
  omega

end Rollout.Binary64
