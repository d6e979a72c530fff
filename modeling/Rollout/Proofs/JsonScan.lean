import Rollout.Json.Document
import Rollout.Proofs.Decimals

/-!
# The tokens of rendered JSON

Rendered text is cut into the tokens of its value (`Token.scan_render`), provided that its numbers
are written in a way that reads back (`Number.ReadsBack`). Integers of 64 bits are
(`Number.readsBack_int`). What follows a value in a text ends a number (`Token.Closes`), so a number
is cut off there as it would be at the end of the text (`Token.scanNumber_append`).
-/

namespace Rollout

open Json

/-! ### Numbers -/

namespace Number

/-- The text of the number is read as one number, which is the same. -/
def ReadsBack (n : Number) : Prop :=
  Token.scanOne n.toText.toList = some (.number (some n), [])

instance (n : Number) : Decidable n.ReadsBack :=
  inferInstanceAs (Decidable (Token.scanOne n.toText.toList = some (.number (some n), [])))

end Number

namespace Json.Token

/-- The text is at its end, or goes on as it can after a value in a container. -/
def Closes (rest : List Char) : Prop := ∀ c ∈ rest.head?, c = ',' ∨ c = ']' ∨ c = '\x7d'

section Numbers

variable {rest : List Char}

theorem Closes.isDigit_eq_false {c : Char} {cs : List Char} (h : Closes (c :: cs)) :
    c.isDigit = false := by
  obtain rfl | rfl | rfl := h c rfl <;> rfl

theorem Closes.takeWhile_isDigit (h : Closes rest) : rest.takeWhile Char.isDigit = [] := by
  cases rest with
  | nil => rfl
  | cons c cs => rw [List.takeWhile_cons, h.isDigit_eq_false, if_neg Bool.false_ne_true]

theorem Closes.dropWhile_isDigit (h : Closes rest) : rest.dropWhile Char.isDigit = rest := by
  cases rest with
  | nil => rfl
  | cons c cs => rw [List.dropWhile_cons, h.isDigit_eq_false, if_neg Bool.false_ne_true]

theorem takeWhile_append_of_closes (cs : List Char) (h : Closes rest) :
    (cs ++ rest).takeWhile Char.isDigit = cs.takeWhile Char.isDigit := by
  induction cs with
  | nil => exact h.takeWhile_isDigit
  | cons c cs ih =>
    rw [List.cons_append, List.takeWhile_cons, List.takeWhile_cons, ih]

theorem dropWhile_append_of_closes (cs : List Char) (h : Closes rest) :
    (cs ++ rest).dropWhile Char.isDigit = cs.dropWhile Char.isDigit ++ rest := by
  induction cs with
  | nil => exact h.dropWhile_isDigit
  | cons c cs ih =>
    rw [List.cons_append, List.dropWhile_cons, List.dropWhile_cons, ih]
    split <;> rfl

/-- The digits of an exponent after its sign. -/
def exponentDigits (downward : Bool) (cs : List Char) :
    Option (Option (Bool × List Char) × List Char) :=
  if (cs.takeWhile Char.isDigit).isEmpty then none
  else some (some (downward, cs.takeWhile Char.isDigit), cs.dropWhile Char.isDigit)

theorem exponentDigits_append {downward : Bool} {cs tail : List Char}
    {e : Option (Bool × List Char)} (h : exponentDigits downward cs = some (e, tail))
    (hrest : Closes rest) : exponentDigits downward (cs ++ rest) = some (e, tail ++ rest) := by
  unfold exponentDigits at h ⊢
  rw [takeWhile_append_of_closes cs hrest, dropWhile_append_of_closes cs hrest]
  split at h
  · cases h
  · next hdigits =>
    rw [if_neg hdigits]
    obtain ⟨rfl, rfl⟩ := Prod.mk.inj (Option.some.inj h)
    rfl

variable {c : Char} (hc : c = 'e' ∨ c = 'E')
include hc

theorem scanExponent_minus (r : List Char) :
    scanExponent (c :: '-' :: r) = exponentDigits true r := by
  rw [scanExponent, if_pos hc]
  rfl

theorem scanExponent_plus (r : List Char) :
    scanExponent (c :: '+' :: r) = exponentDigits false r := by
  rw [scanExponent, if_pos hc]
  rfl

theorem scanExponent_unsigned {d : Char} (hminus : d ≠ '-') (hplus : d ≠ '+') (r : List Char) :
    scanExponent (c :: d :: r) = exponentDigits false (d :: r) := by
  rw [scanExponent, if_pos hc]
  · rfl
  · exact fun _ heq => hminus (List.cons.inj heq).1
  · exact fun _ heq => hplus (List.cons.inj heq).1

omit hc

theorem scanExponent_of_ne (hc : ¬ (c = 'e' ∨ c = 'E')) (r : List Char) :
    scanExponent (c :: r) = some (none, c :: r) := if_neg hc

theorem Closes.scanExponent (h : Closes rest) : scanExponent rest = some (none, rest) := by
  cases rest with
  | nil => rfl
  | cons c cs =>
    refine scanExponent_of_ne ?_ cs
    obtain rfl | rfl | rfl := h c rfl <;> decide

theorem scanExponent_append {cs tail : List Char} {e : Option (Bool × List Char)}
    (h : scanExponent cs = some (e, tail)) (hrest : Closes rest) :
    scanExponent (cs ++ rest) = some (e, tail ++ rest) := by
  match cs with
  | [] =>
    obtain ⟨rfl, rfl⟩ := Prod.mk.inj (Option.some.inj h)
    exact hrest.scanExponent
  | c :: cs =>
    by_cases hc : c = 'e' ∨ c = 'E'
    · match cs with
      | [] =>
        rw [show scanExponent [c] = none from if_pos hc] at h
        cases h
      | d :: r =>
        by_cases hminus : d = '-'
        · subst hminus
          rw [scanExponent_minus hc] at h
          exact (scanExponent_minus hc _).trans (exponentDigits_append h hrest)
        by_cases hplus : d = '+'
        · subst hplus
          rw [scanExponent_plus hc] at h
          exact (scanExponent_plus hc _).trans (exponentDigits_append h hrest)
        rw [scanExponent_unsigned hc hminus hplus] at h
        exact (scanExponent_unsigned hc hminus hplus _).trans (exponentDigits_append h hrest)
    · rw [scanExponent_of_ne hc] at h
      obtain ⟨rfl, rfl⟩ := Prod.mk.inj (Option.some.inj h)
      exact scanExponent_of_ne hc _

/-- What follows the digits before the point. -/
def afterWhole (negative : Bool) (whole : List Char) :
    List Char → Option (Option Number × List Char)
  | '.' :: r =>
    if (r.takeWhile Char.isDigit).isEmpty then none
    else (scanExponent (r.dropWhile Char.isDigit)).map fun (e, tail) =>
      (Number.ofDigits? negative whole (some (r.takeWhile Char.isDigit)) e, tail)
  | r => (scanExponent r).map fun (e, tail) => (Number.ofDigits? negative whole none e, tail)

theorem afterWhole_point (negative : Bool) (whole r : List Char) :
    afterWhole negative whole ('.' :: r) =
      if (r.takeWhile Char.isDigit).isEmpty then none
      else (scanExponent (r.dropWhile Char.isDigit)).map fun (e, tail) =>
        (Number.ofDigits? negative whole (some (r.takeWhile Char.isDigit)) e, tail) := rfl

theorem afterWhole_of_ne {negative : Bool} {whole r : List Char} (h : r.head? ≠ some '.') :
    afterWhole negative whole r =
      (scanExponent r).map fun (e, tail) => (Number.ofDigits? negative whole none e, tail) := by
  unfold afterWhole
  split
  · exact absurd rfl h
  · rfl

theorem map_scanExponent_append {α : Type} {cs tail : List Char} {n : α}
    (f : Option (Bool × List Char) → α)
    (h : ((scanExponent cs).map fun (e, t) => (f e, t)) = some (n, tail)) (hrest : Closes rest) :
    ((scanExponent (cs ++ rest)).map fun (e, t) => (f e, t)) = some (n, tail ++ rest) := by
  obtain ⟨⟨e, t⟩, hscan, heq⟩ := Option.map_eq_some_iff.1 h
  obtain ⟨rfl, rfl⟩ := Prod.mk.inj heq
  rw [scanExponent_append hscan hrest]
  rfl

theorem Closes.head?_ne_point (h : Closes rest) : rest.head? ≠ some '.' := by
  intro hpoint
  obtain h | h | h := h '.' hpoint <;> exact absurd h (by decide)

theorem afterWhole_append {negative : Bool} {whole cs tail : List Char} {n : Option Number}
    (h : afterWhole negative whole cs = some (n, tail)) (hrest : Closes rest) :
    afterWhole negative whole (cs ++ rest) = some (n, tail ++ rest) := by
  by_cases hpoint : cs.head? = some '.'
  · obtain ⟨r, rfl⟩ := List.head?_eq_some_iff.1 hpoint
    rw [afterWhole_point] at h
    rw [List.cons_append, afterWhole_point, takeWhile_append_of_closes r hrest,
      dropWhile_append_of_closes r hrest]
    split at h
    · cases h
    · next hdigits =>
      rw [if_neg hdigits]
      exact map_scanExponent_append _ h hrest
  · have hpoint' : (cs ++ rest).head? ≠ some '.' := by
      cases cs with
      | nil => exact hrest.head?_ne_point
      | cons c cs => exact hpoint
    rw [afterWhole_of_ne hpoint] at h
    rw [afterWhole_of_ne hpoint']
    exact map_scanExponent_append _ h hrest

theorem drop_length_takeWhile (p : Char → Bool) (cs : List Char) :
    cs.drop (cs.takeWhile p).length = cs.dropWhile p := by
  induction cs with
  | nil => rfl
  | cons c cs ih =>
    rw [List.takeWhile_cons, List.dropWhile_cons]
    split
    · exact ih
    · rfl

theorem scanNumber_zero (negative : Bool) (r : List Char) :
    scanNumber negative ('0' :: r) = afterWhole negative ['0'] r := rfl

theorem scanNumber_of_ne {negative : Bool} {cs : List Char} (h : cs.head? ≠ some '0') :
    scanNumber negative cs =
      if (cs.takeWhile Char.isDigit).isEmpty then none
      else afterWhole negative (cs.takeWhile Char.isDigit) (cs.dropWhile Char.isDigit) := by
  unfold scanNumber
  split
  · exact absurd rfl h
  · show (if (cs.takeWhile Char.isDigit).isEmpty then none
      else afterWhole negative (cs.takeWhile Char.isDigit)
        (cs.drop (cs.takeWhile Char.isDigit).length)) = _
    rw [drop_length_takeWhile]

theorem scanNumber_append {negative : Bool} {cs tail : List Char} {n : Option Number}
    (h : scanNumber negative cs = some (n, tail)) (hrest : Closes rest) :
    scanNumber negative (cs ++ rest) = some (n, tail ++ rest) := by
  by_cases hzero : cs.head? = some '0'
  · obtain ⟨r, rfl⟩ := List.head?_eq_some_iff.1 hzero
    rw [scanNumber_zero] at h
    exact (scanNumber_zero negative _).trans (afterWhole_append h hrest)
  · rw [scanNumber_of_ne hzero] at h
    split at h
    · cases h
    · next hdigits =>
      have hzero' : (cs ++ rest).head? ≠ some '0' := by
        cases cs with
        | nil => exact absurd rfl hdigits
        | cons c cs => exact hzero
      rw [scanNumber_of_ne hzero', takeWhile_append_of_closes cs hrest,
        dropWhile_append_of_closes cs hrest, if_neg hdigits]
      exact afterWhole_append h hrest

theorem exists_isDigit_of_scanNumber {negative : Bool} {cs tail : List Char} {n : Option Number}
    (h : scanNumber negative cs = some (n, tail)) : ∃ c r, cs = c :: r ∧ c.isDigit = true := by
  cases cs with
  | nil => cases h
  | cons c r =>
    refine ⟨c, r, rfl, ?_⟩
    by_contra hc
    have hzero : (c :: r).head? ≠ some '0' := by
      rintro ⟨⟩
      exact hc rfl
    rw [scanNumber_of_ne hzero, List.takeWhile_cons, if_neg hc] at h
    cases h

/-- A number starts with a sign or a digit. -/
theorem scanOne_eq_number {cs tail : List Char} {n : Option Number}
    (h : scanOne cs = some (.number n, tail)) :
    (∃ r, cs = '-' :: r ∧ scanNumber true r = some (n, tail)) ∨
      ∃ c r, cs = c :: r ∧ c.isDigit = true ∧ scanNumber false cs = some (n, tail) := by
  unfold scanOne at h
  split at h
  all_goals try cases h
  · obtain ⟨⟨ps, r⟩, -, heq⟩ := Option.map_eq_some_iff.1 h
    cases heq
  · obtain ⟨⟨m, r⟩, hscan, heq⟩ := Option.map_eq_some_iff.1 h
    cases heq
    exact .inl ⟨_, rfl, hscan⟩
  · obtain ⟨⟨m, r⟩, hscan, heq⟩ := Option.map_eq_some_iff.1 h
    cases heq
    obtain ⟨c, r, rfl, hc⟩ := exists_isDigit_of_scanNumber hscan
    exact .inr ⟨c, r, rfl, hc, hscan⟩

theorem scanOne_of_isDigit {c : Char} (hc : c.isDigit = true) (r : List Char) :
    scanOne (c :: r) = (scanNumber false (c :: r)).map fun (n, r) => (.number n, r) := by
  unfold scanOne
  -- no digit is one of the characters that other tokens start with
  split
  all_goals
    first
    | rfl
    | next heq =>
      rw [(List.cons.inj heq).1] at hc
      cases hc

theorem scanOne_minus (r : List Char) :
    scanOne ('-' :: r) = (scanNumber true r).map fun (n, r) => (.number n, r) := rfl

end Numbers

end Json.Token

namespace Number

open Json.Token

/-- A number that is read back is read back in front of what follows a value. -/
theorem ReadsBack.scanOne_append {n : Number} (h : n.ReadsBack) {rest : List Char}
    (hrest : Closes rest) :
    scanOne (n.toText.toList ++ rest) = some (.number (some n), rest) := by
  rcases scanOne_eq_number h with ⟨r, hr, hscan⟩ | ⟨c, r, hr, hc, hscan⟩
  · rw [hr, List.cons_append, scanOne_minus, scanNumber_append hscan hrest]
    rfl
  · rw [hr] at hscan ⊢
    rw [List.cons_append, scanOne_of_isDigit hc, ← List.cons_append,
      scanNumber_append hscan hrest]
    rfl

theorem ReadsBack.exists_cons {n : Number} (h : n.ReadsBack) :
    ∃ c cs, n.toText.toList = c :: cs ∧ Token.isSpace c = false := by
  rcases scanOne_eq_number h with ⟨r, hr, -⟩ | ⟨c, r, hr, hc, -⟩
  · exact ⟨_, r, hr, rfl⟩
  · refine ⟨c, r, hr, ?_⟩
    rw [Bool.eq_false_iff]
    intro hspace
    have hblank : ((c = ' ' ∨ c = '\n') ∨ c = '\r') ∨ c = '\t' := by
      simpa [Token.isSpace] using hspace
    obtain ((rfl | rfl) | rfl) | rfl := hblank <;> cases hc

/-! ### Integers -/

theorem le_digitsOnto (significand : Nat) (cs : List Char) :
    significand ≤ Nat.ofDigitChars 10 cs significand := by
  induction cs generalizing significand with
  | nil => exact Nat.le_refl _
  | cons c cs ih =>
    rw [Nat.ofDigitChars_cons]
    exact (by omega : significand ≤ 10 * significand + _).trans (ih _)

theorem accumulate_of_lt {significand : Nat} {cs : List Char}
    (h : Nat.ofDigitChars 10 cs significand < Nat.pow 2 64) :
    accumulate significand cs = (Nat.ofDigitChars 10 cs significand, []) := by
  induction cs generalizing significand with
  | nil => rfl
  | cons c cs ih =>
    rw [Nat.ofDigitChars_cons] at h ⊢
    have hnext : 10 * significand + (c.toNat - '0'.toNat) < Nat.pow 2 64 :=
      (le_digitsOnto _ cs).trans_lt h
    rw [accumulate, if_pos hnext, ih h]

theorem accumulate_digits {n : Nat} (h : n < Nat.pow 2 64) :
    accumulate 0 (Decimal.digits n) = (n, []) := by
  have hvalue : Nat.ofDigitChars 10 (Decimal.digits n) 0 = n := Nat.ofDigitChars_ten_toDigits
  rw [accumulate_of_lt (by rwa [hvalue]), hvalue]

theorem scanNumber_digits (negative : Bool) (n : Nat) :
    scanNumber negative (Decimal.digits n) =
      some (ofDigits? negative (Decimal.digits n) none none, []) := by
  rcases Nat.eq_zero_or_pos n with rfl | hn
  · rfl
  · have hempty : ¬ (Decimal.digits n).isEmpty = true := by simp
    rw [scanNumber_of_ne (Decimal.head_digits_ne_zero hn), Decimal.takeWhile_digits,
      Decimal.dropWhile_digits, if_neg hempty]
    rfl

theorem ofDigits?_digits {n : Nat} (h : n < Nat.pow 2 64) :
    ofDigits? false (Decimal.digits n) none none = some (.int n) := by
  simp [ofDigits?, accumulate_digits h]

theorem ofDigits?_minus_digits {n : Nat} (hpos : 0 < n) (h : n ≤ Nat.pow 2 63) :
    ofDigits? true (Decimal.digits n) none none = some (.int (-n)) := by
  have hlt : n < Nat.pow 2 64 := h.trans_lt (by decide)
  have hrange : ¬ (n = 0 ∨ Nat.pow 2 63 < n) := by omega
  simp only [ofDigits?, accumulate_digits hlt, List.isEmpty_nil, Bool.not_true, if_neg hrange]
  rfl

/-- Integers of 64 bits, with a sign or without one, are read back. -/
theorem readsBack_int {n : Int} (hlo : -2 ^ 63 ≤ n) (hhi : n < 2 ^ 64) : (int n).ReadsBack := by
  unfold ReadsBack
  cases n with
  | ofNat m =>
    obtain ⟨c, r, hdigits, hc⟩ := Decimal.exists_digits_eq_cons m
    have hlt : m < Nat.pow 2 64 := by
      have : (m : Int) < 2 ^ 64 := hhi
      show m < 2 ^ 64
      omega
    show scanOne (toString (Int.ofNat m)).toList = _
    rw [Decimal.toList_toString_ofNat, hdigits, scanOne_of_isDigit hc, ← hdigits,
      scanNumber_digits, ofDigits?_digits hlt]
    rfl
  | negSucc m =>
    have hle : m + 1 ≤ Nat.pow 2 63 := by
      have : -2 ^ 63 ≤ Int.negSucc m := hlo
      show m + 1 ≤ 2 ^ 63
      omega
    show scanOne (toString (Int.negSucc m)).toList = _
    rw [Decimal.toList_toString_negSucc, scanOne_minus, scanNumber_digits,
      ofDigits?_minus_digits m.succ_pos hle]
    rfl

end Number

namespace Json.Token

/-! ### Texts -/

theorem joinPieces_char (c : Char) (ps : List Piece) :
    joinPieces (.char c :: ps) = (joinPieces ps).map (c :: ·) := by
  cases ps <;> rfl

/-- A unit below the surrogates stands for a character of its own. -/
theorem joinPieces_unit {n : Nat} (h : n < 0xD800) (ps : List Piece) :
    joinPieces (.unit n :: ps) = (joinPieces ps).map (Char.ofNat n :: ·) := by
  have hhigh : ¬ (0xD800 ≤ n ∧ n < 0xDC00) := by omega
  have hlow : ¬ (0xDC00 ≤ n ∧ n < 0xE000) := by omega
  match ps with
  | .unit lo :: rest => rw [joinPieces, if_neg hhigh, if_neg hlow]
  | [] | .char c :: rest =>
    have hnone : ¬ (0xD800 ≤ n ∧ n < 0xE000) := by omega
    simp only [joinPieces, if_neg hnone]

theorem hexValue?_hexDigit : ∀ n < 16, hexValue? (hexDigit n) = some n := by decide

theorem scanText_plain {c : Char} (hquote : c ≠ '"') (hback : c ≠ '\\') (hcontrol : ¬ c.toNat < 32)
    (rest : List Char) :
    scanText (c :: rest) = (scanText rest).map fun (ps, r) => (.char c :: ps, r) := by
  rw [scanText, if_neg hcontrol]
  · exact fun h => hquote h
  · exact fun _ _ _ _ _ h _ => hback h
  · exact fun _ _ h _ => hback h

theorem scanText_unit {n : Nat} (h : n < 256) (rest : List Char) :
    scanText ('\\' :: 'u' :: '0' :: '0' :: hexDigit (n / 16) :: hexDigit (n % 16) :: rest) =
      (scanText rest).map fun (ps, r) => (.unit n :: ps, r) := by
  have hzero : hexValue? '0' = some 0 := rfl
  simp only [scanText, hzero, hexValue?_hexDigit (n / 16) (by omega),
    hexValue?_hexDigit (n % 16) (by omega)]
  have hn : 4096 * 0 + 256 * 0 + 16 * (n / 16) + n % 16 = n := by omega
  rw [hn]

/-- A quoted character is scanned as one piece, which stands for it. -/
theorem exists_piece (c : Char) : ∃ p : Piece,
    (∀ rest, scanText (quoteChar c ++ rest) =
      (scanText rest).map fun (ps, r) => (p :: ps, r)) ∧
    ∀ ps, joinPieces (p :: ps) = (joinPieces ps).map (c :: ·) := by
  unfold quoteChar
  by_cases hquote : c = '"'
  · subst hquote
    exact ⟨.char '"', fun _ => rfl, joinPieces_char _⟩
  by_cases hback : c = '\\'
  · subst hback
    exact ⟨.char '\\', fun _ => rfl, joinPieces_char _⟩
  by_cases hline : c = '\n'
  · subst hline
    exact ⟨.char '\n', fun _ => rfl, joinPieces_char _⟩
  by_cases hreturn : c = '\r'
  · subst hreturn
    exact ⟨.char '\r', fun _ => rfl, joinPieces_char _⟩
  by_cases htab : c = '\t'
  · subst htab
    exact ⟨.char '\t', fun _ => rfl, joinPieces_char _⟩
  by_cases hbackspace : c = '\x08'
  · subst hbackspace
    exact ⟨.char '\x08', fun _ => rfl, joinPieces_char _⟩
  by_cases hfeed : c = '\x0c'
  · subst hfeed
    exact ⟨.char '\x0c', fun _ => rfl, joinPieces_char _⟩
  rw [if_neg hquote, if_neg hback, if_neg hline, if_neg hreturn, if_neg htab, if_neg hbackspace,
    if_neg hfeed]
  by_cases hcontrol : c.toNat < 32
  · rw [if_pos hcontrol]
    refine ⟨.unit c.toNat, fun rest => scanText_unit (by omega) rest, fun ps => ?_⟩
    rw [joinPieces_unit (by omega), Char.ofNat_toNat]
  · rw [if_neg hcontrol]
    exact ⟨.char c, scanText_plain hquote hback hcontrol, joinPieces_char c⟩

theorem exists_pieces (cs rest : List Char) : ∃ ps : List Piece,
    scanText (cs.flatMap quoteChar ++ '"' :: rest) = some (ps, rest) ∧
      joinPieces ps = some cs := by
  induction cs with
  | nil => exact ⟨[], rfl, rfl⟩
  | cons c cs ih =>
    obtain ⟨ps, hscan, hjoin⟩ := ih
    obtain ⟨p, hp, hjoinp⟩ := exists_piece c
    refine ⟨p :: ps, ?_, ?_⟩
    · rw [List.flatMap_cons, List.append_assoc, hp, hscan]
      rfl
    · rw [hjoinp, hjoin]
      rfl

theorem scanOne_quote (s : String) (rest : List Char) :
    scanOne (quote s ++ rest) = some (.text (some s), rest) := by
  obtain ⟨ps, hscan, hjoin⟩ := exists_pieces s.toList rest
  have hquote : quote s ++ rest = '"' :: (s.toList.flatMap quoteChar ++ '"' :: rest) := by
    simp [quote]
  rw [hquote]
  show ((scanText (s.toList.flatMap quoteChar ++ '"' :: rest)).map fun (ps, r) =>
    (Token.text ((joinPieces ps).map String.ofList), r)) = _
  simp only [hscan, Option.map_some, hjoin, String.ofList_toList]

/-! ### Values -/

/-- The text starts with these tokens, and goes on with `rest`. -/
structure Cuts (cs : List Char) (ts : List Token) (rest : List Char) : Prop where
  length_le : ts.length + rest.length ≤ cs.length
  scanAll_eq (fuel : Nat) :
    scanAll (ts.length + fuel) cs = (scanAll fuel rest).map (ts ++ ·)

theorem closes_nil : Closes [] := fun _ h => by cases h

theorem closes_cons {c : Char} (h : c = ',' ∨ c = ']' ∨ c = '\x7d') (cs : List Char) :
    Closes (c :: cs) := fun _ hd => Option.some.inj hd ▸ h

namespace Cuts

variable {cs mid rest : List Char} {ts us : List Token}

theorem nil (rest : List Char) : Cuts rest [] rest where
  length_le := by simp
  scanAll_eq fuel := by simp

theorem append (h : Cuts cs ts mid) (h' : Cuts mid us rest) : Cuts cs (ts ++ us) rest where
  length_le := by
    have := h.length_le
    have := h'.length_le
    rw [List.length_append]
    omega
  scanAll_eq fuel := by
    rw [List.length_append, Nat.add_assoc, h.scanAll_eq, h'.scanAll_eq, Option.map_map]
    simp [Function.comp_def]

theorem one {c : Char} {t : Token} (hspace : isSpace c = false)
    (h : scanOne (c :: cs) = some (t, rest)) (hlength : rest.length ≤ cs.length) :
    Cuts (c :: cs) [t] rest where
  length_le := by
    simp only [List.length_cons, List.length_nil]
    omega
  scanAll_eq fuel := by
    have hdrop : (c :: cs).dropWhile isSpace = c :: cs := by
      rw [List.dropWhile_cons, hspace, if_neg Bool.false_ne_true]
    rw [List.length_singleton, Nat.add_comm, scanAll, hdrop]
    simp only [h, Option.bind_some]
    rfl

theorem cons {c : Char} {t : Token} (hspace : isSpace c = false)
    (h : scanOne (c :: cs) = some (t, mid)) (hlength : mid.length ≤ cs.length)
    (h' : Cuts mid ts rest) : Cuts (c :: cs) (t :: ts) rest :=
  (one hspace h hlength).append h'

/-- A text of a single piece: all of its tokens are found. -/
theorem scan {s : String} (h : Cuts s.toList ts []) : Token.scan s = some ts := by
  have hlength : ts.length ≤ s.toList.length := by simpa using h.length_le
  obtain ⟨fuel, hfuel⟩ := Nat.exists_eq_add_of_le hlength
  rw [Token.scan, ← String.length_toList, hfuel, h.scanAll_eq]
  cases fuel <;> simp [scanAll]

theorem quote (s : String) (rest : List Char) :
    Cuts (quote s ++ rest) [.text (some s)] rest := by
  have hquote : Json.quote s ++ rest = '"' :: (s.toList.flatMap quoteChar ++ '"' :: rest) := by
    simp [Json.quote]
  have hscan := scanOne_quote s rest
  rw [hquote] at hscan ⊢
  exact one rfl hscan (by simp; omega)

theorem number {n : Number} (h : n.ReadsBack) (hrest : Closes rest) :
    Cuts (n.toText.toList ++ rest) [.number (some n)] rest := by
  obtain ⟨c, cs, hcs, hspace⟩ := h.exists_cons
  have hscan := h.scanOne_append hrest
  rw [hcs, List.cons_append] at hscan ⊢
  exact one hspace hscan (by simp)

end Cuts

end Token

mutual

/-- The tokens of the text of a value. -/
def tokens : Json → List Token
  | .null => [.null]
  | .bool b => [.bool b]
  | .number n => [.number (some n)]
  | .text s => [.text (some s)]
  | .array items => .beginArray :: (itemsTokens items ++ [.endArray])
  | .object members => .beginObject :: (membersTokens members ++ [.endObject])

def itemsTokens : List Json → List Token
  | [] => []
  | [x] => tokens x
  | x :: y :: rest => tokens x ++ .comma :: itemsTokens (y :: rest)

def membersTokens : List (String × Json) → List Token
  | [] => []
  | [(k, x)] => .text (some k) :: .colon :: tokens x
  | (k, x) :: m :: rest =>
    .text (some k) :: .colon :: (tokens x ++ .comma :: membersTokens (m :: rest))

end

mutual

/-- The numbers in a value. -/
def numbers : Json → List Number
  | .number n => [n]
  | .array items => itemsNumbers items
  | .object members => membersNumbers members
  | .null | .bool _ | .text _ => []

def itemsNumbers : List Json → List Number
  | [] => []
  | x :: rest => numbers x ++ itemsNumbers rest

def membersNumbers : List (String × Json) → List Number
  | [] => []
  | (_, x) :: rest => numbers x ++ membersNumbers rest

end

theorem mem_membersNumbers_iff {members : List (String × Json)} {n : Number} :
    n ∈ membersNumbers members ↔ ∃ e ∈ members, n ∈ e.2.numbers := by
  induction members with
  | nil => simp [membersNumbers]
  | cons e rest ih => simp [membersNumbers, ih]

namespace Token

mutual

/-- The text of a value starts with its tokens, if its numbers are read back. -/
theorem cuts_chars : ∀ (j : Json) {rest : List Char}, (∀ n ∈ j.numbers, n.ReadsBack) → Closes rest →
    Cuts (j.chars ++ rest) j.tokens rest
  | .null, _, _, _ => .one rfl rfl (by simp; omega)
  | .bool true, _, _, _ => .one rfl rfl (by simp; omega)
  | .bool false, _, _, _ => .one rfl rfl (by simp; omega)
  | .number n, _, h, hrest => .number (h n (by simp [numbers])) hrest
  | .text s, rest, _, _ => .quote s rest
  | .array items, rest, h, _ => by
    have hitems := cuts_itemsChars items rest h
    have hend : Cuts (']' :: rest) [.endArray] rest := .one rfl rfl (Nat.le_refl _)
    have hchars : (Json.array items).chars ++ rest = '[' :: (itemsChars items ++ ']' :: rest) := by
      simp [chars]
    rw [hchars]
    exact .cons rfl rfl (Nat.le_refl _) (hitems.append hend)
  | .object members, rest, h, _ => by
    have hmembers := cuts_membersChars members rest h
    have hend : Cuts ('\x7d' :: rest) [.endObject] rest := .one rfl rfl (Nat.le_refl _)
    have hchars : (Json.object members).chars ++ rest =
        '\x7b' :: (membersChars members ++ '\x7d' :: rest) := by
      simp [chars]
    rw [hchars]
    exact .cons rfl rfl (Nat.le_refl _) (hmembers.append hend)

theorem cuts_itemsChars : ∀ (items : List Json) (rest : List Char),
    (∀ n ∈ itemsNumbers items, n.ReadsBack) →
    Cuts (itemsChars items ++ ']' :: rest) (itemsTokens items) (']' :: rest)
  | [], _, _ => .nil _
  | [x], rest, h =>
    cuts_chars x (fun n hn => h n (by simpa [itemsNumbers] using hn)) (closes_cons (by simp) rest)
  | x :: y :: items, rest, h => by
    have hx : ∀ n ∈ x.numbers, n.ReadsBack := fun n hn => h n (List.mem_append_left _ hn)
    have hrest : ∀ n ∈ itemsNumbers (y :: items), n.ReadsBack := fun n hn =>
      h n (List.mem_append_right _ hn)
    have hchars : itemsChars (x :: y :: items) ++ ']' :: rest =
        x.chars ++ ',' :: (itemsChars (y :: items) ++ ']' :: rest) := by
      simp [itemsChars]
    rw [hchars]
    exact (cuts_chars x hx (closes_cons (by simp) _)).append
      (.cons rfl rfl (Nat.le_refl _) (cuts_itemsChars (y :: items) rest hrest))

theorem cuts_membersChars : ∀ (members : List (String × Json)) (rest : List Char),
    (∀ n ∈ membersNumbers members, n.ReadsBack) →
    Cuts (membersChars members ++ '\x7d' :: rest) (membersTokens members) ('\x7d' :: rest)
  | [], _, _ => .nil _
  | [(k, x)], rest, h => by
    have hx : ∀ n ∈ x.numbers, n.ReadsBack := fun n hn => h n (List.mem_append_left _ hn)
    have hchars : membersChars [(k, x)] ++ '\x7d' :: rest =
        quote k ++ ':' :: (x.chars ++ '\x7d' :: rest) := by
      simp [membersChars]
    rw [hchars]
    exact (Cuts.quote k _).append
      (.cons rfl rfl (Nat.le_refl _) (cuts_chars x hx (closes_cons (by simp) rest)))
  | (k, x) :: m :: members, rest, h => by
    have hx : ∀ n ∈ x.numbers, n.ReadsBack := fun n hn => h n (List.mem_append_left _ hn)
    have hrest : ∀ n ∈ membersNumbers (m :: members), n.ReadsBack := fun n hn =>
      h n (List.mem_append_right _ hn)
    have hchars : membersChars ((k, x) :: m :: members) ++ '\x7d' :: rest =
        quote k ++ ':' :: (x.chars ++ ',' :: (membersChars (m :: members) ++ '\x7d' :: rest)) := by
      simp [membersChars]
    rw [hchars]
    exact (Cuts.quote k _).append <| .cons rfl rfl (Nat.le_refl _) <|
      (cuts_chars x hx (closes_cons (by simp) _)).append
        (.cons rfl rfl (Nat.le_refl _) (cuts_membersChars (m :: members) rest hrest))

end

/-- Rendered text is cut into the tokens of the value. -/
theorem scan_render {j : Json} (h : ∀ n ∈ j.numbers, n.ReadsBack) :
    scan j.render = some j.tokens := by
  refine Cuts.scan ?_
  have hcuts := cuts_chars j h closes_nil
  rwa [List.append_nil, ← String.toList_ofList (l := j.chars)] at hcuts

end Token

end Json

end Rollout
