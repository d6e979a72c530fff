/-!
# Blanks and lines

White space in the sense of the Unicode standard, trimming it from the ends of a text, and cutting a
text at given characters.
-/

namespace Rollout.Text

/-- Whether a character is white space. -/
def isBlank (c : Char) : Bool :=
  let n := c.toNat
  (0x9 ≤ n && n ≤ 0xD) || n == 0x20 || n == 0x85 || n == 0xA0 || n == 0x1680 ||
    (0x2000 ≤ n && n ≤ 0x200A) || n == 0x2028 || n == 0x2029 || n == 0x202F || n == 0x205F ||
    n == 0x3000

/-- Drop what satisfies `p` at both ends. -/
def trimList (p : Char → Bool) (cs : List Char) : List Char :=
  ((cs.dropWhile p).reverse.dropWhile p).reverse

/-- A text without white space at its ends. -/
def trim (s : String) : String := String.ofList (trimList isBlank s.toList)

/-- Cut a list at every element that satisfies `p`; there is one more part than there are cuts. -/
def splitList (p : Char → Bool) : List Char → List (List Char)
  | [] => [[]]
  | c :: rest =>
    if p c then [] :: splitList p rest
    else match splitList p rest with
      | [] => [[c]]
      | part :: parts => (c :: part) :: parts

/-- The lines of a text. -/
def lines (s : String) : List String :=
  (splitList (· == '\n') s.toList).map String.ofList

end Rollout.Text
