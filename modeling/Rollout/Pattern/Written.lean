import Rollout.Pattern.Expr
import Rollout.Pattern.Named
import Rollout.Text.Casing

/-!
# The written form of patterns

A pattern as it is written (`Written`), what it means as an expression (`Written.meaning`), and how
deep it is nested (`Written.depth`). What it means depends on the flags in force, and some patterns
mean nothing: properties that there are not, and sets beyond ASCII where characters are bytes.
-/

namespace Rollout.Pattern

open Text

/-! ### Flags -/

/-- What can be switched on and off within a pattern. -/
inductive Flag where
  | ignoreCase
  /-- `^` and `$` also match at lines. -/
  | multiLine
  | dotMatchesNewline
  /-- Repetitions are lazy, and those that are marked as lazy are greedy. -/
  | swapGreed
  /-- Characters are those of Unicode, not only those of ASCII. -/
  | unicode
  /-- Carriage returns end lines too. -/
  | carriageReturns
  /-- Blanks and comments are passed over. -/
  | verbose
  deriving Repr, DecidableEq

/-- The flag of a letter. -/
def Flag.ofLetter? : Char → Option Flag
  | 'i' => some .ignoreCase
  | 'm' => some .multiLine
  | 's' => some .dotMatchesNewline
  | 'U' => some .swapGreed
  | 'u' => some .unicode
  | 'R' => some .carriageReturns
  | 'x' => some .verbose
  | _ => none

/-- The flags in force. -/
structure Flags where
  on : List Flag := [.unicode]
  deriving Repr

namespace Flags

/-- Whether a flag is in force. -/
def has (f : Flags) (flag : Flag) : Bool := f.on.contains flag

/-- Switch flags on or off. -/
def change (f : Flags) (changes : List (Flag × Bool)) : Flags :=
  changes.foldl (fun f (flag, on) =>
    ⟨if on then flag :: f.on else f.on.filter (· != flag)⟩) f

end Flags

/-! ### Sets -/

/-- The kinds of characters that have a letter of their own. -/
inductive Kind where
  | digit
  | blank
  | word
  deriving Repr, DecidableEq

/-- The characters of a kind. -/
def Kind.set (unicode : Bool) : Kind → CharSet
  | .digit => digits unicode
  | .blank => blanks unicode
  | .word => words unicode

/-- The operations on bracketed sets. -/
inductive SetOperation where
  | inter
  | diff
  | symmetricDiff
  deriving Repr, DecidableEq

/-- Combine two sets. -/
def SetOperation.apply : SetOperation → CharSet → CharSet → CharSet
  | .inter => .inter
  | .diff => .diff
  | .symmetricDiff => .symmetricDiff

/-- A set as it is written. -/
inductive WrittenSet where
  | range (lo hi : Char)
  /-- A class of ASCII characters, as in `[:alpha:]`. -/
  | ascii (s : CharSet) (negated : Bool)
  | kind (k : Kind) (negated : Bool)
  | property (q : Query) (negated : Bool)
  | bracketed (negated : Bool) (s : WrittenSet)
  | union (l : List WrittenSet)
  | operation (op : SetOperation) (l r : WrittenSet)
  deriving Repr, Inhabited

/-- The set with the letters of ASCII in both cases. -/
def ignoringAsciiCase (s : CharSet) : CharSet :=
  let letters := ((s.inter ⟨[(0x41, 0x5A), (0x61, 0x7A)]⟩).toList).map fun n =>
    if n < 0x61 then n + 32 else n - 32
  s.union (.ofRanges (letters.map fun n => (n, n)))

namespace Flags

/-- Apply the case flag to a set. -/
def fold (f : Flags) (s : CharSet) : CharSet :=
  if !f.has .ignoreCase then s
  else if f.has .unicode then ignoringCase version s
  else ignoringAsciiCase s

/-- Negate a set, which is possible for characters of Unicode only. -/
def negate? (f : Flags) (negated : Bool) (s : CharSet) : Option CharSet :=
  if !negated then some s
  else if f.has .unicode then some s.negate
  else none

end Flags

namespace WrittenSet

mutual

/-- The set that is written, if there is one. -/
def set? (f : Flags) : WrittenSet → Option CharSet
  | .range lo hi => if f.has .unicode || hi.toNat < 128 then some (.range lo hi) else none
  | .ascii s negated => f.negate? negated (f.fold s)
  | .kind k negated => f.negate? negated (k.set (f.has .unicode))
  | .property q negated =>
    if f.has .unicode then q.set?.bind fun s => f.negate? negated (f.fold s) else none
  | .bracketed negated s => (set? f s).bind fun s => f.negate? negated (f.fold s)
  | .union l => (sets? f l).map .unions
  | .operation op l r =>
    (set? f l).bind fun l => (set? f r).map fun r => op.apply (f.fold l) (f.fold r)

def sets? (f : Flags) : List WrittenSet → Option (List CharSet)
  | [] => some []
  | s :: rest => (set? f s).bind fun s => (sets? f rest).map (s :: ·)

end

mutual

/-- How deep brackets, unions and operations are nested. -/
def depth : WrittenSet → Nat
  | .range _ _ | .ascii _ _ | .kind _ _ | .property _ _ => 0
  | .bracketed _ s => s.depth + 1
  | .union l => depthOfAll l + if l.length ≤ 1 then 0 else 1
  | .operation _ l r => Nat.max l.depth r.depth + 1

def depthOfAll : List WrittenSet → Nat
  | [] => 0
  | s :: rest => Nat.max s.depth (depthOfAll rest)

end

end WrittenSet

/-! ### Patterns -/

/-- An assertion as it is written. -/
inductive Mark where
  | caret
  | dollar
  | textStart
  | textEnd
  | word (edge : WordEdge)
  deriving Repr, DecidableEq

/-- What an assertion means. -/
def Mark.meaning (f : Flags) : Mark → Assertion
  | .caret => if f.has .multiLine then .lineStart (f.has .carriageReturns) else .textStart
  | .dollar => if f.has .multiLine then .lineEnd (f.has .carriageReturns) else .textEnd
  | .textStart => .textStart
  | .textEnd => .textEnd
  | .word edge => .word edge (f.has .unicode)

/-- A pattern as it is written. -/
inductive Written where
  /-- A character; `byte` tells whether it is given as the number of a byte. -/
  | letter (c : Char) (byte : Bool)
  | dot
  | set (s : WrittenSet)
  | mark (m : Mark)
  /-- A change of flags up to the end of the group. -/
  | flags (changes : List (Flag × Bool))
  /-- A group whose match is kept, with its number. -/
  | group (index : Nat) (body : Written)
  /-- A group with flags of its own. -/
  | scoped (changes : List (Flag × Bool)) (body : Written)
  | concat (l : List Written)
  | alternatives (l : List Written)
  | repeated (body : Written) (min : Nat) (max : Option Nat) (greedy : Bool)
  deriving Repr, Inhabited

namespace Written

/-- What a character means. A byte beyond ASCII is no character. -/
def letterMeaning (f : Flags) (c : Char) (byte : Bool) : Option Expr :=
  if !f.has .unicode && byte && 128 ≤ c.toNat then none
  else if c.toNat < 128 && !c.isAlpha then some (.literal [c])
  else some (.ofSet (f.fold (.single c)))

/-- What a dot means. -/
def dotMeaning (f : Flags) : Option Expr :=
  if !f.has .unicode then none
  else
    let excluded : CharSet :=
      if f.has .dotMatchesNewline then {}
      else if f.has .carriageReturns then .ofSorted [(0xA, 0xA), (0xD, 0xD)]
      else .single '\n'
    some (.ofSet excluded.negate)

mutual

/-- What a pattern means, if it means something, with the flags that are in force after it. -/
def meaning (f : Flags) : Written → Option (Expr × Flags)
  | .letter c byte => (letterMeaning f c byte).map (·, f)
  | .dot => (dotMeaning f).map (·, f)
  | .set s => (s.set? f).map fun s => (.ofSet s, f)
  | .mark m => some (.assertion (m.meaning f), f)
  | .flags changes => some (.empty, f.change changes)
  | .group index body => (meaning f body).map fun (e, _) => (.group index e, f)
  | .scoped changes body => (meaning (f.change changes) body).map fun (e, _) => (e, f)
  | .concat l => (meanings f l).map fun (es, f) => (.sequence es, f)
  | .alternatives l => (meanings f l).map fun (es, f) => (.choice es, f)
  | .repeated body min max greedy =>
    (meaning f body).map fun (e, f) => (.repetition e min max (greedy != f.has .swapGreed), f)

/-- What patterns mean, each of which changes the flags for those after it. -/
def meanings (f : Flags) : List Written → Option (List Expr × Flags)
  | [] => some ([], f)
  | s :: rest => (meaning f s).bind fun (e, f) => (meanings f rest).map fun (es, f) => (e :: es, f)

end

mutual

/-- How deep the pattern is nested. -/
def depth : Written → Nat
  | .letter _ _ | .dot | .mark _ | .flags _ => 0
  | .set s => s.depth
  | .group _ body | .scoped _ body | .repeated body _ _ _ => body.depth + 1
  | .concat l | .alternatives l => depthOfAll l + if l.length ≤ 1 then 0 else 1

def depthOfAll : List Written → Nat
  | [] => 0
  | s :: rest => Nat.max s.depth (depthOfAll rest)

end

end Written

end Rollout.Pattern
