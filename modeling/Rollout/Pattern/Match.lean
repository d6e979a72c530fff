import Rollout.Pattern.Expr
import Rollout.Pattern.Named

/-!
# Matches

A pattern is evaluated as a function on sets of positions of a text: given where matches may begin,
`Moves.ends` is the set of positions where they may end. Sets of positions are bit sets, with
position `i` before the character of index `i`. `Expr.moves` looks at the text, once for each of the
conditions of a pattern.
-/

namespace Rollout.Pattern

open Text

namespace WordEdge

/-- Whether the condition holds between two characters, where it is told which of them belong to
words. -/
def holds (before after : Bool) : WordEdge → Bool
  | .boundary => before != after
  | .noBoundary => before == after
  | .start => !before && after
  | .finish => before && !after
  | .startHalf => !before
  | .finishHalf => !after

end WordEdge

namespace Assertion

/-- Whether the assertion holds between two characters, either of which may be absent; `isWord`
tells characters of words. -/
def holds (a : Assertion) (isWord : Char → Bool) (before after : Option Char) : Bool :=
  match a with
  | .textStart => before.isNone
  | .textEnd => after.isNone
  | .lineStart false => before.all (· == '\n')
  | .lineStart true => before.all fun c => c == '\n' || (c == '\r' && after != some '\n')
  | .lineEnd false => after.all (· == '\n')
  | .lineEnd true => after.all fun c => c == '\r' || (c == '\n' && before != some '\r')
  | .word edge _ => edge.holds (before.any isWord) (after.any isWord)

/-- The characters of words, where the assertion is on words. -/
def wordSet : Assertion → CharSet
  | .word _ unicode => words unicode
  | _ => {}

end Assertion

/-! ### Sets of positions -/

/-- The bit set of a list of flags, the first one at bit 0. -/
def bits : List Bool → Nat
  | [] => 0
  | b :: rest => 2 * bits rest + b.toNat

/-- Every position of a text with the characters before and after it. -/
def positions (before : Option Char) : List Char → List (Option Char × Option Char)
  | [] => [(before, none)]
  | c :: rest => (before, some c) :: positions (some c) rest

/-- The positions reached from `s` by any number of steps, of which `fuel` suffice. -/
def saturate (step : Nat → Nat) : Nat → Nat → Nat
  | 0, s => s
  | fuel + 1, s =>
    let t := s ||| step s
    if t = s then s else saturate step fuel t

/-- The positions reached from `s` by exactly `n` steps. -/
def iterate (step : Nat → Nat) : Nat → Nat → Nat
  | 0, s => s
  | n + 1, s =>
    let t := step s
    if t = s then s else iterate step n t

/-- What a pattern can do on one text. -/
inductive Moves where
  /-- Take the character after the position, where that is allowed. -/
  | take (allowed : Nat)
  /-- Stay at the position, where that is allowed. -/
  | stay (allowed : Nat)
  | sequence (l : List Moves)
  | choice (l : List Moves)
  | repeated (m : Moves) (min : Nat) (max : Option Nat)
  deriving Repr, Inhabited

namespace Moves

mutual

/-- The positions where matches that begin in `s` end. No repetition needs more than a given number
of rounds, which is more than the text has positions. -/
def ends (rounds : Nat) : Moves → Nat → Nat
  | .take allowed, s => (s &&& allowed) <<< 1
  | .stay allowed, s => s &&& allowed
  | .sequence l, s => endsOfAll rounds l s
  | .choice l, s => endsOfAny rounds l s
  | .repeated m min max, s =>
    let t := iterate (ends rounds m) (Nat.min min rounds) s
    match max with
    | none => saturate (ends rounds m) rounds t
    | some max => saturate (ends rounds m) (Nat.min (max - min) rounds) t

def endsOfAll (rounds : Nat) : List Moves → Nat → Nat
  | [], s => s
  | m :: rest, s => endsOfAll rounds rest (ends rounds m s)

def endsOfAny (rounds : Nat) : List Moves → Nat → Nat
  | [], _ => 0
  | m :: rest, s => ends rounds m s ||| endsOfAny rounds rest s

end

end Moves

namespace Expr

mutual

/-- What the pattern can do on a text. -/
def moves (text : List Char) : Expr → Moves
  | .empty => .sequence []
  | .literal cs => .sequence (cs.map fun c => .take (bits (text.map (· == c))))
  | .chars s => .take (bits (text.map s.contains))
  | .assertion a =>
    let isWord := a.wordSet.contains
    .stay (bits ((positions none text).map fun (before, after) => a.holds isWord before after))
  | .group _ e => moves text e
  | .concat es => .sequence (movesOfAll text es)
  | .alternatives es => .choice (movesOfAll text es)
  | .repeated e min max _ => .repeated (moves text e) min max

def movesOfAll (text : List Char) : List Expr → List Moves
  | [] => []
  | e :: rest => moves text e :: movesOfAll text rest

end

/-- Whether the pattern matches anywhere in a text. -/
def matchesIn (e : Expr) (text : String) : Bool :=
  let cs := text.toList
  (e.moves cs).ends (cs.length + 2) (Nat.pow 2 (cs.length + 1) - 1) != 0

end Expr

end Rollout.Pattern
