import Rollout.Text.CharSet

/-!
# Pattern expressions

What a pattern means, apart from how it is written. Expressions are built by functions that bring
them into a simple form (`Expr.ofSet`, `Expr.sequence`, `Expr.choice`, `Expr.repetition`): parts
that are next to each other are joined, and alternatives that are sets become one set.
-/

namespace Rollout.Pattern

open Text

/-- A condition on words at a position. -/
inductive WordEdge where
  /-- A word begins or ends here. -/
  | boundary
  | noBoundary
  | start
  | finish
  /-- No word goes on from before. -/
  | startHalf
  /-- No word goes on from here. -/
  | finishHalf
  deriving Repr, DecidableEq

/-- A condition on a position. -/
inductive Assertion where
  | textStart
  | textEnd
  /-- A line starts here; `returns` tells whether carriage returns end lines too. -/
  | lineStart (returns : Bool)
  | lineEnd (returns : Bool)
  /-- Words consist of the characters of all scripts, or of those of ASCII. -/
  | word (edge : WordEdge) (unicode : Bool)
  deriving Repr, DecidableEq

/-- A pattern. -/
inductive Expr where
  | empty
  | literal (cs : List Char)
  | chars (s : CharSet)
  | assertion (a : Assertion)
  /-- A group whose match is kept, with its number. -/
  | group (index : Nat) (e : Expr)
  | concat (es : List Expr)
  | alternatives (es : List Expr)
  /-- At least `min` times, and at most `max` times if that is given. -/
  | repeated (e : Expr) (min : Nat) (max : Option Nat) (greedy : Bool)
  deriving Repr, Inhabited

namespace Expr

/-! ### Lengths of matches -/

mutual

/-- The least length of what the pattern matches, if it matches anything. -/
def minLength : Expr → Option Nat
  | .empty | .assertion _ => some 0
  | .literal cs => some cs.length
  | .chars s => if s.ranges.isEmpty then none else some 1
  | .group _ e => e.minLength
  | .concat es => minLengthOfAll es
  | .alternatives es => minLengthOfAny es
  | .repeated e min _ _ => e.minLength.map (min * ·)

def minLengthOfAll : List Expr → Option Nat
  | [] => some 0
  | e :: rest => e.minLength.bind fun n => (minLengthOfAll rest).map (n + ·)

def minLengthOfAny : List Expr → Option Nat
  | [] => none
  | [e] => e.minLength
  | e :: rest => e.minLength.bind fun n => (minLengthOfAny rest).map (Nat.min n)

end

mutual

/-- Whether the pattern matches nothing but the empty text. -/
def isBlank : Expr → Bool
  | .empty | .assertion _ => true
  | .literal cs => cs.isEmpty
  | .chars _ => false
  | .group _ e => e.isBlank
  | .concat es | .alternatives es => areBlank es
  | .repeated e _ max _ => max.isSome && e.isBlank

def areBlank : List Expr → Bool
  | [] => true
  | e :: rest => e.isBlank && areBlank rest

end

mutual

/-- Whether all matches begin at the start of the text, or end at its end, for a reason that stands
at that end of the pattern. -/
def isBound (a : Assertion) (forward : Bool) : Expr → Bool
  | .assertion b => a == b
  | .group _ e => isBound a forward e
  | .concat es => if forward then startBound a es else endBound a es
  | .alternatives es => areBound a forward es
  | .repeated e min _ _ => min != 0 && isBound a forward e
  | .empty | .literal _ | .chars _ => false

/-- Whether one of the parts up to the first one that takes characters is bound. -/
def startBound (a : Assertion) : List Expr → Bool
  | [] => false
  | e :: rest => isBound a true e || (e.isBlank && startBound a rest)

/-- Whether one of the parts from the last one that takes characters on is bound. -/
def endBound (a : Assertion) : List Expr → Bool
  | [] => false
  | e :: rest => endBound a rest || (areBlank rest && isBound a false e)

def areBound (a : Assertion) (forward : Bool) : List Expr → Bool
  | [] => true
  | e :: rest => isBound a forward e && areBound a forward rest

end

/-! ### Equality -/

mutual

/-- Whether two expressions are equal. -/
def same : Expr → Expr → Bool
  | .empty, .empty => true
  | .literal a, .literal b => a == b
  | .chars s, .chars t => s == t
  | .assertion a, .assertion b => a == b
  | .group i d, .group j e => i == j && same d e
  | .concat ds, .concat es => sameAll ds es
  | .alternatives ds, .alternatives es => sameAll ds es
  | .repeated d min max greedy, .repeated e min' max' greedy' =>
    min == min' && max == max' && greedy == greedy' && same d e
  | _, _ => false

def sameAll : List Expr → List Expr → Bool
  | [], [] => true
  | d :: ds, e :: es => same d e && sameAll ds es
  | _, _ => false

end

/-! ### Building expressions -/

/-- One character of a set. -/
def ofSet (s : CharSet) : Expr :=
  match s.ranges with
  | [(lo, hi)] => if lo = hi then .literal [Char.ofNat lo] else .chars s
  | _ => .chars s

/-- A repetition. What matches only the empty text need not be repeated. -/
def repetition (e : Expr) (min : Nat) (max : Option Nat) (greedy : Bool) : Expr :=
  let (min, max) :=
    if e.isBlank then (Nat.min min 1, some (max.elim 1 (Nat.min 1))) else (min, max)
  match min, max with
  | 0, some 0 => .empty
  | 1, some 1 => e
  | min, max => .repeated e min max greedy

/-- Put a part before others; two texts become one. -/
def prepend : Expr → List Expr → List Expr
  | .literal a, .literal b :: rest => .literal (a ++ b) :: rest
  | e, rest => e :: rest

/-- The parts of an expression that follow each other. -/
def parts : Expr → List Expr
  | .empty => []
  | .concat es => es
  | e => [e]

/-- One pattern after the other. -/
def sequence (es : List Expr) : Expr :=
  match (es.flatMap parts).foldr prepend [] with
  | [] => .empty
  | [e] => e
  | es => .concat es

/-- The alternatives of an expression. -/
def options : Expr → List Expr
  | .alternatives es => es
  | e => [e]

/-- The set of a pattern that is one. -/
def set? : Expr → Option CharSet
  | .chars s => some s
  | _ => none

/-- The set of a pattern that is one character. -/
def single? : Expr → Option CharSet
  | .literal [c] => some (.single c)
  | _ => none

/-- One of some patterns, which become a set if each of them is one, or each a character. -/
def merged (es : List Expr) : Expr :=
  match es.flatMap options with
  | [] => .chars {}
  | [e] => e
  | es =>
    match (es.mapM single?).or (es.mapM set?) with
    | some sets => ofSet (.unions sets)
    | none => .alternatives es

/-- The parts that two lists start with. -/
def common : List Expr → List Expr → List Expr
  | d :: ds, e :: es => if same d e then d :: common ds es else []
  | _, _ => []

/-- The parts of an expression that has several. -/
def several : Expr → List Expr
  | .concat es => es
  | _ => []

/-- One of some patterns. What all of them start with stands before the alternatives. -/
def choice (es : List Expr) : Expr :=
  let lists := (es.flatMap options).map several
  let shared :=
    match lists with
    | first :: second :: rest => (second :: rest).foldl common first
    | _ => []
  if shared.isEmpty then merged es
  else sequence (shared ++ [merged (lists.map fun l => sequence (l.drop shared.length))])

end Expr

end Rollout.Pattern
