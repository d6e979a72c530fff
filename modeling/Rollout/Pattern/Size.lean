import Rollout.Pattern.Expr

/-!
# Sizes of patterns

Patterns run as automata on the UTF-8 bytes of texts, one that reads forward and one that reads
backward, and a pattern whose automata need too much room is refused. `Expr.room` is how many bytes
an automaton takes: 32 for each state, 8 more for each transition of a state that has several, and
4 more for each branch of a state that splits without reading.
-/

namespace Rollout.Pattern

open Text

/-- What one state takes. -/
def stateRoom : Nat := 32

/-- What a state with `n` transitions takes. -/
def tableRoom (n : Nat) : Nat := stateRoom + 8 * n

/-- What a state with `n` branches takes. -/
def splitRoom (n : Nat) : Nat := stateRoom + 4 * n

/-! ### Sets -/

/-- The byte ranges one after the other that spell the numbers from `lo` to `hi` with `k` digits to
the base 64 after the first digit. A range is given as one number, its end added to 256 times its
start. `lead` is added to the first digit. -/
def spell : Nat → Nat → Nat → Nat → List (List Nat)
  | 0, lead, lo, hi => [[256 * (lead + lo) + (lead + hi)]]
  | k + 1, lead, lo, hi =>
    let unit := Nat.pow 64 (k + 1)
    let (first, last) := (lo / unit, hi / unit)
    let starting (digit : Nat) (l : List (List Nat)) : List (List Nat) :=
      l.map ((256 * (lead + digit) + (lead + digit)) :: ·)
    if first = last then starting first (spell k 128 (lo % unit) (hi % unit))
    else
      let opens := lo % unit != 0
      let closes := hi % unit != unit - 1
      let (a, b) := (if opens then first + 1 else first, if closes then last - 1 else last)
      (if opens then starting first (spell k 128 (lo % unit) (unit - 1)) else []) ++
      (if a ≤ b then
        [(256 * (lead + a) + (lead + b)) :: List.replicate (k + 1) (256 * 128 + 191)] else []) ++
      (if closes then starting last (spell k 128 0 (hi % unit)) else [])

/-- The code points that UTF-8 spells with the same number of bytes, the number of bytes after the
first one, and what is added to the first one. -/
def lengths : List ((Nat × Nat) × Nat × Nat) :=
  [((0, 0x7F), 0, 0), ((0x80, 0x7FF), 1, 0xC0), ((0x800, 0xD7FF), 2, 0xE0),
   ((0xE000, 0xFFFF), 2, 0xE0), ((0x10000, 0x10FFFF), 3, 0xF0)]

/-- The byte ranges one after the other that spell the characters of a set. -/
def spellings (s : CharSet) : List (List Nat) :=
  s.ranges.flatMap fun (lo, hi) =>
    lengths.flatMap fun ((first, last), k, lead) =>
      if hi < first || last < lo then [] else spell k lead (max lo first) (min hi last)

/-- What can follow each first byte range of some spellings, which are in order. -/
def followers (l : List (List Nat)) : List (List (List Nat)) :=
  (l.splitBy fun u v => u.head? == v.head?).map fun group => group.map (·.drop 1)

/-- All states of an automaton that reads the spellings, each one given by what follows, for
spellings of at most `depth` bytes. States that are the same stand there repeatedly. -/
def states : Nat → List (List Nat) → List (List (List Nat))
  | 0, _ => []
  | depth + 1, l =>
    if l.all (·.isEmpty) then []
    else l :: (followers l).flatMap fun next => states depth next

/-- What the automaton takes for a set. Forward, what follows is shared; backward, what precedes. -/
def setRoom (forward : Bool) (s : CharSet) : Nat :=
  if s.isAscii then stateRoom + tableRoom s.ranges.length
  else
    let l := spellings s
    let all := states 4 l
    if forward then
      let distinct := (all.mergeSort fun a b => (compare a b).isLE).eraseReps
      (distinct.map fun state => tableRoom (followers state).length).foldl (· + ·) stateRoom
    else
      let edges := (all.map fun state => (followers state).length).foldl (· + ·) 0
      stateRoom + splitRoom l.length + stateRoom * edges

/-! ### Alternative texts -/

/-- Cut a list of words after each empty one; the part after the last one comes last. -/
def stretches : List (List UInt8) → List (List (List UInt8))
  | [] => [[]]
  | [] :: rest => [] :: stretches rest
  | word :: rest =>
    match stretches rest with
    | [] => [[word]]
    | stretch :: more => (word :: stretch) :: more

/-- What the automaton takes for the states after the start of some words of at most `depth` bytes:
where no word ends, one table for all of them, and one more for what comes after each word that
ends. -/
def wordsRoom : Nat → List (List UInt8) → Nat
  | 0, _ => 0
  | depth + 1, words =>
    if words.all (·.isEmpty) then 0
    else
      let words := words.dropWhile (·.isEmpty) |> fun rest =>
        if rest.length < words.length then [] :: rest else rest
      let parts := stretches words
      let rooms := parts.map fun stretch =>
        let bytes := (stretch.filterMap (·.head?)).eraseDups
        let next := bytes.map fun b =>
          wordsRoom depth ((stretch.filter (·.head? == some b)).map (·.drop 1))
        next.foldl (· + ·) (if bytes.isEmpty then 0
          else if bytes.length = 1 then stateRoom else tableRoom bytes.length)
      let branches := parts.length - 1 + (parts.filter fun stretch => !(stretch.isEmpty)).length
      rooms.foldl (· + ·) (splitRoom branches)

/-- The bytes of a pattern that is a text. -/
def bytes? : Expr → Option (List UInt8)
  | .literal cs => some (cs.flatMap String.utf8EncodeChar)
  | _ => none

/-! ### Patterns -/

namespace Expr

mutual

/-- How much room the part of an automaton for the pattern takes. A branch into it counts for where
it comes from. -/
def room (forward : Bool) : Expr → Nat
  | .empty | .assertion _ => stateRoom
  | .literal cs => stateRoom * (cs.map Char.utf8Size).foldl (· + ·) 0
  | .chars s => setRoom forward s
  | .group _ e => room forward e + if forward then 2 * stateRoom else 0
  | .concat es => roomOfAll forward es
  | .alternatives es =>
    match es.mapM bytes? with
    | some words =>
      let words := if forward then words else words.map List.reverse
      stateRoom + wordsRoom ((words.map List.length).foldl max 0 + 1) words
    | none => stateRoom + splitRoom es.length + roomOfAll forward es
  | .repeated e min max _ =>
    let one := room forward e
    match max with
    | some max =>
      if min = 0 && max = 1 then one + splitRoom 2 + stateRoom
      else Nat.max stateRoom (min * one) +
        if min < max then stateRoom + (max - min) * (one + splitRoom 2) else 0
    | none =>
      if min = 0 && (e.minLength.getD 0 == 0) then one + 2 * splitRoom 2 + stateRoom
      else Nat.max 1 min * one + splitRoom 2

def roomOfAll (forward : Bool) : List Expr → Nat
  | [] => 0
  | e :: rest => room forward e + roomOfAll forward rest

end

/-- How much room an automaton for the whole pattern takes: before it stands a loop that finds where
matches begin, unless they can only begin at one end of the text. -/
def totalRoom (forward : Bool) (e : Expr) : Nat :=
  let anchor : Assertion := if forward then .textStart else .textEnd
  e.room forward + stateRoom + (if e.isBound anchor forward then stateRoom
    else splitRoom 2 + stateRoom + tableRoom 1) + if forward then 2 * stateRoom else 0

/-- The room that there is for each automaton. -/
def maxRoom : Nat := 10485760

/-- Whether the pattern is a choice of so many texts that they are looked for without automata. -/
def isDictionary : Expr → Bool
  | .alternatives es => 3000 ≤ es.length && (es.mapM bytes?).isSome
  | _ => false

/-- Whether there is room for the pattern. -/
def fits (e : Expr) : Bool :=
  e.isDictionary || (e.totalRoom true ≤ maxRoom && e.totalRoom false ≤ maxRoom)

end Expr

end Rollout.Pattern
