import Rollout.Pattern.Written
import Rollout.Text.Blank

/-!
# Reading patterns

`Written.ofText?` reads the written form of patterns: alternatives, groups, repetitions, bracketed
sets with set operations, escapes, assertions and flags. There are no back references and no look
around.
-/

namespace Rollout.Pattern

open Text

/-! ### Blanks and comments -/

/-- Pass over blanks and comments; `inComment` tells whether a comment goes on. -/
def skipFrom (inComment : Bool) : List Char → List Char
  | [] => []
  | c :: rest =>
    if inComment then skipFrom (c != '\n') rest
    else if c == '#' then skipFrom true rest
    else if isBlank c then skipFrom false rest
    else c :: rest

/-- Pass over what does not count in verbose patterns. -/
def skip (verbose : Bool) (cs : List Char) : List Char := if verbose then skipFrom false cs else cs

/-- Take at most `limit` characters as long as they satisfy `p`, and pass over what does not count
before each of them. -/
def gatherFrom (verbose : Bool) (p : Char → Bool) (inComment : Bool) (limit : Nat) :
    List Char → List Char × List Char
  | [] => ([], [])
  | c :: rest =>
    if inComment then gatherFrom verbose p (c != '\n') limit rest
    else if verbose && c == '#' then gatherFrom verbose p true limit rest
    else if verbose && isBlank c then gatherFrom verbose p false limit rest
    else if p c && limit != 0 then
      let (taken, left) := gatherFrom verbose p false (limit - 1) rest
      (c :: taken, left)
    else ([], c :: rest)

/-- Take characters as long as they satisfy `p`, and pass over what does not count. -/
def gather (verbose : Bool) (p : Char → Bool) (cs : List Char) : List Char × List Char :=
  gatherFrom verbose p false cs.length cs

/-- The first character that is neither blank nor starts a comment, of which the first character
counts. -/
def peekFrom (inComment : Bool) : List Char → Option Char
  | [] => none
  | c :: rest =>
    if isBlank c then peekFrom inComment rest
    else if !inComment && c == '#' then peekFrom true rest
    else some c

/-- The character that comes next. -/
def peek (verbose : Bool) (cs : List Char) : Option Char :=
  if verbose then (peekFrom false cs).or cs.head? else cs.head?

/-! ### Escapes -/

/-- What an escape stands for. -/
inductive Escape where
  | letter (c : Char) (byte : Bool)
  | set (s : WrittenSet)
  | mark (m : Mark)

/-- The value of a hexadecimal digit. -/
def hexDigit? (c : Char) : Option Nat :=
  if c.isDigit then some (c.toNat - 48)
  else if 'a' ≤ c ∧ c ≤ 'f' then some (c.toNat - 87)
  else if 'A' ≤ c ∧ c ≤ 'F' then some (c.toNat - 55)
  else none

/-- The value of hexadecimal digits as a character. -/
def hexChar? (ds : List Char) : Option Char :=
  if ds.isEmpty then none
  else (ds.mapM hexDigit?).bind fun ns =>
    let n := ns.foldl (fun n d => 16 * n + d) 0
    if n.isValidChar then some (Char.ofNat n) else none

/-- Hexadecimal digits after `x`, `u` or `U`: a fixed number of them, or any number in braces. A
number of two digits is that of a byte. -/
def hexEscape? (verbose : Bool) (digits : Nat) (cs : List Char) : Option (Escape × List Char) :=
  match skip verbose cs with
  | '\x7b' :: rest =>
    match gather verbose (fun c => (hexDigit? c).isSome) rest with
    | (ds, '\x7d' :: rest) => (hexChar? ds).map fun c => (.letter c false, rest)
    | _ => none
  | cs =>
    let (ds, rest) := gatherFrom verbose (fun c => (hexDigit? c).isSome) false digits cs
    if ds.length = digits then (hexChar? ds).map fun c => (.letter c (digits == 2), rest) else none

/-- Cut a text at the first place where `mark` stands. -/
def cutAt? (mark : List Char) : List Char → Option (List Char × List Char)
  | [] => none
  | c :: rest =>
    if mark.isPrefixOf (c :: rest) then some ([], (c :: rest).drop mark.length)
    else (cutAt? mark rest).map fun (a, b) => (c :: a, b)

/-- What is asked for by the text in braces, and whether it is negated. -/
def query (cs : List Char) : Query × Bool :=
  match cutAt? ['!', '='] cs with
  | some (p, v) => (.value p v, true)
  | none =>
    match (cutAt? [':'] cs).or (cutAt? ['='] cs) with
    | some (p, v) => (.value p v, false)
    | none => (.name cs, false)

/-- The property after `p` or `P`: one letter, or a name in braces. -/
def propertyEscape? (verbose negated : Bool) (cs : List Char) : Option (Escape × List Char) :=
  match skip verbose cs with
  | [] => none
  | '\x7b' :: rest =>
    match gather verbose (· != '\x7d') rest with
    | (name, _ :: rest) =>
      let (q, inverse) := query name
      some (.set (.property q (negated != inverse)), rest)
    | (_, []) => none
  | c :: rest => if c = '\\' then none else some (.set (.property (.name [c]) negated), rest)

/-- The conditions on words after `b`, by the name in braces. -/
def wordEdges : List (String × WordEdge) :=
  [("start", .start), ("end", .finish), ("start-half", .startHalf), ("end-half", .finishHalf)]

/-- The condition on words after `b`. Braces that do not hold a name are a repetition. -/
def boundary? (verbose : Bool) (cs : List Char) : Option (Escape × List Char) :=
  match cs with
  | '\x7b' :: rest =>
    match skip verbose rest with
    | [] => none
    | c :: _ =>
      let isNameChar (c : Char) : Bool := c.isAlpha || c == '-'
      if isNameChar c then
        match gather verbose isNameChar rest with
        | (name, '\x7d' :: rest) =>
          (wordEdges.lookup (String.ofList name)).map fun edge => (.mark (.word edge), rest)
        | _ => none
      else some (.mark (.word .boundary), cs)
  | _ => some (.mark (.word .boundary), cs)

/-- Characters that have a meaning in patterns. -/
def isMeta (c : Char) : Bool := "\\.+*?()|[]\x7b\x7d^$#&-~".toList.contains c

/-- The kind of characters that a letter stands for; a capital stands for all others. -/
def kind? (c : Char) : Option WrittenSet :=
  (match c.toLower with
    | 'd' => some Kind.digit
    | 's' => some .blank
    | 'w' => some .word
    | _ => none).map fun k => .kind k c.isUpper

/-- What a letter stands for after a backslash. -/
def letterEscape? : Char → Option Escape
  | 'a' => some (.letter '\x07' false)
  | 'f' => some (.letter '\x0c' false)
  | 't' => some (.letter '\t' false)
  | 'n' => some (.letter '\n' false)
  | 'r' => some (.letter '\r' false)
  | 'v' => some (.letter '\x0b' false)
  | 'A' => some (.mark .textStart)
  | 'z' => some (.mark .textEnd)
  | 'B' => some (.mark (.word .noBoundary))
  | '<' => some (.mark (.word .start))
  | '>' => some (.mark (.word .finish))
  | c =>
    if isMeta c || (c.toNat < 128 && !c.isAlphanum) then some (.letter c false)
    else (kind? c).map .set

/-- The escape after a backslash. -/
def escape? (verbose : Bool) : List Char → Option (Escape × List Char)
  | [] => none
  | 'x' :: rest => hexEscape? verbose 2 rest
  | 'u' :: rest => hexEscape? verbose 4 rest
  | 'U' :: rest => hexEscape? verbose 8 rest
  | 'p' :: rest => propertyEscape? verbose false rest
  | 'P' :: rest => propertyEscape? verbose true rest
  | 'b' :: rest => boundary? verbose rest
  | c :: rest => (letterEscape? c).map (·, rest)

/-! ### Bracketed sets -/

/-- The ASCII classes that can be named inside brackets. -/
def asciiClasses : List (String × CharSet) :=
  [("alnum", .ofSorted [(0x30, 0x39), (0x41, 0x5A), (0x61, 0x7A)]),
   ("alpha", .ofSorted [(0x41, 0x5A), (0x61, 0x7A)]), ("ascii", .range '\x00' '\x7f'),
   ("blank", .ofSorted [(0x9, 0x9), (0x20, 0x20)]),
   ("cntrl", .ofSorted [(0x0, 0x1F), (0x7F, 0x7F)]), ("digit", .range '0' '9'),
   ("graph", .range '!' '~'), ("lower", .range 'a' 'z'), ("print", .range ' ' '~'),
   ("punct", .ofSorted [(0x21, 0x2F), (0x3A, 0x40), (0x5B, 0x60), (0x7B, 0x7E)]),
   ("space", .ofSorted [(0x9, 0xD), (0x20, 0x20)]), ("upper", .range 'A' 'Z'),
   ("word", .ofSorted [(0x30, 0x39), (0x41, 0x5A), (0x5F, 0x5F), (0x61, 0x7A)]),
   ("xdigit", .ofSorted [(0x30, 0x39), (0x41, 0x46), (0x61, 0x66)])]

/-- A named ASCII class after `[`, as in `[:alpha:]`. -/
def asciiClass? : List Char → Option (WrittenSet × List Char)
  | ':' :: rest =>
    let negated := rest.head? == some '^'
    let rest := if negated then rest.drop 1 else rest
    match asciiClasses.lookup (String.ofList (rest.takeWhile (· != ':'))),
        rest.dropWhile (· != ':') with
    | some s, ':' :: ']' :: tail => some (.ascii s negated, tail)
    | _, _ => none
  | _ => none

/-- One member of a bracketed set: a character or what an escape stands for. -/
def setItem? (verbose : Bool) : List Char → Option (Escape × List Char)
  | [] => none
  | '\\' :: rest => escape? verbose rest
  | c :: rest => some (.letter c false, rest)

/-- The set of a member; assertions have none. -/
def Escape.set? : Escape → Option WrittenSet
  | .letter c _ => some (.range c c)
  | .set s => some s
  | .mark _ => none

/-- One member or range of a bracketed set. -/
def setRange? (verbose : Bool) (cs : List Char) : Option (WrittenSet × List Char) :=
  (setItem? verbose cs).bind fun (first, rest) =>
    let alone (rest : List Char) := first.set?.map (·, rest)
    match skip verbose rest with
    | [] => none
    | '-' :: tail =>
      if peek verbose tail == some ']' || peek verbose tail == some '-' then alone ('-' :: tail)
      else
        match first, setItem? verbose (skip verbose tail) with
        | .letter lo _, some (.letter hi _, r) => if lo ≤ hi then some (.range lo hi, r) else none
        | _, _ => none
    | rest => alone rest

/-- The union of members. -/
def WrittenSet.ofMembers : List WrittenSet → WrittenSet
  | [s] => s
  | l => .union l

/-- Apply a pending operation to what stands left of it. -/
def applyPending (pending : Option (SetOperation × WrittenSet)) (members : List WrittenSet) :
    WrittenSet :=
  match pending with
  | none => .ofMembers members
  | some (op, left) => .operation op left (.ofMembers members)

/-- The operation that a text starts with. -/
def setOperation? : List Char → Option (SetOperation × List Char)
  | '&' :: '&' :: rest => some (.inter, rest)
  | '-' :: '-' :: rest => some (.diff, rest)
  | '~' :: '~' :: rest => some (.symmetricDiff, rest)
  | _ => none

mutual

/-- A bracketed set after its `[`. Hyphens at the start are members, and so is a bracket that closes
if it comes first. -/
def bracketed? (verbose : Bool) : Nat → List Char → Option (WrittenSet × List Char)
  | 0, _ => none
  | fuel + 1, cs =>
    let (negated, cs) :=
      match skip verbose cs with
      | '^' :: rest => (true, rest)
      | cs => (false, cs)
    let (hyphens, cs) := gather verbose (· == '-') cs
    let (members, cs) :=
      match hyphens, cs with
      | [], ']' :: rest => ([WrittenSet.range ']' ']'], rest)
      | _, _ => (hyphens.map fun c => .range c c, cs)
    (members? verbose fuel none members cs).map fun (s, rest) => (.bracketed negated s, rest)

/-- The members of a bracketed set up to its `]`. -/
def members? (verbose : Bool) : Nat → Option (SetOperation × WrittenSet) → List WrittenSet →
    List Char → Option (WrittenSet × List Char)
  | 0, _, _, _ => none
  | fuel + 1, pending, members, cs =>
    match skip verbose cs with
    | [] => none
    | ']' :: rest => some (applyPending pending members, rest)
    | '[' :: rest =>
      ((asciiClass? rest).or (bracketed? verbose fuel rest)).bind fun (s, rest) =>
        members? verbose fuel pending (members ++ [s]) rest
    | cs =>
      match setOperation? cs with
      | some (op, rest) => members? verbose fuel (some (op, applyPending pending members)) [] rest
      | none => (setRange? verbose cs).bind fun (s, rest) =>
        members? verbose fuel pending (members ++ [s]) rest

end

/-! ### Repetitions and groups -/

/-- A decimal below 2³², with blanks around it. -/
def decimal? (verbose : Bool) (cs : List Char) : Option (Nat × List Char) :=
  let (digits, rest) := gather verbose Char.isDigit (cs.dropWhile isBlank)
  let n := digits.foldl (fun n c => 10 * n + (c.toNat - 48)) 0
  if digits.isEmpty || Nat.pow 2 32 ≤ n then none
  else some (n, skip verbose (rest.dropWhile isBlank))

/-- The bounds of a counted repetition after its opening brace. -/
def bounds? (verbose : Bool) (cs : List Char) : Option ((Nat × Option Nat) × List Char) :=
  (decimal? verbose (skip verbose cs)).bind fun (min, rest) =>
    match rest with
    | '\x7d' :: tail => some ((min, some min), tail)
    | ',' :: rest =>
      match skip verbose rest with
      | '\x7d' :: tail => some ((min, none), tail)
      | rest =>
        match decimal? verbose rest with
        | some (max, '\x7d' :: tail) => if min ≤ max then some ((min, some max), tail) else none
        | _ => none
    | _ => none

/-- The flags of a group up to `:` or `)`, which is left. `on` is false after the dash, and then
`needed` while no flag follows it. -/
def flags? (seen : List Flag) (on needed : Bool) :
    List Char → Option (List (Flag × Bool) × List Char)
  | [] => none
  | c :: rest =>
    if c = ':' ∨ c = ')' then if needed then none else some ([], c :: rest)
    else if c = '-' then if on then flags? seen false true rest else none
    else (Flag.ofLetter? c).bind fun flag =>
      if seen.contains flag then none
      else (flags? (flag :: seen) on false rest).map fun (l, rest) => ((flag, on) :: l, rest)

/-- Whether a character may start the name of a group. -/
def isNameStart (c : Char) : Bool := c == '_' || Property.isAlphabetic c

/-- Whether a character may stand in the name of a group. -/
def isNameChar (c : Char) : Bool :=
  isNameStart c || c == '.' || c == '[' || c == ']' || (Category.of c).group == 'N'

/-- The name of a group up to `>`, which must not be taken yet. -/
def groupName? (taken : List (List Char)) (cs : List Char) : Option (List Char × List Char) :=
  let name := cs.takeWhile (· != '>')
  match name, cs.dropWhile (· != '>') with
  | first :: others, _ :: tail =>
    if isNameStart first && others.all isNameChar && !taken.contains name then some (name, tail)
    else none
  | _, _ => none

/-! ### Patterns -/

/-- What has been read so far: whether blanks and comments are passed over, how many groups are
kept and which names they have, the alternatives before, and the parts of the current one in
reverse. -/
structure Progress where
  verbose : Bool := false
  groups : Nat := 0
  names : List (List Char) := []
  alternatives : List Written := []
  parts : List Written := []

namespace Progress

/-- The current alternative. -/
def current (p : Progress) : Written :=
  match p.parts with
  | [s] => s
  | l => .concat l.reverse

/-- All that has been read. -/
def finish (p : Progress) : Written :=
  match p.alternatives with
  | [] => p.current
  | l => .alternatives (l ++ [p.current])

/-- Add a part. -/
def push (p : Progress) (s : Written) : Progress := { p with parts := s :: p.parts }

/-- Add what an escape stands for. -/
def pushEscape (p : Progress) : Escape → Progress
  | .letter c byte => p.push (.letter c byte)
  | .set s => p.push (.set s)
  | .mark m => p.push (.mark m)

/-- Start a new alternative. -/
def startAlternative (p : Progress) : Progress :=
  { p with alternatives := p.alternatives ++ [p.current], parts := [] }

/-- Change flags. -/
def change (p : Progress) (changes : List (Flag × Bool)) : Progress :=
  { p with verbose := (changes.lookup .verbose).getD p.verbose }

/-- The progress inside a group that starts here. -/
def inside (p : Progress) : Progress := { p with alternatives := [], parts := [] }

/-- Go on after a group, given the progress at its end. -/
def after (p inner : Progress) (s : Written) : Progress :=
  { p.push s with groups := inner.groups, names := inner.names }

/-- Repeat the last part, given what follows the repetition: a question mark makes it lazy. -/
def repeatLast? (p : Progress) (min : Nat) (max : Option Nat) (cs : List Char) :
    Option (Progress × List Char) :=
  match p.parts with
  | [] | .flags _ :: _ => none
  | s :: rest =>
    let lazy := cs.head? == some '?'
    some ({ p with parts := .repeated s min max (!lazy) :: rest }, if lazy then cs.drop 1 else cs)

end Progress

/-- How a group starts, after its parenthesis. -/
inductive GroupStart where
  | kept (name : Option (List Char))
  | scoped (changes : List (Flag × Bool))
  /-- No group, but a change of flags. -/
  | flags (changes : List (Flag × Bool))

/-- Read how a group starts. -/
def groupStart? (names : List (List Char)) : List Char → Option (GroupStart × List Char)
  | '?' :: '=' :: _ | '?' :: '!' :: _ | '?' :: '<' :: '=' :: _ | '?' :: '<' :: '!' :: _ => none
  | '?' :: 'P' :: '<' :: rest | '?' :: '<' :: rest =>
    (groupName? names rest).map fun (name, rest) => (.kept (some name), rest)
  | '?' :: rest =>
    (flags? [] true false rest).bind fun (changes, rest) =>
      match changes, rest with
      | [], ')' :: _ => none
      | changes, ')' :: rest => some (.flags changes, rest)
      | changes, _ :: rest => some (.scoped changes, rest)
      | _, [] => none
  | cs => some (.kept none, cs)

/-- Read the parts of a pattern, or of a group if `inGroup`; the parenthesis that ends a group is
dropped. -/
def parts? : Nat → Bool → Progress → List Char → Option (Progress × List Char)
  | 0, _, _, _ => none
  | fuel + 1, inGroup, p, cs =>
    let goOn : Progress × List Char → Option (Progress × List Char) := fun (p, cs) =>
      parts? fuel inGroup p cs
    match skip p.verbose cs with
    | [] => if inGroup then none else some (p, [])
    | '(' :: rest =>
      (groupStart? p.names (skip p.verbose rest)).bind fun (start, rest) =>
        match start with
        | .flags changes => goOn ((p.push (.flags changes)).change changes, rest)
        | .scoped changes =>
          (parts? fuel true (p.inside.change changes) rest).bind fun (q, rest) =>
            goOn (p.after q (.scoped changes q.finish), rest)
        | .kept name =>
          let inner := { p.inside with groups := p.groups + 1, names := name.toList ++ p.names }
          (parts? fuel true inner rest).bind fun (q, rest) =>
            goOn (p.after q (.group inner.groups q.finish), rest)
    | ')' :: rest => if inGroup then some (p, rest) else none
    | '|' :: rest => goOn (p.startAlternative, rest)
    | '[' :: rest =>
      (bracketed? p.verbose (rest.length + 1) rest).bind fun (s, rest) =>
        goOn (p.push (.set s), rest)
    | '?' :: rest => (p.repeatLast? 0 (some 1) rest).bind goOn
    | '*' :: rest => (p.repeatLast? 0 none rest).bind goOn
    | '+' :: rest => (p.repeatLast? 1 none rest).bind goOn
    | '\x7b' :: rest => (bounds? p.verbose rest).bind fun ((min, max), rest) =>
      (p.repeatLast? min max (skip p.verbose rest)).bind goOn
    | '\\' :: rest => (escape? p.verbose rest).bind fun (e, rest) => goOn (p.pushEscape e, rest)
    | '.' :: rest => goOn (p.push .dot, rest)
    | '^' :: rest => goOn (p.push (.mark .caret), rest)
    | '$' :: rest => goOn (p.push (.mark .dollar), rest)
    | c :: rest => goOn (p.push (.letter c false), rest)

/-- Read the written form of a pattern. -/
def Written.ofText? (s : String) : Option Written :=
  (parts? (s.length + 1) false {} s.toList).map fun (p, _) => p.finish

end Rollout.Pattern
