/-!
# Instants

Points in time as a day and a time of the day in UTC, to the nanosecond. They are given in
milliseconds since 1970 or in the form of RFC 3339 (`Instant.ofRfc3339?`). A leap second is the last
second of its minute with nanoseconds past a whole second.
-/

namespace Rollout

/-- A point in time. -/
structure Instant where
  /-- Days since 1 January 1970. -/
  day : Int
  /-- Seconds since midnight. -/
  second : Nat
  /-- Nanoseconds, from 10⁹ on within a leap second. -/
  nanosecond : Nat
  deriving Repr, DecidableEq

namespace Instant

/-- How two instants follow each other. -/
def order (a b : Instant) : Ordering :=
  (compare a.day b.day).then ((compare a.second b.second).then (compare a.nanosecond b.nanosecond))

/-! ### Calendar -/

/-- Whether a year has a 29 February. -/
def isLeapYear (y : Int) : Bool := y % 4 == 0 && (y % 100 != 0 || y % 400 == 0)

/-- The number of days of a month. -/
def daysInMonth (y : Int) : Nat → Nat
  | 2 => if isLeapYear y then 29 else 28
  | 4 | 6 | 9 | 11 => 30
  | _ => 31

/-- The day of a date, counted from 1 January 1970. Years begin in March here, so that the leap day
is the last day of a year. -/
def dayOfDate (y : Int) (m d : Nat) : Int :=
  let y := if m ≤ 2 then y - 1 else y
  let era := y / 400
  let yearOfEra := y - era * 400
  let dayOfYear : Int := (153 * ((m + 9) % 12) + 2) / 5 + d - 1
  era * 146097 + (yearOfEra * 365 + yearOfEra / 4 - yearOfEra / 100 + dayOfYear) - 719468

/-- The first and the last day that can be named. -/
def dayRange : Int × Int := (dayOfDate (-262143) 1 1, dayOfDate 262142 12 31)

/-- The instant of a number of milliseconds since 1970. -/
def ofMilliseconds? (ms : Int) : Option Instant :=
  let day := ms / 86400000
  let rest := (ms % 86400000).toNat
  if dayRange.1 ≤ day ∧ day ≤ dayRange.2 then
    some { day, second := rest / 1000, nanosecond := rest % 1000 * 1000000 }
  else none

/-! ### RFC 3339 -/

/-- A number of exactly `n` digits, and the rest. -/
def digits? (n : Nat) (cs : List Char) : Option (Nat × List Char) :=
  let ds := cs.take n
  if ds.length = n ∧ ds.all Char.isDigit then
    some (ds.foldl (fun v c => 10 * v + (c.toNat - 48)) 0, cs.drop n)
  else none

/-- Drop a given character. -/
def expect? (c : Char) : List Char → Option (List Char)
  | d :: rest => if d = c then some rest else none
  | [] => none

/-- The fraction of a second after a point, in nanoseconds; further digits are dropped. -/
def fraction? : List Char → Option (Nat × List Char)
  | '.' :: rest =>
    let ds := rest.takeWhile Char.isDigit
    let kept := ds.take 9
    if ds.isEmpty then none
    else some (kept.foldl (fun v c => 10 * v + (c.toNat - 48)) 0 * Nat.pow 10 (9 - kept.length),
      rest.drop ds.length)
  | cs => some (0, cs)

/-- The offset from UTC in seconds, which ends the text. -/
def offset? : List Char → Option Int
  | ['Z'] | ['z'] => some 0
  | sign :: rest => do
    let negative ← if sign = '+' then some false
      else if sign = '-' ∨ sign = '−' then some true else none
    let (h, rest) ← digits? 2 rest
    let rest ← expect? ':' rest
    let (m, rest) ← digits? 2 rest
    if m ≥ 60 ∨ h ≥ 24 ∨ rest ≠ [] then none
    else some (if negative then -(h * 3600 + m * 60 : Nat) else (h * 3600 + m * 60 : Nat))
  | [] => none

/-- The instant of a date and time with an offset. -/
def ofRfc3339? (s : String) : Option Instant := do
  let (year, cs) ← digits? 4 s.toList
  let cs ← expect? '-' cs
  let (month, cs) ← digits? 2 cs
  let cs ← expect? '-' cs
  let (dayOfMonth, cs) ← digits? 2 cs
  let cs ← match cs with
    | 'T' :: r | 't' :: r | ' ' :: r => some r
    | _ => none
  let (hour, cs) ← digits? 2 cs
  let cs ← expect? ':' cs
  let (minute, cs) ← digits? 2 cs
  let cs ← expect? ':' cs
  let (sec, cs) ← digits? 2 cs
  let (nanos, cs) ← fraction? cs
  let offset ← offset? cs
  if month = 0 ∨ month > 12 ∨ dayOfMonth = 0 ∨ dayOfMonth > daysInMonth year month ∨ hour ≥ 24 ∨
      minute ≥ 60 ∨ sec > 60 then none
  else
    let leap := sec = 60
    let civil : Int := dayOfDate year month dayOfMonth * 86400 + hour * 3600 + minute * 60 +
      (if leap then 59 else sec)
    let utc := civil - offset
    some {
      day := utc / 86400
      second := (utc % 86400).toNat
      nanosecond := nanos + if leap then 1000000000 else 0 }

end Instant

end Rollout
