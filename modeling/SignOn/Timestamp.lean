import SignOn.Calendar
/-!
# Timestamps

A point in time to the nanosecond, written as date and time of day in UTC.  The reader is liberal:
it takes any offset, short numbers and a blank between date and time; the writer is not, and
writes three, six or nine digits of a fraction, or none.
-/

namespace SignOn

namespace Timestamp

/-- The first second of the year -262143. -/
def earliest : Int := Calendar.dayOf (-262143) 1 1 * 86400

/-- The second after the year 262142. -/
def horizon : Int := Calendar.dayOf 262143 1 1 * 86400

end Timestamp

/-- A point in time: whole seconds since 1970 and nanoseconds.  A billion nanoseconds or more stand
for a leap second, which follows the last second of a minute. -/
structure Timestamp where
  seconds : Int
  nanos : Nat
  nanos_lt : nanos < 2000000000
  leap : 1000000000 ≤ nanos → seconds % 60 = 59
  earliest_le : Timestamp.earliest ≤ seconds
  lt_horizon : seconds < Timestamp.horizon
  deriving DecidableEq

namespace Timestamp

/-- A point in time in whole seconds; outside of the range it is the nearest one inside. -/
def ofUnix (seconds : Int) : Timestamp :=
  ⟨max earliest (min seconds (horizon - 1)), 0, by decide, by omega, by omega, by
    have hrange : earliest < horizon := by decide
    omega⟩

/-- Put a point in time together, if it is one. -/
def ofParts? (seconds : Int) (nanos : Nat) : Option Timestamp :=
  if h : nanos < 2000000000 ∧ (1000000000 ≤ nanos → seconds % 60 = 59) ∧
      earliest ≤ seconds ∧ seconds < horizon then
    some ⟨seconds, nanos, h.1, h.2.1, h.2.2.1, h.2.2.2⟩
  else none

/-- The year; outside of four digits it has a sign. -/
def yearText (year : Int) : String :=
  if 0 ≤ year ∧ year ≤ 9999 then Text.padded 4 year.toNat
  else (if year < 0 then "-" else "+") ++ Text.padded 4 year.natAbs

/-- The fraction of a second: no digits, three, six or nine, as few as say it exactly. -/
def fractionText (nanos : Nat) : String :=
  if nanos = 0 then ""
  else if nanos % 1000000 = 0 then "." ++ Text.padded 3 (nanos / 1000000)
  else if nanos % 1000 = 0 then "." ++ Text.padded 6 (nanos / 1000)
  else "." ++ Text.padded 9 nanos

/-- Date and time of day, without an offset. -/
def localText (t : Timestamp) : String :=
  let two := Text.padded 2
  let (year, month, day) := Calendar.dateOf (t.seconds / 86400)
  let second := (t.seconds % 86400).toNat
  let shown := second % 60 + t.nanos / 1000000000
  yearText year ++ "-" ++ two month ++ "-" ++ two day ++ "T" ++ two (second / 3600) ++ ":" ++
    two (second / 60 % 60) ++ ":" ++ two shown ++ fractionText (t.nanos % 1000000000)

/-- The written form. -/
def text (t : Timestamp) : String :=
  t.localText ++ "Z"

/-- The written form with the offset in numbers. -/
def offsetText (t : Timestamp) : String :=
  t.localText ++ "+00:00"

/-- Read a number of at most `width` digits behind blanks. -/
def number? (width : Nat) (s : List Char) : Option (Nat × List Char) := do
  let s := s.dropWhile Text.isBlank
  let digits := (s.take width).takeWhile Char.isDigit
  return (← Text.digitsToNat? digits, s.drop digits.length)

/-- Read a year: four digits at most, or any number of them behind a sign. -/
def year? (s : List Char) : Option (Int × List Char) :=
  match s.dropWhile Text.isBlank with
  | '-' :: rest =>
    if rest.head?.any Char.isDigit then
      (number? rest.length rest).map fun (n, rest) => (-(n : Int), rest)
    else none
  | '+' :: rest =>
    if rest.head?.any Char.isDigit then
      (number? rest.length rest).map fun (n, rest) => ((n : Int), rest)
    else none
  | s => (number? 4 s).map fun (n, rest) => ((n : Int), rest)

/-- Read a mark behind blanks. -/
def mark? (c : Char) (s : List Char) : Option (List Char) :=
  match s.dropWhile Text.isBlank with
  | d :: rest => if d = c then some rest else none
  | [] => none

/-- Read a fraction if a point stands there; digits behind the ninth do not count. -/
def fraction? : List Char → Option (Nat × List Char)
  | '.' :: s => do
    let digits := (s.take 9).takeWhile Char.isDigit
    let n ← Text.digitsToNat? digits
    return (n * Nat.pow 10 (9 - digits.length), s.dropWhile Char.isDigit)
  | s => some (0, s)

/-- Read the hours and minutes of an offset, in seconds. -/
def offsetSize? (s : List Char) : Option (Int × List Char) :=
  match s with
  | a :: b :: s => do
    let hours ← Text.digitsToNat? [a, b]
    match s.dropWhile fun c => c == ':' || Text.isBlank c with
    | c :: d :: rest => do
      let minutes ← Text.digitsToNat? [c, d]
      if 59 < minutes ∨ 23 < hours then none
      else return (hours * 3600 + minutes * 60, rest)
    | _ => none
  | _ => none

/-- Read an offset in seconds: `Z`, `UTC`, or a sign with hours and minutes. -/
def offset? (s : List Char) : Option (Int × List Char) :=
  if (s.take 3).map Char.toUpper = ['U', 'T', 'C'] then some (0, s.drop 3)
  else
    match s with
    | 'Z' :: rest | 'z' :: rest => some (0, rest)
    | '+' :: rest => offsetSize? rest
    | '-' :: rest | '−' :: rest => (offsetSize? rest).map fun (n, rest) => (-n, rest)
    | _ => none

/-- Read a date: its day, counted from 1970. -/
def date? (s : List Char) : Option (Int × List Char) := do
  let (year, s) ← year? s
  let (month, s) ← number? 2 (← mark? '-' s)
  let (day, s) ← number? 2 (← mark? '-' s)
  if -262143 ≤ year ∧ year ≤ 262142 ∧ Calendar.isDate year month day then
    return (Calendar.dayOf year month day, s)
  else none

/-- Read a time of day: its second and its nanoseconds. -/
def timeOfDay? (s : List Char) : Option (Nat × Nat × List Char) := do
  let (hour, s) ← number? 2 s
  let (minute, s) ← number? 2 (← mark? ':' s)
  let (second, s) ← number? 2 (← mark? ':' s)
  let (nanos, s) ← fraction? s
  if 23 < hour ∨ 59 < minute ∨ 60 < second then none
  else if second = 60 then return (hour * 3600 + minute * 60 + 59, nanos + 1000000000, s)
  else return (hour * 3600 + minute * 60 + second, nanos, s)

/-- Read a point in time. -/
def parse? (text : String) : Option Timestamp := do
  let (day, s) ← date? text.toList
  match s with
  | c :: s =>
    if c ≠ 'T' ∧ c ≠ 't' ∧ c ≠ ' ' then none
    else
      let (second, nanos, s) ← timeOfDay? s
      let (offset, s) ← offset? (s.dropWhile Text.isBlank)
      if s.all Text.isBlank then ofParts? (day * 86400 + second - offset) nanos else none
  | [] => none

end Timestamp

end SignOn
