import SignOn.Text.Split
/-!
# Durations in words

A duration is a number of nanoseconds, written as a list of numbers with units: `1h 30m`.  Reading
takes many names of units and a fraction before each; writing uses one name for each unit, the
largest units first.  Numbers stay below `2^64`, and so do the seconds of a duration.
-/

namespace SignOn.Duration

/-- The units of time. -/
inductive Scale
  | nanosecond
  | microsecond
  | millisecond
  | second
  | minute
  | hour
  | day
  | week
  | month
  | year
  deriving DecidableEq

/-- Nanoseconds in a second. -/
def perSecond : Nat := 1000000000

namespace Scale

/-- The length of a unit in nanoseconds.  A month is a twelfth of a year in even seconds. -/
def length : Scale → Nat
  | nanosecond => 1
  | microsecond => 1000
  | millisecond => 1000000
  | second => perSecond
  | minute => 60 * perSecond
  | hour => 3600 * perSecond
  | day => 86400 * perSecond
  | week => 7 * 86400 * perSecond
  | month => 2630016 * perSecond
  | year => 31557600 * perSecond

/-- The names of the units; capitals count. -/
def names : List (Scale × List String) :=
  [(nanosecond, ["nanos", "nsec", "ns"]), (microsecond, ["usec", "us", "µs"]),
   (millisecond, ["millis", "msec", "ms"]), (second, ["seconds", "second", "secs", "sec", "s"]),
   (minute, ["minutes", "minute", "min", "mins", "m"]), (hour, ["hours", "hour", "hrs", "hr", "h"]),
   (day, ["days", "day", "d"]), (week, ["weeks", "week", "wks", "wk", "w"]),
   (month, ["months", "month", "M"]), (year, ["years", "year", "yrs", "yr", "y"])]

/-- The unit with a name. -/
def ofName? (name : String) : Option Scale :=
  (names.find? fun (_, list) => list.contains name).map Prod.fst

/-- The grain in which a unit is counted: whole seconds from the second on, else nanoseconds. -/
def grain (s : Scale) : Nat := if s.length < perSecond then 1 else perSecond

/-- The grain of a fraction; that of seconds and minutes is finer. -/
def fractionGrain (s : Scale) : Nat := if s.length ≤ 60 * perSecond then 1 else perSecond

end Scale

/-- A number of 64 bits. -/
def word? (n : Nat) : Option Nat := if n < 0x10000000000000000 then some n else none

/-- Add to a duration, whose seconds are bounded. -/
def add? (total added : Nat) : Option Nat := do
  let _ ← word? ((total + added) / perSecond)
  return total + added

/-- The length of a number of units, with the fraction `numerator / denominator`. -/
def amount? (s : Scale) (n : Nat) (fraction : Option (Nat × Nat)) (total : Nat) : Option Nat := do
  let whole ← word? (n * (s.length / s.grain))
  let total ← add? total (whole * s.grain)
  match fraction with
  | none => return total
  | some (numerator, denominator) =>
    if s = .nanosecond then none
    let part ← word? (numerator * (s.length / s.fractionGrain))
    add? total (part / denominator * s.fractionGrain)

/-- A letter of a unit's name. -/
def isLetter (c : Char) : Bool := c.isAlpha || c == 'µ'

/-- Read digits, among which blanks may stand. -/
def digits (s : List Char) : List Char × List Char :=
  ((s.takeWhile fun c => c.isDigit || Text.isBlank c).filter Char.isDigit,
    s.dropWhile fun c => c.isDigit || Text.isBlank c)

/-- The value of digits, if it is a number of 64 bits. -/
def value? (digits : List Char) : Option Nat := do
  word? (← Text.digitsToNat? digits)

/-- Read a fraction behind its point. -/
def fraction? (s : List Char) : Option ((Nat × Nat) × List Char) := do
  let (ds, rest) := digits s
  return ((← value? ds, ← word? (Nat.pow 10 ds.length)), rest)

/-- Read the number of an item, with its fraction if there is a point. -/
def number? (s : List Char) : Option (Nat × Option (Nat × Nat) × List Char) := do
  let (ds, rest) := digits s
  let n ← value? ds
  match rest with
  | '.' :: rest =>
    let (fraction, rest) ← fraction? rest
    return (n, some fraction, rest)
  | rest => return (n, none, rest)

/-- Read items, each a number with a unit, and add their lengths. -/
def items? : Nat → Nat → List Char → Option Nat
  | 0, _, _ => none
  | fuel + 1, total, s => do
    let s := s.dropWhile Text.isBlank
    if s = [] then return total
    let (n, fraction, s) ← number? s
    let name := s.takeWhile isLetter
    let s := s.dropWhile isLetter
    let total ← amount? (← Scale.ofName? (String.ofList name)) n fraction total
    if s.head?.all fun c => c.isDigit || Text.isBlank c then items? fuel total s else none

/-- Read a duration; `0` needs no unit. -/
def parse? (text : String) : Option Nat :=
  let s := text.toList
  if s = ['0'] then some 0
  else if s.all Text.isBlank then none
  else items? (s.length + 1) 0 s

/-- An item, left out when it is zero. -/
def item (n : Nat) (name : String) : List String :=
  if n = 0 then [] else [toString n ++ name]

/-- An item whose unit is written in words. -/
def wordItem (n : Nat) (name : String) : List String :=
  item n (if n = 1 then name else name ++ "s")

/-- The written form of a duration. -/
def text (nanos : Nat) : String :=
  let seconds := nanos / perSecond
  let inYear := seconds % 31557600
  let inMonth := inYear % 2630016
  let inDay := inMonth % 86400
  let items :=
    wordItem (seconds / 31557600) "year" ++ wordItem (inYear / 2630016) "month" ++
      wordItem (inMonth / 86400) "day" ++ item (inDay / 3600) "h" ++ item (inDay / 60 % 60) "m" ++
      item (inDay % 60) "s" ++ item (nanos / 1000000 % 1000) "ms" ++
      item (nanos / 1000 % 1000) "us" ++ item (nanos % 1000) "ns"
  if items = [] then "0s" else " ".intercalate items

end SignOn.Duration
