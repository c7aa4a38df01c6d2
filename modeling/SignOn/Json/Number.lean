import SignOn.Json.Basic
/-!
# Reading JSON numbers

A number without point and exponent that fits in 64 bits is read exactly; `-0` and all others
become doubles.  The double is read in the fast way: the digits run into a 64-bit significand,
digits that it cannot hold are dropped (those before the point raise the exponent), and one
multiplication or division by a power of ten follows.  A result past the largest double is no
number.
-/

namespace SignOn.Json.Number

/-- The parts of a number as written. -/
structure Parts where
  negative : Bool
  whole : List Char
  fraction : List Char
  hasFraction : Bool
  exponent : Option (Bool × List Char)

/-- The digits of an exponent after its sign; true for a minus sign. -/
def exponentParts? : List Char → Option (Bool × List Char)
  | '+' :: ds => if ds ≠ [] ∧ ds.all Char.isDigit then some (false, ds) else none
  | '-' :: ds => if ds ≠ [] ∧ ds.all Char.isDigit then some (true, ds) else none
  | ds => if ds ≠ [] ∧ ds.all Char.isDigit then some (false, ds) else none

/-- The exponent part of what follows the digits: nothing, or `e` and an exponent. -/
def tailParts? : List Char → Option (Option (Bool × List Char))
  | [] => some none
  | c :: rest => if c = 'e' ∨ c = 'E' then (exponentParts? rest).map some else none

/-- Take a written number apart; `none` when the word is not one. -/
def parts? (word : List Char) : Option Parts := do
  let negative := word.head? == some '-'
  let body := if negative then word.drop 1 else word
  let whole := body.takeWhile Char.isDigit
  let rest := body.dropWhile Char.isDigit
  if whole = [] ∨ (whole.head? = some '0' ∧ whole.length ≠ 1) then none
  else
    match rest with
    | '.' :: more =>
      let fraction := more.takeWhile Char.isDigit
      if fraction = [] then none
      else
        let exponent ← tailParts? (more.dropWhile Char.isDigit)
        return ⟨negative, whole, fraction, true, exponent⟩
    | _ =>
      let exponent ← tailParts? rest
      return ⟨negative, whole, [], false, exponent⟩

/-- The value of a digit. -/
def digitValue (c : Char) : Nat := c.toNat - 48

/-- The largest value of the significand. -/
def limit : Nat := 0xffffffffffffffff

/-- Run digits into the significand while they fit; what is left is returned. -/
def accumulate (significand : Nat) : List Char → Nat × List Char
  | [] => (significand, [])
  | c :: rest =>
    let next := 10 * significand + digitValue c
    if next ≤ limit then accumulate next rest else (significand, c :: rest)

/-- The bound on a 32-bit exponent. -/
def exponentLimit : Nat := 0x7fffffff

/-- A power of ten that a double holds. -/
def tenTo (e : Nat) : Float := Float.ofScientific 1 false e

/-- Divide by powers of ten that a double holds, `10^308` at a time. -/
def divideByTen : Nat → Float → Nat → Float
  | 0, x, _ => x
  | fuel + 1, x, e =>
    if e ≤ 308 then x / tenTo e
    else if x == 0 then x
    else divideByTen fuel (x / tenTo 308) (e - 308)

/-- `significand · 10^e` as a double; `none` past the largest one. -/
def scaled? (significand : Nat) (e : Int) : Option Float :=
  let x := significand.toUInt64.toFloat
  if e < 0 then some (divideByTen 8 x e.natAbs)
  else if e ≤ 308 then
    let y := x * tenTo e.toNat
    if y.isInf then none else some y
  else if x == 0 then some x
  else none

/-- The value of a written number; `none` when it is out of range. -/
def Parts.value? (p : Parts) : Option Number :=
  let (whole, dropped) := accumulate 0 p.whole
  let signed (x : Float) : Number := .float (if p.negative then -x else x)
  let raised : Int := dropped.length
  if dropped = [] ∧ ¬p.hasFraction ∧ p.exponent.isNone then
    if ¬p.negative then some (.int whole)
    else if whole ≠ 0 ∧ whole ≤ 0x8000000000000000 then some (.int (-whole))
    else some (signed whole.toUInt64.toFloat)
  else
    let (significand, left) := accumulate whole p.fraction
    let taken : Int := (p.fraction.length : Int) - left.length
    let start := raised - taken
    match p.exponent with
    | none => (scaled? significand start).map signed
    | some (down, digits) =>
      let e := digits.foldl (fun n c => 10 * n + digitValue c) 0
      if exponentLimit < e then
        if significand ≠ 0 ∧ ¬down then none else some (signed 0.0)
      else (scaled? significand (if down then start - e else start + e)).map signed

end SignOn.Json.Number
