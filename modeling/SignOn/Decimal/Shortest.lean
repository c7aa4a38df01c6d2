import SignOn.Text.Split
/-!
# The shortest decimal of a binary fraction

A finite double is a whole number of powers of two.  `Decimal.shortest` gives the fewest decimal
digits that read back as the same double and, among those, the decimal nearest to it; a tie goes
to the even last digit.  `Layout` says how such a decimal is written.
-/

namespace SignOn

/-- The number `digits · 10^exponent`, with no trailing zero in `digits`. -/
structure Decimal where
  digits : Nat
  exponent : Int

namespace Decimal

/-- A positive rational, as numerator and denominator. -/
structure Ratio where
  num : Nat
  den : Nat

/-- The rational `n · 2^q`. -/
def Ratio.scaled (n : Nat) (q : Int) : Ratio :=
  if 0 ≤ q then ⟨n * Nat.pow 2 q.toNat, 1⟩ else ⟨n, Nat.pow 2 (-q).toNat⟩

/-- The rational divided by `10^k`. -/
def Ratio.overTen (r : Ratio) (k : Int) : Ratio :=
  if 0 ≤ k then ⟨r.num, r.den * Nat.pow 10 k.toNat⟩ else ⟨r.num * Nat.pow 10 (-k).toNat, r.den⟩

/-- The place of the first decimal digit, from a first guess that is off by at most two. -/
def Ratio.place (r : Ratio) : Int :=
  let bits : Int := (Nat.log2 r.num : Int) - (Nat.log2 r.den : Int)
  let guess : Int := bits * 30103 / 100000
  let fits (e : Int) : Bool := let s := r.overTen e; s.den ≤ s.num
  let candidates := [guess + 2, guess + 1, guess, guess - 1, guess - 2]
  (candidates.find? fits).getD guess

/-- A double without its sign: `mantissa · 2^exponent`, and whether the double below it is only
half as far away as the one above. -/
structure Binary where
  mantissa : Nat
  exponent : Int
  closeBelow : Bool

/-- The parts of a finite double's bit pattern. -/
def Binary.ofBits (bits : UInt64) : Binary :=
  let field : Nat := (bits.toNat / 0x10000000000000) % 0x800
  let fraction : Nat := bits.toNat % 0x10000000000000
  if field = 0 then ⟨fraction, -1074, false⟩
  else ⟨0x10000000000000 + fraction, (field : Int) - 1075, fraction = 0 && 1 < field⟩

/-- Whether `d · 10^k` rounds to the double. -/
def Binary.accepts (b : Binary) (d : Nat) (k : Int) : Bool :=
  -- both sides in units of a quarter of the last place
  let unit := (Ratio.scaled 1 (b.exponent - 2)).overTen k
  let value := d * unit.den
  let high := (4 * b.mantissa + 2) * unit.num
  let low := (4 * b.mantissa - if b.closeBelow then 1 else 2) * unit.num
  if b.mantissa % 2 = 0 then low ≤ value && value ≤ high else low < value && value < high

/-- The nearest decimal with the grid `10^k` that rounds to the double, if there is one. -/
def Binary.onGrid? (b : Binary) (k : Int) : Option Nat :=
  let r := (Ratio.scaled b.mantissa b.exponent).overTen k
  let down := r.num / r.den
  let twice := 2 * (r.num % r.den)
  let upNearer := r.den < twice || (r.den = twice && down % 2 = 1)
  match b.accepts down k, b.accepts (down + 1) k with
  | true, true => some (if upNearer then down + 1 else down)
  | true, false => some down
  | false, true => some (down + 1)
  | false, false => none

/-- Move the trailing zeros of `digits` into the exponent. -/
def normalize : Nat → Decimal → Decimal
  | 0, d => d
  | fuel + 1, d =>
    if d.digits ≠ 0 ∧ d.digits % 10 = 0 then normalize fuel ⟨d.digits / 10, d.exponent + 1⟩ else d

/-- The shortest decimal of a positive double. -/
def shortest (b : Binary) : Decimal :=
  let place := (Ratio.scaled b.mantissa b.exponent).place
  let grids : List Int := (List.range 18).map fun (n : Nat) => place - (n : Int)
  match grids.findSome? fun k => (b.onGrid? k).map fun d => (⟨d, k⟩ : Decimal) with
  | some d => normalize 400 d
  | none => ⟨b.mantissa, 0⟩

/-- How decimals are written: positional from the place `least` up to below the place `most`, with
a point always; else with one digit before the point and a signed exponent. -/
structure Layout where
  least : Int
  most : Int

/-- The written form of a positive decimal. -/
def Layout.write (layout : Layout) (d : Decimal) : String :=
  let ds := Nat.toDigits 10 d.digits
  let place : Int := d.exponent + ds.length - 1
  let zeros (n : Nat) : List Char := List.replicate n '0'
  String.ofList <|
    if layout.least ≤ place ∧ place < layout.most then
      if place < 0 then '0' :: '.' :: zeros (-place - 1).toNat ++ ds
      else
        let whole := place.toNat + 1
        if ds.length ≤ whole then ds ++ zeros (whole - ds.length) ++ ['.', '0']
        else ds.take whole ++ '.' :: ds.drop whole
    else
      let fraction := if ds.length ≤ 1 then [] else '.' :: ds.drop 1
      ds.take 1 ++ fraction ++ ['e', if place < 0 then '-' else '+'] ++
        Nat.toDigits 10 place.natAbs

/-- The written form of a finite double; zero keeps its sign. -/
def Layout.writeFloat (layout : Layout) (x : Float) : String :=
  let bits := x.toBits
  let sign := if bits.toNat / 0x8000000000000000 = 1 then "-" else ""
  let b := Binary.ofBits bits
  sign ++ if b.mantissa = 0 then "0.0" else layout.write (shortest b)

end Decimal

end SignOn
