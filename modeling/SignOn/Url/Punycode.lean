import SignOn.Text.Split
/-!
# Punycode

A label with characters outside of ASCII is written with the ASCII ones first and the others as a
list of gaps, each gap a number in a mixed base with thirty-six digits.
-/

namespace SignOn.Punycode

/-- The digits `a`–`z`, `0`–`9`. -/
def digit (n : Nat) : Char :=
  if n < 26 then Char.ofNat (97 + n) else Char.ofNat (22 + n)

/-- The value of a digit of either case. -/
def digitValue? (c : Char) : Option Nat :=
  let n := c.toNat
  if 97 ≤ n ∧ n ≤ 122 then some (n - 97)
  else if 65 ≤ n ∧ n ≤ 90 then some (n - 65)
  else if 48 ≤ n ∧ n ≤ 57 then some (n - 22)
  else none

/-- The place value correction: halve until small, then weigh. -/
def shrink : Nat → Nat → Nat → Nat
  | 0, k, delta => k + 36 * delta / (delta + 38)
  | fuel + 1, k, delta =>
    if 455 < delta then shrink fuel (k + 36) (delta / 35) else k + 36 * delta / (delta + 38)

/-- The bias after a gap of `delta`, with `points` characters written. -/
def adapt (delta points : Nat) (first : Bool) : Nat :=
  let delta := if first then delta / 700 else delta / 2
  shrink 64 0 (delta + delta / points)

/-- The least value of a last digit at place `k`. -/
def threshold (k bias : Nat) : Nat :=
  if k ≤ bias then 1 else if bias + 26 ≤ k then 26 else k - bias

/-- A gap in the mixed base.  The first number bounds the digits behind the first one, for which the
gap itself is enough. -/
def writeGap (bias : Nat) : Nat → Nat → Nat → List Char
  | 0, _, q => [digit q]
  | fuel + 1, k, q =>
    let t := threshold k bias
    if q < t then [digit q]
    else digit (t + (q - t) % (36 - t)) :: writeGap bias fuel (k + 36) ((q - t) / (36 - t))

/-- Where the writer stands between two characters. -/
structure Writer where
  delta : Nat
  bias : Nat
  handled : Nat
  reversed : List Char

/-- Write the places of the character `m` in one pass over the label. -/
def writePass (m basic : Nat) (w : Writer) (label : List Char) : Writer :=
  label.foldl (fun w c =>
    if c.toNat < m then { w with delta := w.delta + 1 }
    else if c.toNat = m then
      { delta := 0
        bias := adapt w.delta (w.handled + 1) (w.handled = basic)
        handled := w.handled + 1
        reversed := (writeGap w.bias w.delta 36 w.delta).reverse ++ w.reversed }
    else w) w

/-- Write the characters from `n` on, smallest first. -/
def writeFrom (label : List Char) (basic : Nat) : Nat → Nat → Writer → Writer
  | 0, _, w => w
  | fuel + 1, n, w =>
    let left := label.filter (n ≤ ·.toNat)
    match left with
    | [] => w
    | c :: cs =>
      let m := cs.foldl (fun m c => min m c.toNat) c.toNat
      let w := writePass m basic { w with delta := w.delta + (m - n) * (w.handled + 1) } label
      writeFrom label basic fuel (m + 1) { w with delta := w.delta + 1 }

/-- The Punycode form of a label. -/
def encode (label : List Char) : List Char :=
  let basic := label.filter (·.toNat < 128)
  let start := if basic = [] then [] else basic ++ ['-']
  let w := writeFrom label basic.length label.length 128 ⟨0, 72, basic.length, []⟩
  start ++ w.reversed.reverse

/-- Read one gap: its value and the characters after it. -/
def readGap? (bias : Nat) : Nat → Nat → Nat → List Char → Option (Nat × List Char)
  | _, _, _, [] => none
  | k, weight, i, c :: rest => do
    let d ← digitValue? c
    let i := i + d * weight
    let t := threshold k bias
    if d < t then return (i, rest) else readGap? bias (k + 36) (weight * (36 - t)) i rest

/-- Put the characters of the gaps in their places. -/
def readFrom? : Nat → Nat → Nat → Nat → List Char → List Char → Option (List Char)
  | _, _, _, _, [], out => some out
  | 0, _, _, _, _ :: _, _ => none
  | fuel + 1, n, i, bias, rest, out => do
    let (next, rest) ← readGap? bias 36 1 i rest
    let count := out.length + 1
    let n := n + next / count
    let place := next % count
    if 0x110000 ≤ n ∨ (0xD800 ≤ n ∧ n < 0xE000) then none
    else
      readFrom? fuel n (place + 1) (adapt (next - i) count (i = 0))
        rest (out.take place ++ Char.ofNat n :: out.drop place)

/-- The label of a Punycode form. -/
def decode? (form : List Char) : Option (List Char) :=
  match Text.cutAtLast? (· == '-') form with
  | some (basic, rest) => readFrom? form.length 128 0 72 rest basic
  | none => readFrom? form.length 128 0 72 form []

end SignOn.Punycode
