import SignOn.Yaml.Node
import SignOn.Json.Basic
/-!
# What a YAML text means

A document of settings is a mapping.  Plain scalars are `null`, truth values and numbers when they
look like them; all others, and all scalars in quotes or blocks, are texts.
-/

namespace SignOn.Yaml

/-- Digits in a base. -/
def digits? (base : Nat) (s : List Char) : Option Nat := do
  if s = [] then none
  let values ← s.mapM Hex.value?
  if values.all (· < base) then some (values.foldl (fun n d => base * n + d) 0) else none

/-- The bases that a number may name. -/
def bases : List (Char × Nat) := [('x', 16), ('o', 8), ('b', 2)]

/-- A number without a sign: with the mark of a base, or in decimal digits. -/
def natural? (s : List Char) : Option Nat :=
  match s with
  | '0' :: mark :: ds =>
    match bases.lookup mark with
    | some base => digits? base ds
    | none => digits? 10 s
  | _ => digits? 10 s

/-- Several digits that begin with zero are a text. -/
def isZeroLed : List Char → Bool
  | '0' :: d :: ds => (d :: ds).all Char.isDigit
  | _ => false

/-- The sign of a number, and what follows it. -/
def signed : List Char → Option Bool × List Char
  | '+' :: s => (some false, s)
  | '-' :: s => (some true, s)
  | s => (none, s)

/-- A whole number, of 128 bits at most. -/
def int? (s : List Char) : Option Json.Number := do
  let (sign, ds) := signed s
  if isZeroLed ds then none
  let n ← natural? ds
  if sign = some true then
    if n ≤ 0x80000000000000000000000000000000 then some (.minus n) else none
  else if n < 0x100000000000000000000000000000000 then some (.int n) else none

/-- The exponent of a written number. -/
def exponent? (s : List Char) : Option Int :=
  match s with
  | [] => some 0
  | c :: s =>
    if c = 'e' ∨ c = 'E' then
      let (sign, ds) := signed s
      (Text.digitsToNat? ds).map fun n => if sign = some true then -(n : Int) else n
    else none

/-- The double nearest to `n · 10^e`.  Far outside of the range of doubles the exponent is brought
nearer to it, which changes nothing. -/
def nearest (n : Nat) (e : Int) : Float :=
  let digits : Int := (toString n).length
  if n = 0 ∨ e + digits < -400 then 0.0
  else if 400 < e + digits then Float.ofScientific 1 false 400
  else if e < 0 then Float.ofScientific n true e.natAbs else Float.ofScientific n false e.toNat

/-- A decimal number: digits with a point among them or not, and an exponent.  One beyond the range
of doubles is infinite. -/
def decimal? (s : List Char) : Option Float := do
  let (sign, s) := signed s
  let whole := s.takeWhile Char.isDigit
  let s := s.drop whole.length
  let (fraction, s) := match s with
    | '.' :: s => (s.takeWhile Char.isDigit, s.dropWhile Char.isDigit)
    | s => ([], s)
  let n ← Text.digitsToNat? (whole ++ fraction)
  let e ← exponent? s
  let x := nearest n (e - fraction.length)
  return if sign = some true then -x else x

/-- Infinity and no number. -/
def special? (s : String) : Option Float :=
  let infinity : Float := 1.0 / 0.0
  if [".inf", ".Inf", ".INF", "+.inf", "+.Inf", "+.INF"].contains s then some infinity
  else if ["-.inf", "-.Inf", "-.INF"].contains s then some (-infinity)
  else if [".nan", ".NaN", ".NAN"].contains s then some (0.0 / 0.0)
  else none

/-- A number that is not whole, or has more than 128 bits.  One in digits has to be finite. -/
def float? (s : String) : Option Float :=
  match special? s with
  | some x => some x
  | none =>
    if isZeroLed (signed s.toList).2 then none else (decimal? s.toList).filter Float.isFinite

/-- The texts of nothing. -/
def isNull (s : String) : Bool := ["", "null", "Null", "NULL", "~"].contains s

/-- The texts of truth values. -/
def bool? (s : String) : Option Bool :=
  if ["true", "True", "TRUE"].contains s then some true
  else if ["false", "False", "FALSE"].contains s then some false
  else none

/-- What a plain scalar means. -/
def plainValue (s : String) : Json :=
  if isNull s then .null
  else
    match bool? s, int? s.toList, float? s with
    | some b, _, _ => .bool b
    | _, some n, _ => .num n
    | _, _, some x => .num (.float x)
    | _, _, _ => .str s

/-- What a scalar means.  A tag of the core schema decides how it is read; there are no others. -/
def scalarValue? (tag : Option String) (s : String) (isPlain : Bool) : Option Json :=
  match tag with
  | none => some (if isPlain then plainValue s else .str s)
  | some tag =>
    if tag = "tag:yaml.org,2002:bool" then (bool? s).map .bool
    else if tag = "tag:yaml.org,2002:int" then (int? s.toList).map .num
    else if tag = "tag:yaml.org,2002:float" then (float? s).map fun x => .num (.float x)
    else if tag = "tag:yaml.org,2002:null" then if isNull s ∧ s ≠ "" then some .null else none
    else if Text.startsWith "!" tag then none
    else some (.str s)

/-- The values of the anchors so far; an anchor whose node is still open has none. -/
abbrev Anchors := List (String × Option Json)

/-- Note an anchor, if a node has one. -/
def Anchors.note (anchors : Anchors) (name : Option String) (v : Option Json) : Anchors :=
  match name with
  | some name => (name, v) :: anchors
  | none => anchors

/-- Whether a collection may have this tag. -/
def isCollectionTag (tag : Option String) : Bool :=
  tag.all fun t => !Text.startsWith "!" t

namespace Node

/-- The name of a member: the text of any scalar. -/
def name? (anchors : Anchors) : Node → Option (String × Anchors)
  | .scalar p text _ => some (text, anchors.note p.anchor (some (.str text)))
  | .reference name => do return (← (← ← anchors.lookup name).str?, anchors)
  | _ => none

mutual

/-- What a node means, to a bounded depth. -/
def value? : Nat → Node → Anchors → Option (Json × Anchors)
  | _, .reference name, anchors => do return (← ← anchors.lookup name, anchors)
  | _, .scalar p text isPlain, anchors => do
    let v ← scalarValue? p.tag text isPlain
    return (v, anchors.note p.anchor (some v))
  | 0, _, _ => none
  | depth + 1, .sequence p items, anchors => do
    if ¬isCollectionTag p.tag then none
    let (vs, anchors) ← items? depth items (anchors.note p.anchor none)
    return (.arr vs, anchors.note p.anchor (some (.arr vs)))
  | depth + 1, .mapping p pairs, anchors => do
    if ¬isCollectionTag p.tag then none
    let (members, anchors) ← members? depth pairs [] (anchors.note p.anchor none)
    return (.obj members, anchors.note p.anchor (some (.obj members)))

/-- What the items of a sequence mean. -/
def items? : Nat → List Node → Anchors → Option (List Json × Anchors)
  | _, [], anchors => some ([], anchors)
  | depth, node :: rest, anchors => do
    let (v, anchors) ← value? depth node anchors
    let (vs, anchors) ← items? depth rest anchors
    return (v :: vs, anchors)

/-- What the pairs of a mapping mean, the last of equal names counting. -/
def members? : Nat → List (Node × Node) → List (String × Json) → Anchors →
    Option (List (String × Json) × Anchors)
  | _, [], members, anchors => some (members, anchors)
  | depth, (key, node) :: rest, members, anchors => do
    let (name, anchors) ← key.name? anchors
    let (v, anchors) ← value? depth node anchors
    members? depth rest (Json.insertMember name v members) anchors

end

end Node

/-- How deep a document may be nested. -/
def depthLimit : Nat := 128

/-- The members of a document of settings; an empty one has none. -/
def settings? (text : String) : Option (List (String × Json)) := do
  match ← Node.ofText? text with
  | none => return []
  | some (.scalar _ "" true) => return []
  | some (.mapping p pairs) =>
    let (members, _) ← Node.members? (depthLimit - 1) pairs [] (Anchors.note [] p.anchor none)
    return members
  | some _ => none

end SignOn.Yaml
