import SignOn.Text.Utf8
/-!
# The elements of a certificate

A certificate is nested elements of a tag, a length and that many bytes.  There are two readers:
one takes any definite length, the other only lengths in their shortest form up to 65535.
-/

namespace SignOn.Der

/-- An element: the identifier byte and the contents. -/
structure Element where
  tag : UInt8
  body : Bytes
  deriving DecidableEq

/-- The tags in use. -/
def boolean : UInt8 := 0x01
def integer : UInt8 := 0x02
def bitString : UInt8 := 0x03
def octetString : UInt8 := 0x04
def objectId : UInt8 := 0x06
def utcTime : UInt8 := 0x17
def generalizedTime : UInt8 := 0x18
def sequence : UInt8 := 0x30
def set : UInt8 := 0x31

/-- The constructed tag `[n]` of the context. -/
def context (n : UInt8) : UInt8 := 0xA0 + n

/-- The number of a big-endian byte string. -/
def number (bytes : Bytes) : Nat :=
  bytes.foldl (fun n b => 256 * n + b.toNat) 0

/-- How lengths are read: whether longer forms than needed are taken, and the largest length. -/
structure Rules where
  shortest : Bool
  limit : Nat

/-- The rules of a reader that shows certificates. -/
def lenient : Rules := ⟨false, 0x8000000000000000⟩

/-- The rules of a reader that trusts certificates. -/
def strict : Rules := ⟨true, 0xFFFF⟩

/-- Read a length and return what follows it. -/
def length? (rules : Rules) : Bytes → Option (Nat × Bytes)
  | [] => none
  | b :: rest =>
    if b < 0x80 then some (b.toNat, rest)
    else
      let count := b.toNat - 0x80
      if count = 0 ∨ 8 < count ∨ rest.length < count then none
      else
        let n := number (rest.take count)
        let isShortest := 128 ≤ n ∧ (count = 1 ∨ Nat.pow 256 (count - 1) ≤ n)
        if rules.limit < n ∨ (rules.shortest ∧ ¬isShortest) then none
        else some (n, rest.drop count)

/-- Read an element and return what follows it.  Tags of more than one byte are not in use. -/
def element? (rules : Rules) : Bytes → Option (Element × Bytes)
  | [] => none
  | tag :: rest => do
    if tag &&& 0x1F = 0x1F then none
    else
      let (n, rest) ← length? rules rest
      if rest.length < n then none else some (⟨tag, rest.take n⟩, rest.drop n)

/-- Read the contents of an element with a given tag. -/
def expect? (rules : Rules) (tag : UInt8) (bytes : Bytes) : Option (Bytes × Bytes) := do
  let (e, rest) ← element? rules bytes
  if e.tag = tag then some (e.body, rest) else none

/-- Read an element if it has the given tag. -/
def optional? (rules : Rules) (tag : UInt8) (bytes : Bytes) : Option (Option Bytes × Bytes) :=
  if bytes.head? = some tag then
    (expect? rules tag bytes).map fun (body, rest) => (some body, rest)
  else some (none, bytes)

/-- Read elements up to the end; `fuel` is at least their number. -/
def elements? (rules : Rules) : Nat → Bytes → Option (List Element)
  | _, [] => some []
  | 0, _ => none
  | fuel + 1, bytes => do
    let (e, rest) ← element? rules bytes
    let es ← elements? rules fuel rest
    return e :: es

/-- Read all elements of a body. -/
def all? (rules : Rules) (body : Bytes) : Option (List Element) :=
  elements? rules body.length body

/-- Read elements as long as they can be read; `fuel` is at least their number. -/
def elementsWhile (rules : Rules) : Nat → Bytes → List Element
  | 0, _ => []
  | fuel + 1, bytes =>
    match element? rules bytes with
    | none => []
    | some (e, rest) => e :: elementsWhile rules fuel rest

/-- The elements at the start of a body that a reader can read. -/
def readable {α : Type} (rules : Rules) (read? : Element → Option α) (body : Bytes) : List α :=
  (((elementsWhile rules body.length body).map read?).takeWhile Option.isSome).filterMap id

/-- The numbers of an object id after its first byte: base 128, the last digit without its high
bit. -/
def arcs? (acc : Nat) : Bytes → Option (List Nat)
  | [] => some []
  | [b] => if b < 0x80 then some [128 * acc + b.toNat] else none
  | b :: rest =>
    if b < 0x80 then do return (128 * acc + b.toNat) :: (← arcs? 0 rest)
    else arcs? (128 * acc + (b.toNat - 128)) rest

/-- The numbers of an object id. -/
def objectId? (body : Bytes) : Option (List Nat) := do
  match ← arcs? 0 body with
  | [] => none
  | first :: rest =>
    if first < 40 then some (0 :: first :: rest)
    else if first < 80 then some (1 :: (first - 40) :: rest)
    else some (2 :: (first - 80) :: rest)

end SignOn.Der
