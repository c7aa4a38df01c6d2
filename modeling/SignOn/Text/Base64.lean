import SignOn.Text.Utf8
/-!
# Base64

Two alphabets, two uses.  The standard alphabet is written and read with its `=` padding, the
URL-safe one without.  Both readers are canonical: they refuse a character outside the alphabet, a
length that no byte string has, and a last digit whose unused bits are not zero.
-/

namespace SignOn.Base64

/-- The digits for 62 and 63; the other sixty-two are common. -/
structure Alphabet where
  plus : Char
  slash : Char

/-- The alphabet of certificates and headers. -/
def standard : Alphabet := ⟨'+', '/'⟩

/-- The alphabet of tokens and keys. -/
def urlSafe : Alphabet := ⟨'-', '_'⟩

/-- The digit of a value below sixty-four. -/
def Alphabet.digit (a : Alphabet) (n : Nat) : Char :=
  if n < 26 then Char.ofNat (65 + n)
  else if n < 52 then Char.ofNat (71 + n)
  else if n < 62 then Char.ofNat (n - 4)
  else if n = 62 then a.plus
  else a.slash

/-- The value of a digit. -/
def Alphabet.value? (a : Alphabet) (c : Char) : Option Nat :=
  let n := c.toNat
  if 65 ≤ n ∧ n ≤ 90 then some (n - 65)
  else if 97 ≤ n ∧ n ≤ 122 then some (n - 71)
  else if 48 ≤ n ∧ n ≤ 57 then some (n + 4)
  else if c = a.plus then some 62
  else if c = a.slash then some 63
  else none

/-- Digits without padding: three bytes are four digits, a rest of one byte is two, a rest of two
bytes is three. -/
def encodeBare (a : Alphabet) : Bytes → List Char
  | [] => []
  | [x] => [a.digit (x.toNat / 4), a.digit (x.toNat % 4 * 16)]
  | [x, y] =>
    [a.digit (x.toNat / 4), a.digit (x.toNat % 4 * 16 + y.toNat / 16),
      a.digit (y.toNat % 16 * 4)]
  | x :: y :: z :: rest =>
    a.digit (x.toNat / 4) :: a.digit (x.toNat % 4 * 16 + y.toNat / 16) ::
      a.digit (y.toNat % 16 * 4 + z.toNat / 64) :: a.digit (z.toNat % 64) :: encodeBare a rest

/-- The padding that completes the last group of four digits. -/
def padding (length : Nat) : List Char :=
  if length % 3 = 1 then ['=', '='] else if length % 3 = 2 then ['='] else []

/-- Read digits without padding. -/
def decodeBare? (a : Alphabet) : List Char → Option Bytes
  | [] => some []
  | [_] => none
  | [p, q] => do
    let p ← a.value? p
    let q ← a.value? q
    if q % 16 = 0 then some [(p * 4 + q / 16).toUInt8] else none
  | [p, q, r] => do
    let p ← a.value? p
    let q ← a.value? q
    let r ← a.value? r
    if r % 4 = 0 then some [(p * 4 + q / 16).toUInt8, (q % 16 * 16 + r / 4).toUInt8] else none
  | p :: q :: r :: s :: rest => do
    let p ← a.value? p
    let q ← a.value? q
    let r ← a.value? r
    let s ← a.value? s
    let bytes ← decodeBare? a rest
    return (p * 4 + q / 16).toUInt8 :: (q % 16 * 16 + r / 4).toUInt8 ::
      (r % 4 * 64 + s).toUInt8 :: bytes

/-- Standard base64 with padding. -/
def encode (bytes : Bytes) : String :=
  String.ofList (encodeBare standard bytes ++ padding bytes.length)

/-- Read standard base64; the padding must be there and must be exact. -/
def decode? (s : String) : Option Bytes :=
  let chars := s.toList
  let digits := chars.takeWhile (· ≠ '=')
  if chars.length % 4 = 0 then do
    let bytes ← decodeBare? standard digits
    if chars.drop digits.length = padding bytes.length then some bytes else none
  else none

/-- Why a text is not base64 of the URL-safe kind. -/
inductive Fault
  | symbol (byte offset : Nat)
  | length (n : Nat)
  | lastSymbol (byte offset : Nat)
  deriving DecidableEq, Repr

/-- The text of a fault. -/
def Fault.message : Fault → String
  | symbol byte offset =>
    "Invalid symbol " ++ toString byte ++ ", offset " ++ toString offset ++ "."
  | length n => "Invalid input length: " ++ toString n
  | lastSymbol byte offset =>
    "Invalid last symbol " ++ toString byte ++ ", offset " ++ toString offset ++ "."

/-- The first fault of a text that cannot be read: a byte outside of the alphabet, a length that
no byte string has, or a last digit with unused bits. -/
def faultOf (a : Alphabet) (bytes : Bytes) : Fault :=
  match bytes.zipIdx.find? fun (b, _) => (a.value? (Char.ofNat b.toNat)).isNone with
  | some (b, offset) => .symbol b.toNat offset
  | none =>
    if bytes.length % 4 = 1 then .length bytes.length
    else .lastSymbol ((bytes.getLast?.map UInt8.toNat).getD 0) (bytes.length - 1)

/-- URL-safe base64 without padding. -/
def encodeUrl (bytes : Bytes) : String :=
  String.ofList (encodeBare urlSafe bytes)

/-- Read URL-safe base64 that carries no padding. -/
def decodeUrl? (s : String) : Option Bytes :=
  decodeBare? urlSafe s.toList

/-- Read URL-safe base64 that carries no padding, or say what is wrong with it. -/
def decodeUrl (s : String) : Except Fault Bytes :=
  match decodeUrl? s with
  | some bytes => .ok bytes
  | none => .error (faultOf urlSafe (Utf8.encode s))

end SignOn.Base64
