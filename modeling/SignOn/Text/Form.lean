import SignOn.Text.Hex
import SignOn.Text.Split
/-!
# Form encoding

The encoding of name and value pairs in a URL query and in a form body.  Letters, digits and
`*-._` stand for themselves, a space is `+`, every other byte is `%` and two digits; pairs are
joined by `&`, a name and its value by `=`.
-/

namespace SignOn.Form

/-- A byte that stands for itself. -/
def isPlain (b : UInt8) : Bool :=
  (48 ≤ b && b ≤ 57) || (65 ≤ b && b ≤ 90) || (97 ≤ b && b ≤ 122) ||
    b == 0x2A || b == 0x2D || b == 0x2E || b == 0x5F

/-- `%` and two digits. -/
def percent (b : UInt8) : List Char :=
  ['%', Hex.upperDigit (b.toNat / 16), Hex.upperDigit (b.toNat % 16)]

/-- The written form of one byte. -/
def encodeByte (b : UInt8) : List Char :=
  if isPlain b then [Char.ofNat b.toNat]
  else if b = 0x20 then ['+']
  else percent b

/-- The written form of a name or a value. -/
def encodeText (s : String) : List Char :=
  (Utf8.encode s).flatMap encodeByte

/-- The written form of a pair. -/
def encodePair (pair : String × String) : List Char :=
  encodeText pair.1 ++ '=' :: encodeText pair.2

/-- The written form of a list of pairs. -/
def encodePairs : List (String × String) → List Char
  | [] => []
  | [pair] => encodePair pair
  | pair :: next :: rest => encodePair pair ++ '&' :: encodePairs (next :: rest)

/-- The form body of a list of pairs. -/
def encode (pairs : List (String × String)) : String :=
  String.ofList (encodePairs pairs)

/-- Undo percent signs; one that two digits do not follow stands for itself. -/
def percentDecode : Bytes → Bytes
  | [] => []
  | [a] => [a]
  | [a, b] => [a, b]
  | a :: b :: c :: rest =>
    if a = 0x25 then
      match Hex.value? (Char.ofNat b.toNat), Hex.value? (Char.ofNat c.toNat) with
      | some high, some low => (16 * high + low).toUInt8 :: percentDecode rest
      | _, _ => a :: percentDecode (b :: c :: rest)
    else a :: percentDecode (b :: c :: rest)

/-- Read a name or a value; bytes that are not UTF-8 are read with the replacement character. -/
def decodeText (s : List Char) : String :=
  Utf8.decodeLossy
    (percentDecode (Utf8.encodeChars (s.map fun c => if c = '+' then ' ' else c)))

/-- Read one pair; a piece without `=` is a name with an empty value. -/
def decodePair (s : List Char) : String × String :=
  match Text.cutAt? (· == '=') s with
  | some (name, value) => (decodeText name, decodeText value)
  | none => (decodeText s, "")

/-- Read a query or a form body; empty pieces are skipped. -/
def decode (s : String) : List (String × String) :=
  ((Text.splitWhere (· == '&') s.toList).filter (· ≠ [])).map decodePair

end SignOn.Form
