/-!
# Bytes and UTF-8

A byte string is a list of bytes, so that readers recurse on it.  `Utf8.decode` reads any byte
string: each character becomes `some c`, and each maximal ill-formed piece (the longest start of a
character that the next byte breaks off, or a single byte that starts none) becomes one `none`.
The strict and the lossy reading are two views of that one list.
-/

namespace SignOn

/-- A byte string. -/
abbrev Bytes := List UInt8

namespace Utf8

/-- The UTF-8 form of one character, one to four bytes. -/
def encodeChar (c : Char) : Bytes :=
  let n := c.toNat
  if n < 0x80 then [n.toUInt8]
  else if n < 0x800 then [(0xC0 + n / 0x40).toUInt8, (0x80 + n % 0x40).toUInt8]
  else if n < 0x10000 then
    [(0xE0 + n / 0x1000).toUInt8, (0x80 + n / 0x40 % 0x40).toUInt8, (0x80 + n % 0x40).toUInt8]
  else
    [(0xF0 + n / 0x40000).toUInt8, (0x80 + n / 0x1000 % 0x40).toUInt8,
      (0x80 + n / 0x40 % 0x40).toUInt8, (0x80 + n % 0x40).toUInt8]

/-- The UTF-8 form of a list of characters. -/
def encodeChars (cs : List Char) : Bytes :=
  cs.flatMap encodeChar

/-- The UTF-8 form of a text. -/
def encode (s : String) : Bytes :=
  encodeChars s.toList

/-- A character that has begun: how many bytes are still due, the range of the next one, and the
value of the bits read so far. -/
structure Pending where
  due : Nat
  low : UInt8
  high : UInt8
  value : Nat

/-- What a byte means where a character may begin. -/
inductive Lead
  | complete (c : Char)
  | opens (p : Pending)
  | stray

/-- Classify a first byte.  The ranges of the second byte leave out overlong forms, surrogates and
values past the last code point. -/
def lead (b : UInt8) : Lead :=
  let n := b.toNat
  if n < 0x80 then .complete (Char.ofNat n)
  else if n < 0xC2 then .stray
  else if n < 0xE0 then .opens ⟨1, 0x80, 0xBF, n - 0xC0⟩
  else if n = 0xE0 then .opens ⟨2, 0xA0, 0xBF, 0⟩
  else if n = 0xED then .opens ⟨2, 0x80, 0x9F, 0xD⟩
  else if n < 0xF0 then .opens ⟨2, 0x80, 0xBF, n - 0xE0⟩
  else if n = 0xF0 then .opens ⟨3, 0x90, 0xBF, 0⟩
  else if n < 0xF4 then .opens ⟨3, 0x80, 0xBF, n - 0xF0⟩
  else if n = 0xF4 then .opens ⟨3, 0x80, 0x8F, 4⟩
  else .stray

/-- Decode after a character has possibly begun. -/
def decodeFrom : Option Pending → Bytes → List (Option Char)
  | none, [] => []
  | some _, [] => [none]
  | none, b :: rest =>
    match lead b with
    | .complete c => some c :: decodeFrom none rest
    | .opens p => decodeFrom (some p) rest
    | .stray => none :: decodeFrom none rest
  | some p, b :: rest =>
    if p.low ≤ b ∧ b ≤ p.high then
      let value := p.value * 0x40 + (b.toNat - 0x80)
      if p.due ≤ 1 then some (Char.ofNat value) :: decodeFrom none rest
      else decodeFrom (some ⟨p.due - 1, 0x80, 0xBF, value⟩) rest
    else
      none ::
        match lead b with
        | .complete c => some c :: decodeFrom none rest
        | .opens q => decodeFrom (some q) rest
        | .stray => none :: decodeFrom none rest

/-- Read a byte string, ill-formed pieces marked by `none`. -/
def decode (bytes : Bytes) : List (Option Char) :=
  decodeFrom none bytes

/-- The text of a well-formed byte string; `none` for any other. -/
def decode? (bytes : Bytes) : Option String :=
  ((decode bytes).mapM id).map String.ofList

/-- The text of any byte string, each ill-formed piece read as U+FFFD. -/
def decodeLossy (bytes : Bytes) : String :=
  String.ofList ((decode bytes).map (·.getD '\uFFFD'))

end Utf8

end SignOn
