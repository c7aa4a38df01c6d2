import SignOn.Url.DomainName
import SignOn.Url.Percent
/-!
# Hosts

A host is a name, an IPv4 address or an IPv6 address.  A name whose last label is a number is an
IPv4 address or nothing: it may have fewer than four parts and write them in base eight or
sixteen.  An IPv6 address is written with its longest run of zeros left out.
-/

namespace SignOn.Url

/-- Why a text is not a URL. -/
inductive ParseError
  | relativeWithoutBase
  | emptyHost
  | invalidPort
  | invalidIpv4
  | invalidIpv6
  | invalidDomainCharacter
  | invalidInternationalName
  deriving DecidableEq, Repr

/-- The text of a parse error. -/
def ParseError.message : ParseError → String
  | .relativeWithoutBase => "relative URL without a base"
  | .emptyHost => "empty host"
  | .invalidPort => "invalid port number"
  | .invalidIpv4 => "invalid IPv4 address"
  | .invalidIpv6 => "invalid IPv6 address"
  | .invalidDomainCharacter => "invalid domain character"
  | .invalidInternationalName => "invalid international domain name"

/-- A host. -/
inductive Host
  | name (s : String)
  | ipv4 (address : Nat)
  | ipv6 (pieces : List Nat)
  deriving DecidableEq, Repr

namespace Host

/-- The value of digits in a base. -/
def digitsValue? (base : Nat) (s : List Char) : Option Nat :=
  s.foldlM (fun n c => do
    let d ← Hex.value? c
    if d < base then some (base * n + d) else none) 0

/-- Read a part of an IPv4 address: base sixteen after `0x`, base eight after `0`. -/
def ipv4Part? (s : List Char) : Option Nat :=
  match s with
  | [] => none
  | '0' :: c :: rest =>
    if c = 'x' ∨ c = 'X' then digitsValue? 16 rest else digitsValue? 8 (c :: rest)
  | s => digitsValue? 10 s

/-- The parts of a dotted name, without an empty last one. -/
def dottedParts (s : List Char) : List (List Char) :=
  let parts := Text.splitWhere (· == '.') s
  if parts.getLast? = some [] ∧ parts.length ≠ 1 then parts.dropLast else parts

/-- Whether the last label of a name is a number. -/
def endsInNumber (s : List Char) : Bool :=
  match (dottedParts s).getLast? with
  | none => false
  | some last => (last ≠ [] && last.all Char.isDigit) || (ipv4Part? last).isSome

/-- Read an IPv4 address: all parts but the last are bytes, the last fills what is left. -/
def ipv4? (s : List Char) : Option Nat := do
  let parts := dottedParts s
  if 4 < parts.length then none
  else
    let numbers ← parts.mapM ipv4Part?
    let last ← numbers.getLast?
    let first := numbers.dropLast
    if first.any (255 < ·) ∨ Nat.pow 2 (8 * (4 - first.length)) ≤ last then none
    else return first.foldl (fun n b => 256 * n + b) 0 * Nat.pow 2 (8 * (4 - first.length)) + last

/-- Read the dotted end of an IPv6 address: four bytes in base ten without leading zeros. -/
def ipv6Dotted? (s : List Char) : Option (List Nat) := do
  let parts := Text.splitWhere (· == '.') s
  let bytes ← parts.mapM fun p => do
    let n ← Text.digitsToNat? p
    if 255 < n ∨ (p.head? = some '0' ∧ p.length ≠ 1) then none else some n
  match bytes with
  | [a, b, c, d] => some [256 * a + b, 256 * c + d]
  | _ => none

/-- Read a piece of an IPv6 address: one to four digits. -/
def ipv6Piece? (s : List Char) : Option Nat :=
  if s = [] ∨ 4 < s.length then none else digitsValue? 16 s

/-- Read the pieces between colons, of which the last may be dotted. -/
def ipv6Pieces? : List (List Char) → Option (List Nat)
  | [] => some []
  | [last] =>
    if last.contains '.' then ipv6Dotted? last else (ipv6Piece? last).map fun n => [n]
  | piece :: rest => do
    let n ← ipv6Piece? piece
    let ns ← ipv6Pieces? rest
    return n :: ns

/-- The pieces of a side of `::`; an empty side has none. -/
def ipv6Side? (s : List Char) : Option (List Nat) :=
  if s = [] then some [] else ipv6Pieces? (Text.splitWhere (· == ':') s)

/-- Read an IPv6 address: eight pieces, or fewer around one `::`. -/
def ipv6? (s : List Char) : Option (List Nat) :=
  match Text.cutAtText? [':', ':'] s with
  | none => do
    let pieces ← ipv6Side? s
    if pieces.length = 8 then some pieces else none
  | some (before, after) => do
    -- a dotted end stands at the end of the address only
    if before.contains '.' then none
    else
      let a ← ipv6Side? before
      let b ← ipv6Side? after
      if a.length + b.length ≤ 7 then
        some (a ++ List.replicate (8 - a.length - b.length) 0 ++ b)
      else none

/-- The length of the run of zeros that a list starts with. -/
def zeroRun (pieces : List Nat) : Nat :=
  (pieces.takeWhile (· == 0)).length

/-- Start and length of the longest run of zeros, the first of equal ones. -/
def longestZeros (pieces : List Nat) : Nat × Nat :=
  (List.range pieces.length).foldl (fun best i =>
    let n := zeroRun (pieces.drop i)
    if best.2 < n then (i, n) else best) (0, 0)

/-- Pieces in base sixteen with colons between them. -/
def writePieces (pieces : List Nat) : String :=
  ":".intercalate (pieces.map Hex.ofNat)

/-- The text of an IPv6 address; a single zero is not left out. -/
def writeIpv6 (pieces : List Nat) : String :=
  let (start, length) := longestZeros pieces
  if length < 2 then writePieces pieces
  else writePieces (pieces.take start) ++ "::" ++ writePieces (pieces.drop (start + length))

/-- The text of an IPv4 address. -/
def writeIpv4 (n : Nat) : String :=
  ".".intercalate
    [toString (n / 0x1000000), toString (n / 0x10000 % 256), toString (n / 256 % 256),
      toString (n % 256)]

/-- The text of a host in a URL: an IPv6 address stands in brackets. -/
def write : Host → String
  | .name s => s
  | .ipv4 n => writeIpv4 n
  | .ipv6 pieces => "[" ++ writeIpv6 pieces ++ "]"

/-- Read what stands in brackets. -/
def bracketed? (s : List Char) : Except ParseError Host :=
  if s.getLast? = some ']' then
    match ipv6? (s.drop 1).dropLast with
    | some pieces => .ok (.ipv6 pieces)
    | none => .error .invalidIpv6
  else .error .invalidIpv6

/-- Read the host of a special scheme. -/
def parse (s : List Char) : Except ParseError Host :=
  if s.head? = some '[' then bracketed? s
  else
    match Utf8.decode? (Form.percentDecode (Utf8.encodeChars s)) with
    | none => .error .invalidInternationalName
    | some text =>
      match DomainName.form? text.toList with
      | none => .error .invalidInternationalName
      | some [] => .error .emptyHost
      | some form =>
        if endsInNumber form then
          match ipv4? form with
          | some n => .ok (.ipv4 n)
          | none => .error .invalidIpv4
        else .ok (.name (String.ofList form))

/-- Characters that a host of another scheme may not hold. -/
def isInvalidOpaque (c : Char) : Bool :=
  c = '\x00' || "\t\n\r #/:<>?@[\\]^|".toList.contains c

/-- Read the host of another scheme, which keeps its letters as they are. -/
def parseOpaque (s : List Char) : Except ParseError Host :=
  if s.head? = some '[' then bracketed? s
  else if s.any isInvalidOpaque then .error .invalidDomainCharacter
  else .ok (.name (String.ofList (EncodeSet.control.encode s)))

end Host

end SignOn.Url
