import SignOn.Certificate.Name
import SignOn.Calendar
/-!
# One line about a certificate

Subject, issuer and end of validity of a certificate, for listings.  The reader is lenient: bytes
behind the certificate do not count.
-/

namespace SignOn.Certificate

/-- A point in time with its offset from UTC in minutes. -/
structure Time where
  year : Nat
  month : Nat
  day : Nat
  hour : Nat
  minute : Nat
  second : Nat
  offset : Int

/-- The text of a time. -/
def Time.text (t : Time) : String :=
  let two := Text.padded 2
  let day := if t.day < 10 then " " ++ toString t.day else toString t.day
  let sign := if t.offset < 0 then "-" else "+"
  Calendar.monthName t.month ++ " " ++ day ++ " " ++ two t.hour ++ ":" ++ two t.minute ++ ":" ++
    two t.second ++ " " ++ toString t.year ++ " " ++ sign ++ two (t.offset.natAbs / 60) ++ ":" ++
    two (t.offset.natAbs % 60)

/-- Read `count` decimal digits and return what follows them. -/
def digits? (count : Nat) (s : List Char) : Option (Nat × List Char) := do
  let ds := s.take count
  if ds.length = count then return (← Text.digitsToNat? ds, s.drop count) else none

/-- Read an offset from UTC: `Z`, or a sign with hours and minutes.  The sign is that of the hours,
so it does not count when they are zero. -/
def offset? : List Char → Option Int
  | ['Z'] => some 0
  | c :: rest => do
    let (h, rest) ← digits? 2 rest
    let (m, rest) ← digits? 2 rest
    if rest ≠ [] ∨ 25 < h ∨ 59 < m then none
    else if c = '+' then some (60 * h + m)
    else if c = '-' then some (if h = 0 then m else -(60 * h + m))
    else none
  | [] => none

/-- Put a time together if there is such a date and such a time of day. -/
def time? (year month day hour minute second : Nat) (offset : Int) : Option Time :=
  if Calendar.isDate year month day ∧ hour ≤ 23 ∧ minute ≤ 59 ∧ second ≤ 59 then
    some ⟨year, month, day, hour, minute, second, offset⟩
  else none

/-- Read a time with a year of two digits, which lies between 1950 and 2049.  Seconds may be left
out if the time ends with `Z`; seconds that are no number are zero. -/
def shortTime? (s : List Char) : Option Time := do
  let (year, s) ← digits? 2 s
  let (month, s) ← digits? 2 s
  let (day, s) ← digits? 2 s
  let (hour, s) ← digits? 2 s
  let (minute, s) ← digits? 2 s
  let (second, s) := if s.length < 2 then (0, s) else (digits? 2 s).getD (0, s.drop 2)
  time? (if 50 ≤ year then 1900 + year else 2000 + year) month day hour minute second (← offset? s)

/-- Skip a fraction of a second of up to three digits. -/
def afterFraction? : List Char → Option (List Char)
  | '.' :: rest =>
    let ds := rest.takeWhile Char.isDigit
    if 3 < ds.length then none else some (rest.drop ds.length)
  | s => some s

/-- Read a time with a year of four digits; it ends with `Z`.  Seconds may be left out if nothing
else stands before the `Z`. -/
def longTime? (s : List Char) : Option Time := do
  let (year, s) ← digits? 4 s
  let (month, s) ← digits? 2 s
  let (day, s) ← digits? 2 s
  let (hour, s) ← digits? 2 s
  let (minute, s) ← digits? 2 s
  let (second, s) ← if s.length < 2 then some (0, s) else digits? 2 s
  if (← afterFraction? s) = ['Z'] then time? year month day hour minute second 0 else none

/-- Read a time and return what follows it. -/
def timeElement? (bytes : Bytes) : Option (Time × Bytes) := do
  let (e, rest) ← Der.element? Der.lenient bytes
  let text := e.body.map fun b => Char.ofNat b.toNat
  if e.tag = Der.utcTime then return (← shortTime? text, rest)
  else if e.tag = Der.generalizedTime then return (← longTime? text, rest)
  else none

/-- Read the end of a validity, which has a start and an end, and return what follows it. -/
def notAfter? (bytes : Bytes) : Option (Time × Bytes) := do
  let (body, rest) ← Der.expect? Der.lenient Der.sequence bytes
  let (_, body) ← timeElement? body
  let (last, _) ← timeElement? body
  return (last, rest)

/-- Skip an algorithm: an object id and perhaps a parameter. -/
def afterAlgorithm? (bytes : Bytes) : Option Bytes := do
  let (body, rest) ← Der.expect? Der.lenient Der.sequence bytes
  let (id, parameter) ← Der.expect? Der.lenient Der.objectId body
  let _ ← Der.objectId? id
  if parameter ≠ [] then
    let _ ← Der.element? Der.lenient parameter
    return rest
  else return rest

/-- Skip a bit string, which says first how many bits of its last byte do not count. -/
def afterBits? (tag : UInt8) (bytes : Bytes) : Option Bytes := do
  let (body, rest) ← Der.expect? Der.lenient tag bytes
  match body with
  | [] => none
  | unused :: _ => if 7 < unused then none else some rest

/-- Skip a public key. -/
def afterKey? (bytes : Bytes) : Option Bytes := do
  let (body, rest) ← Der.expect? Der.lenient Der.sequence bytes
  let _ ← afterBits? Der.bitString (← afterAlgorithm? body)
  return rest

/-- Skip the version, which may be left out. -/
def afterVersion? (bytes : Bytes) : Option Bytes := do
  match ← Der.optional? Der.lenient (Der.context 0) bytes with
  | (none, rest) => some rest
  | (some body, rest) =>
    match ← Der.expect? Der.lenient Der.integer body with
    | ([], _) => none
    | (b :: bs, _) => if 0x80 ≤ b ∨ 4 < bs.length ∨ (bs.length = 4 ∧ b ≠ 0) then none else some rest

/-- Whether an element is an extension: an object id, perhaps a mark, and bytes. -/
def isExtension (e : Der.Element) : Bool :=
  e.tag == Der.sequence &&
    (do
      let (id, rest) ← Der.expect? Der.lenient Der.objectId e.body
      let _ ← Der.objectId? id
      let (_, rest) ← Der.optional? Der.lenient Der.boolean rest
      Der.expect? Der.lenient Der.octetString rest).isSome

/-- Whether what follows the key is well formed: ids that are not in use, and extensions. -/
def isTail (bytes : Bytes) : Bool :=
  (do
    let (_, rest) ← Der.optional? Der.lenient 0x81 bytes
    let (_, rest) ← Der.optional? Der.lenient 0x82 rest
    if rest = [] then some ()
    else
      let (body, after) ← Der.expect? Der.lenient (Der.context 3) rest
      let (list, inner) ← Der.expect? Der.lenient Der.sequence body
      let extensions ← Der.all? Der.lenient list
      if after = [] ∧ inner = [] ∧ extensions.all isExtension then some () else none).isSome

/-- What is shown of a certificate. -/
structure Summary where
  subject : Name
  issuer : Name
  notAfter : Time

/-- Read the signed part of a certificate. -/
def signedPart? (body : Bytes) : Option Summary := do
  let rest ← afterVersion? body
  let (_, rest) ← Der.expect? Der.lenient Der.integer rest
  let rest ← afterAlgorithm? rest
  let (issuer, rest) ← name? rest
  let (notAfter, rest) ← notAfter? rest
  let (subject, rest) ← name? rest
  if isTail (← afterKey? rest) then some ⟨subject, issuer, notAfter⟩ else none

/-- Read a certificate; bytes behind it do not count. -/
def summary? (der : Bytes) : Option Summary := do
  let (body, _) ← Der.expect? Der.lenient Der.sequence der
  let (signed, rest) ← Der.expect? Der.lenient Der.sequence body
  let s ← signedPart? signed
  let _ ← afterBits? Der.bitString (← afterAlgorithm? rest)
  return s

/-- One line about a certificate. -/
def describe (der : Bytes) : String :=
  match summary? der with
  | some s =>
    "subject=" ++ nameText s.subject ++ " issuer=" ++ nameText s.issuer ++ " not_after=" ++
      s.notAfter.text
  | none => "unparsable certificate (" ++ toString der.length ++ " bytes)"

end SignOn.Certificate
