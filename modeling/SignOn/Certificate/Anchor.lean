import SignOn.Certificate.Der
/-!
# Certificates as trust anchors

Whether a certificate can be trusted as a root.  The reader is strict about the form and looks
into the outline only: a certificate of version 3, or one without version and extensions.
-/

namespace SignOn.Certificate

/-- Why a certificate cannot be used. -/
inductive Defect
  | badEncoding
  | unsupportedVersion
  | algorithmMismatch
  | invalidExtension
  | unsupportedCriticalExtension
  deriving DecidableEq, Repr

/-- The text of a defect. -/
def Defect.message (d : Defect) : String :=
  let other (name : String) : String := "Other(OtherError(" ++ name ++ "))"
  "invalid peer certificate: " ++
    match d with
    | badEncoding => "BadEncoding"
    | unsupportedVersion => other "UnsupportedCertVersion"
    | algorithmMismatch => other "SignatureAlgorithmMismatch"
    | invalidExtension => other "ExtensionValueInvalid"
    | unsupportedCriticalExtension => other "UnsupportedCriticalExtension"

/-- Take a reading that is missing for a badly encoded certificate. -/
def orBadEncoding {α : Type} : Option α → Except Defect α
  | some a => .ok a
  | none => .error .badEncoding

/-- Read the contents of an element with a given tag. -/
def expect (tag : UInt8) (bytes : Bytes) : Except Defect (Bytes × Bytes) :=
  orBadEncoding (Der.expect? Der.strict tag bytes)

/-- The outline of a certificate: the signed part, the algorithm and the signature. -/
structure Outline where
  signed : Bytes
  algorithm : Bytes

/-- Read the outline, behind which nothing may follow. -/
def outline (der : Bytes) : Except Defect Outline := do
  let (body, after) ← expect Der.sequence der
  if after ≠ [] then throw .badEncoding
  let (signed, rest) ← expect Der.sequence body
  let (algorithm, rest) ← expect Der.sequence rest
  let (bits, rest) ← expect Der.bitString rest
  if rest ≠ [] ∨ bits.head? ≠ some 0 then throw .badEncoding
  return ⟨signed, algorithm⟩

/-- The standard extensions that are looked at: key usage, alternative names, basic constraints,
name constraints, revocation lists and extended key usage. -/
def knownExtensions : List UInt8 := [15, 17, 19, 30, 31, 37]

/-- The number of a standard extension. -/
def standardNumber? : Bytes → Option UInt8
  | [0x55, 0x1D, n] => some n
  | _ => none

/-- The mark of a critical extension; without it an extension is not critical. -/
def criticalMark (bytes : Bytes) : Except Defect (Bool × Bytes) := do
  match ← orBadEncoding (Der.optional? Der.strict Der.boolean bytes) with
  | (none, rest) => return (false, rest)
  | (some [0xFF], rest) => return (true, rest)
  | (some [0x00], rest) => return (false, rest)
  | _ => throw .badEncoding

/-- Check an extension, given the numbers of those before it; return them with its own. -/
def checkExtension (seen : List UInt8) (e : Der.Element) : Except Defect (List UInt8) := do
  if e.tag ≠ Der.sequence then throw .badEncoding
  let (id, rest) ← expect Der.objectId e.body
  let (critical, rest) ← criticalMark rest
  let (value, rest) ← expect Der.octetString rest
  if rest ≠ [] then throw .badEncoding
  match (standardNumber? id).filter knownExtensions.contains with
  | none => if critical then throw .unsupportedCriticalExtension else return seen
  | some n =>
    if seen.contains n then throw .invalidExtension
    -- key usage is kept as it is, the others are sequences
    if n ≠ 15 then
      let (_, after) ← expect Der.sequence value
      if after ≠ [] then throw .badEncoding
    return n :: seen

/-- Check the extensions, which may be left out but not be empty. -/
def checkExtensions (bytes : Bytes) : Except Defect Unit := do
  if bytes = [] then return
  let (body, after) ← expect (Der.context 3) bytes
  let (list, inner) ← expect Der.sequence body
  if after ≠ [] ∨ inner ≠ [] then throw .badEncoding
  let extensions ← orBadEncoding (Der.all? Der.strict list)
  if extensions.isEmpty then throw .badEncoding
  let _ ← extensions.foldlM checkExtension []

/-- Check the version: it must be written, and be the third. -/
def checkVersion (bytes : Bytes) : Except Defect Bytes :=
  match Der.expect? Der.strict (Der.context 0) bytes with
  | none => .error .unsupportedVersion
  | some (body, rest) =>
    match Der.expect? Der.strict Der.integer body with
    | some ([2], []) => .ok rest
    | some ([_], []) => .error .unsupportedVersion
    | _ => .error .badEncoding

/-- Skip one element of each tag. -/
def skip : List UInt8 → Bytes → Except Defect Bytes
  | [], bytes => .ok bytes
  | tag :: tags, bytes => do
    let (_, rest) ← expect tag bytes
    skip tags rest

/-- Issuer, validity, subject and key. -/
def outlineTags : List UInt8 :=
  [Der.sequence, Der.sequence, Der.sequence, Der.sequence]

/-- Check a certificate of version 3. -/
def checkCurrent (der : Bytes) : Except Defect Unit := do
  let o ← outline der
  let rest ← checkVersion o.signed
  let (_, rest) ← expect Der.integer rest
  let (algorithm, rest) ← expect Der.sequence rest
  if algorithm ≠ o.algorithm then throw .algorithmMismatch
  checkExtensions (← skip outlineTags rest)

/-- Check a certificate of the first version: no version is written, and nothing follows the key. -/
def checkFirst (der : Bytes) : Except Defect Unit := do
  let o ← outline der
  let rest ← skip (Der.integer :: Der.sequence :: outlineTags) o.signed
  if rest ≠ [] then throw .badEncoding

/-- Check a certificate as a trust anchor. -/
def checkAnchor (der : Bytes) : Except Defect Unit :=
  match checkCurrent der with
  | .error .unsupportedVersion =>
    match checkFirst der with
    | .ok () => .ok ()
    | .error _ => .error .badEncoding
  | r => r

end SignOn.Certificate
