import SignOn.Certificate.Der
import SignOn.Text.Hex
import SignOn.Text.Split
/-!
# The names in a certificate

A name is a list of sets of attributes.  It is shown with `, ` between the sets and ` + ` inside
of them, each attribute by its short name.  A name with a text that cannot be read is not shown.
-/

namespace SignOn.Certificate

/-- An attribute: its object id and the element that holds its value. -/
structure Attribute where
  id : List Nat
  value : Der.Element

/-- A name. -/
abbrev Name := List (List Attribute)

/-- The short names of attributes. -/
def attributeNames : List (List Nat × String) :=
  [([2, 5, 4, 3], "CN"), ([2, 5, 4, 6], "C"), ([2, 5, 4, 8], "ST"), ([2, 5, 4, 7], "L"),
   ([2, 5, 4, 10], "O"), ([2, 5, 4, 11], "OU"),
   ([0, 9, 2342, 19200300, 100, 1, 25], "DC"), ([1, 2, 840, 113549, 1, 9, 1], "Email"),
   ([1, 2, 840, 113549, 1, 9, 2], "unstructuredName"),
   ([1, 2, 840, 113549, 1, 9, 7], "challengePassword"),
   ([2, 5, 4, 0], "objectClass"), ([2, 5, 4, 1], "aliasedEntryName"),
   ([2, 5, 4, 2], "knowledgeInformation"), ([2, 5, 4, 4], "surname"),
   ([2, 5, 4, 5], "serialNumber"), ([2, 5, 4, 9], "streetAddress"), ([2, 5, 4, 12], "title"),
   ([2, 5, 4, 13], "description"), ([2, 5, 4, 14], "searchGuide"),
   ([2, 5, 4, 15], "businessCategory"), ([2, 5, 4, 16], "postalAddress"),
   ([2, 5, 4, 17], "postalCode"), ([2, 5, 4, 41], "name"), ([2, 5, 4, 42], "givenName"),
   ([2, 5, 4, 43], "initials"), ([2, 5, 4, 44], "generationQualifier"),
   ([2, 5, 4, 45], "uniqueIdentifier"), ([2, 5, 4, 46], "dnQualifier"),
   ([0, 9, 2342, 19200300, 100, 1, 1], "uid")]

/-- The short name of an attribute, or its object id. -/
def attributeName (id : List Nat) : String :=
  match attributeNames.lookup id with
  | some name => name
  | none => "OID(" ++ ".".intercalate (id.map toString) ++ ")"

/-- The tags of texts in one byte a character or in UTF-8. -/
def textTags : List UInt8 :=
  [0x07, 0x0C, 0x12, 0x13, 0x14, 0x15, 0x16, 0x19, 0x1A, 0x1B]

/-- The text of code units in two bytes each, the last one perhaps in one; surrogates must come in
pairs. -/
def wideText? : Bytes → Option (List Char)
  | [] => some []
  | [b] => some [Char.ofNat b.toNat]
  | a :: b :: rest =>
    let unit := 256 * a.toNat + b.toNat
    if 0xD800 ≤ unit ∧ unit < 0xDC00 then
      match rest with
      | c :: d :: rest =>
        let low := 256 * c.toNat + d.toNat
        if 0xDC00 ≤ low ∧ low < 0xE000 then do
          return Char.ofNat (0x10000 + (unit - 0xD800) * 0x400 + (low - 0xDC00)) ::
            (← wideText? rest)
        else none
      | _ => none
    else if 0xDC00 ≤ unit ∧ unit < 0xE000 then none
    else do return Char.ofNat unit :: (← wideText? rest)

/-- The text of a value; a value that is no text is shown by its bytes. -/
def valueText? (e : Der.Element) : Option String :=
  if textTags.contains e.tag then Utf8.decode? e.body
  else if e.tag = 0x1E then (wideText? e.body).map String.ofList
  else some (Text.upperAscii (Hex.encode e.body))

/-- The text of an attribute. -/
def Attribute.text? (a : Attribute) : Option String :=
  (valueText? a.value).map fun v => attributeName a.id ++ "=" ++ v

/-- The text of a name. -/
def nameText? (n : Name) : Option String := do
  let sets ← n.mapM fun set => do
    return " + ".intercalate (← set.mapM Attribute.text?)
  return ", ".intercalate sets

/-- The text of a name, or that it is invalid. -/
def nameText (n : Name) : String :=
  (nameText? n).getD "<X509Error: Invalid X.509 name>"

/-- Read an attribute. -/
def attribute? (e : Der.Element) : Option Attribute := do
  if e.tag ≠ Der.sequence then none
  else
    let (id, rest) ← Der.expect? Der.lenient Der.objectId e.body
    let (value, _) ← Der.element? Der.lenient rest
    return ⟨← Der.objectId? id, value⟩

/-- Read a set of attributes, of which there is at least one.  It ends before the first element
that is no attribute. -/
def attributeSet? (e : Der.Element) : Option (List Attribute) :=
  if e.tag ≠ Der.set then none
  else
    let set := Der.readable Der.lenient attribute? e.body
    if set.isEmpty then none else some set

/-- Read a name and return what follows it.  The name ends before the first element that is no set
of attributes. -/
def name? (bytes : Bytes) : Option (Name × Bytes) := do
  let (body, rest) ← Der.expect? Der.lenient Der.sequence bytes
  return (Der.readable Der.lenient attributeSet? body, rest)

end SignOn.Certificate
