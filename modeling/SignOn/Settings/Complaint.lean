import SignOn.Json.Basic
import SignOn.Text.Quoted
/-!
# Reading settings

Settings come as values of the JSON kind.  A reader takes one and returns what it means, or a
complaint about the first value that does not fit; fields are looked at in the order of their
names.
-/

namespace SignOn.Settings

/-- What is wrong with a value. -/
inductive Problem
  | type (found : Json) (expected : String)
  | value (found : Json) (expected : String)
  | missing (field : String)
  | length (n : Nat) (expected : String)
  | variant (found : String) (known : List String)

/-- A problem and the path of the value. -/
structure Complaint where
  path : List String
  problem : Problem

/-- The text of a double: all its digits, without an exponent. -/
def floatText (x : Float) : String :=
  if x.isNaN then "NaN"
  else if x.isInf then if x < 0 then "-inf" else "inf"
  else
    let text := (⟨-400, 400⟩ : Decimal.Layout).writeFloat x
    if Text.endsWith ".0" text then String.ofList (text.toList.dropLast.dropLast) else text

/-- How a number is shown. -/
def intText (i : Int) : String :=
  let shown := "\x60" ++ toString i ++ "\x60"
  if 0x10000000000000000 ≤ i then "integer " ++ shown ++ " as u128"
  else if 0 ≤ i then "unsigned int " ++ shown
  else if -0x8000000000000000 ≤ i then "signed int " ++ shown
  else "integer " ++ shown ++ " as i128"

/-- How a value is shown. -/
def shown : Json → String
  | .null => "unit"
  | .bool b => if b then "bool true" else "bool false"
  | .num (.int i) => intText i
  | .num .minusZero => "signed int \x600\x60"
  | .num (.float x) => "float \x60" ++ floatText x ++ "\x60"
  | .str s => "string " ++ Text.quoted s
  | .arr _ => "sequence"
  | .obj _ => "map"

/-- The text of a problem. -/
def Problem.message : Problem → String
  | type found expected => "invalid type: found " ++ shown found ++ ", expected " ++ expected
  | value found expected => "invalid value " ++ shown found ++ ", expected " ++ expected
  | missing field => "missing field \x60" ++ field ++ "\x60"
  | length n expected => "invalid length " ++ toString n ++ ", expected " ++ expected
  | variant found known =>
    "unknown variant: found \x60" ++ found ++ "\x60, expected \x60" ++
      " or ".intercalate (known.map fun name => "\x60" ++ name ++ "\x60") ++ "\x60"

/-- Complain about the value itself. -/
def complain {α : Type} (problem : Problem) : Except Complaint α := .error ⟨[], problem⟩

/-- A reading of the part with a name. -/
def inPart {α : Type} (name : String) (r : Except Complaint α) : Except Complaint α :=
  r.mapError fun c => { c with path := name :: c.path }

/-- Read a truth value. -/
def bool : Json → Except Complaint Bool
  | .bool b => .ok b
  | v => complain (.type v "a boolean")

/-- Read a text. -/
def text : Json → Except Complaint String
  | .str s => .ok s
  | v => complain (.type v "a string")

/-- Read a text that may be `null`. -/
def optionalText : Json → Except Complaint (Option String)
  | .null => .ok none
  | v => (text v).map some

/-- Read a whole number between two bounds. -/
def int (expected : String) (least most : Int) : Json → Except Complaint Int
  | .num (.int i) =>
    if least ≤ i ∧ i ≤ most then .ok i
    else if -0x8000000000000000 ≤ i ∧ i < 0x10000000000000000 then
      complain (.value (.num (.int i)) expected)
    else complain (.type (.num (.int i)) expected)
  | .num .minusZero =>
    if least ≤ 0 ∧ 0 ≤ most then .ok 0 else complain (.value (.num .minusZero) expected)
  | v => complain (.type v expected)

/-- A field of a record: its name and how it is taken in. -/
structure FieldReader (ρ : Type) where
  name : String
  set : Json → ρ → Except Complaint ρ

/-- A field that a reader reads. -/
def field {α ρ : Type} (name : String) (read : Json → Except Complaint α) (put : α → ρ → ρ) :
    FieldReader ρ :=
  ⟨name, fun v r => (read v).map fun a => put a r⟩

/-- Take in a member of a table; unknown ones do not count. -/
def takeMember {ρ : Type} (fields : List (FieldReader ρ)) (r : ρ) (member : String × Json) :
    Except Complaint ρ :=
  match fields.find? fun f => f.name = member.1 with
  | some f => inPart member.1 (f.set member.2 r)
  | none => .ok r

/-- Take in items, which give the fields in order; items past the last field do not count. -/
def takeItems {ρ : Type} (r : ρ) (place : Nat) :
    List (FieldReader ρ) → List Json → Except Complaint ρ
  | f :: fields, v :: items => do
    takeItems (← inPart (toString place) (f.set v r)) (place + 1) fields items
  | _, _ => .ok r

/-- Read a record over its defaults, from a table or from a list of its fields in order. -/
def record {ρ : Type} (name : String) (fields : List (FieldReader ρ)) (default : ρ) :
    Json → Except Complaint ρ
  | .obj members => members.foldlM (takeMember fields) default
  | .arr items => takeItems default 0 fields items
  | v => complain (.type v ("struct " ++ name))

end SignOn.Settings
