import SignOn.Decimal.Shortest
/-!
# JSON values

A `Json` is a value as programs hold it: numbers are integers of at most 64 bits or doubles,
objects are lists of members in increasing order of their names.
-/

namespace SignOn

/-- A JSON number.  A whole zero with a minus sign equals zero, but complaints show it as signed. -/
inductive Json.Number
  | int (i : Int)
  | minusZero
  | float (x : Float)

/-- A JSON value. -/
inductive Json
  | null
  | bool (b : Bool)
  | num (n : Json.Number)
  | str (s : String)
  | arr (items : List Json)
  | obj (members : List (String × Json))

namespace Json

instance : Inhabited Json := ⟨.null⟩

/-- A whole number. -/
def ofInt (i : Int) : Json := .num (.int i)

/-- A count. -/
def ofNat (n : Nat) : Json := .num (.int n)

/-- A text that may be missing. -/
def ofOption {α : Type} (f : α → Json) : Option α → Json
  | none => .null
  | some a => f a

/-- Put a member in its place by name; a member of the same name is replaced. -/
def insertMember (name : String) (value : Json) : List (String × Json) → List (String × Json)
  | [] => [(name, value)]
  | (other, old) :: rest =>
    if name < other then (name, value) :: (other, old) :: rest
    else if name = other then (name, value) :: rest
    else (other, old) :: insertMember name value rest

/-- An object with the given members, the last of equal names counting. -/
def ofMembers (members : List (String × Json)) : Json :=
  .obj (members.foldl (fun acc (name, value) => insertMember name value acc) [])

/-- The member of a name. -/
def member? (name : String) : List (String × Json) → Option Json
  | [] => none
  | (other, value) :: rest => if name = other then some value else member? name rest

/-- The field of an object; `none` for other values. -/
def get? (name : String) : Json → Option Json
  | .obj members => member? name members
  | _ => none

/-- The text of a string value. -/
def str? : Json → Option String
  | .str s => some s
  | _ => none

/-- How doubles are written: positional from 0.00001 up to below 10^16. -/
def floatLayout : Decimal.Layout := ⟨-5, 16⟩

/-- The whole number that a minus sign and digits write. -/
def Number.minus (n : Nat) : Number := if n = 0 then .minusZero else .int (-n)

/-- The written form of a number. -/
def Number.write : Number → String
  | .int i => toString i
  | .minusZero => "0"
  | .float x => floatLayout.writeFloat x

end Json

end SignOn
