import SignOn.Json.Token
import SignOn.Text.Utf8
/-!
# Reading JSON

A text is first read as a `Node`: members in the order and number in which they are written, and
numbers and strings that may hold no value.  A node becomes a value (`Node.value?`) or a record
(`Node.record?`); what a record does not name is skipped without looking at it, so a number out of
range is an error in a value and no error in a skipped member.
-/

namespace SignOn.Json

/-- A document as written. -/
inductive Node
  | null
  | bool (b : Bool)
  | num (n : Option Number)
  | str (s : Option String)
  | arr (items : List Node)
  | obj (members : List (Option String × Node))

namespace Node

/-- An array or object that is still open, its parts in reverse. -/
inductive Frame
  | arr (items : List Node)
  | obj (members : List (Option String × Node)) (name : Option String)

/-- Where the reader of tokens stands.  `fresh` is true right after an opening mark. -/
inductive State
  | value (stack : List Frame) (fresh : Bool)
  | name (stack : List Frame) (members : List (Option String × Node)) (fresh : Bool)
  | colon (stack : List Frame) (members : List (Option String × Node)) (name : Option String)
  | next (stack : List Frame) (top : Frame)
  | done (node : Node)

/-- A value is complete: it goes to the innermost open array or object. -/
def deliver (node : Node) : List Frame → State
  | [] => .done node
  | .arr items :: stack => .next stack (.arr (node :: items))
  | .obj members name :: stack => .next stack (.obj ((name, node) :: members) none)

/-- A token where a value is due. -/
def begin? (stack : List Frame) : Token → Option State
  | .openObject => some (.name stack [] true)
  | .openArray => some (.value (.arr [] :: stack) true)
  | .null => some (deliver .null stack)
  | .bool b => some (deliver (.bool b) stack)
  | .num n => some (deliver (.num n) stack)
  | .str s => some (deliver (.str s) stack)
  | _ => none

/-- One token. -/
def step? : State → Token → Option State
  | .value (.arr [] :: stack) true, .closeArray => some (deliver (.arr []) stack)
  | .value stack _, token => begin? stack token
  | .name stack members fresh, token =>
    match token with
    | .str name => some (.colon stack members name)
    | .closeObject => if fresh then some (deliver (.obj []) stack) else none
    | _ => none
  | .colon stack members name, .colon => some (.value (.obj members name :: stack) false)
  | .next stack (.arr items), .comma => some (.value (.arr items :: stack) false)
  | .next stack (.arr items), .closeArray => some (deliver (.arr items.reverse) stack)
  | .next stack (.obj members _), .comma => some (.name stack members false)
  | .next stack (.obj members _), .closeObject => some (deliver (.obj members.reverse) stack)
  | _, _ => none

/-- The node that a list of tokens writes. -/
def ofTokens? (tokens : List Token) : Option Node := do
  match ← tokens.foldlM step? (.value [] false) with
  | .done node => return node
  | _ => none

/-- The node of a text in which `none` marks bytes that are no character. -/
def read? (text : List (Option Char)) : Option Node := do
  ofTokens? (← Token.tokens? text)

mutual

/-- The value of a node, in which arrays and objects are nested at most `depth` deep. -/
def value? (depth : Nat) : Node → Option Json
  | .null => some .null
  | .bool b => some (.bool b)
  | .num n => n.map .num
  | .str s => s.map .str
  | .arr items => if depth = 0 then none else (values? (depth - 1) items).map .arr
  | .obj members =>
    if depth = 0 then none else (memberValues? (depth - 1) members).map ofMembers

/-- The values of a list of nodes. -/
def values? (depth : Nat) : List Node → Option (List Json)
  | [] => some []
  | node :: rest => do
    let v ← value? depth node
    let vs ← values? depth rest
    return v :: vs

/-- The members of an object in the order in which they are written. -/
def memberValues? (depth : Nat) : List (Option String × Node) → Option (List (String × Json))
  | [] => some []
  | (name, node) :: rest => do
    let name ← name
    let v ← value? depth node
    let vs ← memberValues? depth rest
    return (name, v) :: vs

end

/-- How deep arrays and objects may be nested. -/
def depthLimit : Nat := 127

/-- The text of a string. -/
def text? : Node → Option String
  | .str s => s
  | _ => none

/-- A whole number. -/
def int? : Node → Option Int
  | .num (some (.int i)) => some i
  | _ => none

/-- A whole number of at most 64 bits and a sign. -/
def int64? (node : Node) : Option Int := do
  let i ← node.int?
  if -0x8000000000000000 ≤ i ∧ i < 0x8000000000000000 then some i else none

/-- A natural number of at most 64 bits. -/
def nat64? (node : Node) : Option Nat := do
  let i ← node.int?
  if 0 ≤ i ∧ i < 0x10000000000000000 then some i.toNat else none

/-- A part that may be `null`. -/
def nullable? {α : Type} (read : Node → Option α) : Node → Option (Option α)
  | .null => some none
  | node => (read node).map some

/-- A part that may be missing or `null`. -/
def optional? {α : Type} (read : Node → Option α) : Option Node → Option (Option α)
  | none => some none
  | some node => nullable? read node

/-- The member of a name, if it is written; `none` inside the result when it is not.  It is an
error to write it twice. -/
def once? (name : String) (members : List (Option String × Node)) : Option (Option Node) :=
  match members.filter fun m => m.1 == some name with
  | [] => some none
  | [m] => some (some m.2)
  | _ => none

/-- The parts of a record with the given field names: an object, in which other members are
skipped, or an array of the fields in order, of which the last may be missing. -/
def record? (names : List String) : Node → Option (List (Option Node))
  | .obj members =>
    if members.all fun m => m.1.isSome then names.mapM fun name => once? name members else none
  | .arr items =>
    if items.length ≤ names.length then
      some (items.map some ++ List.replicate (names.length - items.length) none)
    else none
  | _ => none

end Node

/-- The document of a text. -/
def nodeOfText? (s : String) : Option Node :=
  Node.read? (s.toList.map some)

/-- The document of a byte string. -/
def nodeOfBytes? (bytes : Bytes) : Option Node :=
  Node.read? (Utf8.decode bytes)

/-- The value of a text. -/
def ofText? (s : String) : Option Json := do
  (← nodeOfText? s).value? Node.depthLimit

/-- The value of a byte string. -/
def ofBytes? (bytes : Bytes) : Option Json := do
  (← nodeOfBytes? bytes).value? Node.depthLimit

end SignOn.Json
