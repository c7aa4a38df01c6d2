import SignOn.Json.Basic
import SignOn.Text.Hex
/-!
# Writing JSON

`Json.compact` writes a value without blanks, `Json.pretty` one member or item on a line with two
blanks for each level.  Both write texts the same way: the quote, the backslash and the control
characters are escaped, all else stands for itself.
-/

namespace SignOn.Json

/-- The written form of a character inside a JSON text. -/
def escapeChar (c : Char) : List Char :=
  if c = '"' then ['\\', '"']
  else if c = '\\' then ['\\', '\\']
  else if c.toNat = 8 then ['\\', 'b']
  else if c.toNat = 9 then ['\\', 't']
  else if c.toNat = 10 then ['\\', 'n']
  else if c.toNat = 12 then ['\\', 'f']
  else if c.toNat = 13 then ['\\', 'r']
  else if c.toNat < 32 then
    ['\\', 'u', '0', '0', Hex.digit (c.toNat / 16), Hex.digit (c.toNat % 16)]
  else [c]

/-- A JSON text with its quotes. -/
def writeText (s : String) : List Char :=
  '"' :: s.toList.flatMap escapeChar ++ ['"']

mutual

/-- The compact form, as characters. -/
def compactChars : Json → List Char
  | .null => ['n', 'u', 'l', 'l']
  | .bool true => ['t', 'r', 'u', 'e']
  | .bool false => ['f', 'a', 'l', 's', 'e']
  | .num n => n.write.toList
  | .str s => writeText s
  | .arr [] => ['[', ']']
  | .arr (item :: items) => '[' :: compactChars item ++ compactItems items
  | .obj [] => ['\x7b', '\x7d']
  | .obj ((name, value) :: members) =>
    '\x7b' :: writeText name ++ ':' :: compactChars value ++ compactMembers members

/-- The items of a compact array after the first, and its end. -/
def compactItems : List Json → List Char
  | [] => [']']
  | item :: items => ',' :: compactChars item ++ compactItems items

/-- The members of a compact object after the first, and its end. -/
def compactMembers : List (String × Json) → List Char
  | [] => ['\x7d']
  | (name, value) :: members =>
    ',' :: writeText name ++ ':' :: compactChars value ++ compactMembers members

end

/-- The compact form of a value. -/
def compact (v : Json) : String :=
  String.ofList (compactChars v)

/-- A line break and two blanks for each level. -/
def newline (level : Nat) : List Char :=
  '\n' :: List.replicate (2 * level) ' '

mutual

/-- The form with one item or member on a line, as characters. -/
def prettyChars (level : Nat) : Json → List Char
  | .null => ['n', 'u', 'l', 'l']
  | .bool true => ['t', 'r', 'u', 'e']
  | .bool false => ['f', 'a', 'l', 's', 'e']
  | .num n => n.write.toList
  | .str s => writeText s
  | .arr [] => ['[', ']']
  | .arr (item :: items) =>
    '[' :: newline (level + 1) ++ prettyChars (level + 1) item ++ prettyItems level items
  | .obj [] => ['\x7b', '\x7d']
  | .obj ((name, value) :: members) =>
    '\x7b' :: newline (level + 1) ++ writeText name ++ ':' :: ' ' ::
      prettyChars (level + 1) value ++ prettyMembers level members

/-- The items of an array after the first, and its end. -/
def prettyItems (level : Nat) : List Json → List Char
  | [] => newline level ++ [']']
  | item :: items =>
    ',' :: newline (level + 1) ++ prettyChars (level + 1) item ++ prettyItems level items

/-- The members of an object after the first, and its end. -/
def prettyMembers (level : Nat) : List (String × Json) → List Char
  | [] => newline level ++ ['\x7d']
  | (name, value) :: members =>
    ',' :: newline (level + 1) ++ writeText name ++ ':' :: ' ' ::
      prettyChars (level + 1) value ++ prettyMembers level members

end

/-- The form of a value with one item or member on a line. -/
def pretty (v : Json) : String :=
  String.ofList (prettyChars 0 v)

end SignOn.Json
