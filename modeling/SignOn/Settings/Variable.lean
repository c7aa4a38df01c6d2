import SignOn.Json.Basic
import SignOn.Yaml.Value
/-!
# Settings in environment variables

The name of a variable is a path into the settings, with two underscores between its parts.  Its
value is a small language: truth values, numbers, texts in quotes, lists in brackets and tables in
braces.  What does not follow the language is a text as it stands.
-/

namespace SignOn.Settings

/-- A blank of the language. -/
def isBlank (c : Char) : Bool :=
  c == ' ' || c == '\t' || c == '\n' || c == '\r' || c == '\x0c'

/-- A character of a bare word. -/
def isBare (c : Char) : Bool := !",[]\x7b\x7d".toList.contains c

/-- A character of a bare key. -/
def isKeyChar (c : Char) : Bool := c.isAlphanum || c == '_' || c == '-'

/-- A character that may stand for itself in quotes. -/
def isQuotable (c : Char) : Bool := c == '\t' || (0x20 ≤ c.toNat && c.toNat ≠ 0x7F)

/-- The character of an escape of one letter. -/
def letterEscape? (c : Char) : Option Char :=
  ([('"', 34), ('\\', 92), ('b', 8), ('f', 12), ('n', 10), ('r', 13), ('t', 9)] :
    List (Char × Nat)).lookup c |>.map Char.ofNat

/-- Replace the escapes of a text in quotes. -/
def unescape? : List Char → Option (List Char)
  | [] => some []
  | '\\' :: 'u' :: a :: b :: c :: d :: rest => do
    return (← Yaml.Scalar.charOfHex? [a, b, c, d]) :: (← unescape? rest)
  | '\\' :: 'U' :: a :: b :: c :: d :: e :: f :: g :: h :: rest => do
    return (← Yaml.Scalar.charOfHex? [a, b, c, d, e, f, g, h]) :: (← unescape? rest)
  | '\\' :: c :: rest => do return (← letterEscape? c) :: (← unescape? rest)
  | c :: rest => do if isQuotable c then return c :: (← unescape? rest) else none

/-- Take the characters up to the quote that closes, which is not behind a backslash. -/
def takeQuoted? : List Char → Option (List Char × List Char)
  | [] => none
  | '"' :: rest => some ([], rest)
  | '\\' :: c :: rest => (takeQuoted? rest).map fun (a, b) => ('\\' :: c :: a, b)
  | c :: rest => (takeQuoted? rest).map fun (a, b) => (c :: a, b)

/-- Read a text behind its first quote. -/
def quoted? (s : List Char) : Option (String × List Char) := do
  let (inner, rest) ← takeQuoted? s
  return (String.ofList (← unescape? inner), rest)

/-- What a bare word means: a number with a point, a whole number of 64 bits, or a text. -/
def bareValue (word : List Char) : Json :=
  let decimal := if word.contains '.' then Yaml.decimal? word else none
  let (sign, ds) := Yaml.signed word
  match decimal, Text.digitsToNat? ds with
  | some x, _ => .num (.float x)
  | none, some n =>
    if sign = some true then
      if n ≤ 0x8000000000000000 then .num (.minus n) else .str (String.ofList word)
    else if n < 0x10000000000000000 then .num (.int n) else .str (String.ofList word)
  | none, none => .str (String.ofList word)

/-- Read a key. -/
def key? (s : List Char) : Option (String × List Char) :=
  match s with
  | '"' :: rest => quoted? rest
  | s =>
    let name := s.takeWhile isKeyChar
    if name = [] then none else some (String.ofList name, s.drop name.length)

mutual

/-- Read a value with the blanks around it. -/
def value? : Nat → List Char → Option (Json × List Char)
  | 0, _ => none
  | fuel + 1, s => do
    let s := s.dropWhile isBlank
    let (v, rest) ←
      match Text.afterPrefix? "true".toList s, Text.afterPrefix? "false".toList s, s with
      | some rest, _, _ => some (.bool true, rest)
      | none, some rest, _ => some (.bool false, rest)
      | _, _, '\x7b' :: rest => (members? fuel [] rest).map fun (ms, rest) => (.obj ms, rest)
      | _, _, '[' :: rest => (items? fuel rest).map fun (vs, rest) => (.arr vs, rest)
      | _, _, '"' :: rest => (quoted? rest).map fun (text, rest) => (.str text, rest)
      | _, _, '\'' :: c :: '\'' :: rest => some (.str (String.ofList [c]), rest)
      | _, _, '\'' :: _ => none
      | _, _, s =>
        let word := s.takeWhile isBare
        some (bareValue (Text.trimWhile Text.isBlank word), s.drop word.length)
    return (v, rest.dropWhile isBlank)

/-- Read the items of a list up to the bracket that closes. -/
def items? : Nat → List Char → Option (List Json × List Char)
  | 0, _ => none
  | _ + 1, ']' :: rest => some ([], rest)
  | fuel + 1, s => do
    let (v, rest) ← value? fuel s
    match rest with
    | ',' :: rest =>
      let (vs, rest) ← items? fuel rest
      return (v :: vs, rest)
    | ']' :: rest => return ([v], rest)
    | _ => none

/-- Read the members of a table up to the brace that closes. -/
def members? : Nat → List (String × Json) → List Char → Option (List (String × Json) × List Char)
  | 0, _, _ => none
  | _ + 1, members, '\x7d' :: rest => some (members, rest)
  | fuel + 1, members, s => do
    let (name, s) ← key? (s.dropWhile isBlank)
    match s.dropWhile isBlank with
    | '=' :: s =>
      let (v, rest) ← value? fuel s
      let members := Json.insertMember name v members
      match rest with
      | ',' :: rest => members? fuel members rest
      | '\x7d' :: rest => return (members, rest)
      | _ => none
    | _ => none

end

/-- What the value of a variable means. -/
def valueOf (text : String) : Json :=
  match value? (text.length + 1) text.toList with
  | some (v, []) => v
  | _ => .str text

mutual

/-- Lay one value over another: tables are joined, all else is replaced. -/
def merge (lower upper : Json) : Json :=
  match upper with
  | .obj members =>
    match lower with
    | .obj old => .obj (mergeMembers old members)
    | _ => .obj members
  | v => v
termination_by sizeOf upper

/-- Lay the members of one table over those of another. -/
def mergeMembers (lower : List (String × Json)) (upper : List (String × Json)) :
    List (String × Json) :=
  match upper with
  | [] => lower
  | (name, v) :: rest =>
    let v := match Json.member? name lower with
      | some old => merge old v
      | none => v
    mergeMembers (Json.insertMember name v lower) rest
termination_by sizeOf upper

end

/-- What the names of the variables begin with, in any case. -/
def lead : String := "CONTROLROOM_AUTH_"

/-- The path that the name of a variable writes; no part of it is empty. -/
def path? (name : String) : Option (List String) := do
  let rest ← Text.dropPrefix? (Text.lowerAscii lead) (Text.lowerAscii (Text.trim name))
  let parts := Text.splitOn '.' (Text.replaceAll "__" "." rest)
  if parts.contains "" then none else some parts

/-- A value at the end of a path. -/
def nest (v : Json) : List String → Json
  | [] => v
  | name :: rest => .obj [(name, nest v rest)]

/-- The settings that variables make; a later one lies over those before it. -/
def ofVariables (list : List (String × String)) : Json :=
  list.foldl (fun settings (name, text) =>
    match path? name with
    | some path => merge settings (nest (valueOf text) path)
    | none => settings) (.obj [])

end SignOn.Settings
