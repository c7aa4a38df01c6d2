import SignOn.Json.Number
import SignOn.Text.Hex
/-!
# The tokens of a JSON text

A text is read as a list of characters in which `none` marks bytes that are no character.  Outside
of strings every token is either one of six marks or a word, the longest run of characters that are
neither marks, quotes nor blanks.  A string token holds its text only if every character and every
surrogate pair in it is whole.
-/

namespace SignOn.Json

/-- A token. -/
inductive Token
  | openObject
  | closeObject
  | openArray
  | closeArray
  | colon
  | comma
  | null
  | bool (b : Bool)
  | num (n : Option Number)
  | str (s : Option String)

namespace Token

/-- The four blanks of the format. -/
def isSpace (c : Char) : Bool :=
  c == ' ' || c == '\t' || c == '\n' || c == '\r'

/-- The token of a mark. -/
def mark? (c : Char) : Option Token :=
  if c = '\x7b' then some .openObject
  else if c = '\x7d' then some .closeObject
  else if c = '[' then some .openArray
  else if c = ']' then some .closeArray
  else if c = ':' then some .colon
  else if c = ',' then some .comma
  else none

/-- The token of a word; `none` when it is neither a name of the format nor a number. -/
def word? (word : List Char) : Option Token :=
  if word = ['n', 'u', 'l', 'l'] then some .null
  else if word = ['t', 'r', 'u', 'e'] then some (.bool true)
  else if word = ['f', 'a', 'l', 's', 'e'] then some (.bool false)
  else (Number.parts? word).map fun p => .num p.value?

/-- What an escape of one letter stands for. -/
def escape? (c : Char) : Option Char :=
  if c = '"' ∨ c = '\\' ∨ c = '/' then some c
  else if c = 'b' then some '\x08'
  else if c = 'f' then some '\x0c'
  else if c = 'n' then some '\n'
  else if c = 'r' then some '\r'
  else if c = 't' then some '\t'
  else none

/-- The part of a string read so far, in reverse, and a high surrogate that waits for its
partner. -/
structure Partial where
  reversed : List (Option Char)
  high : Option Nat

/-- Add a character; a surrogate that waits stays alone. -/
def Partial.push (p : Partial) (c : Option Char) : Partial :=
  match p.high with
  | none => ⟨c :: p.reversed, none⟩
  | some _ => ⟨c :: none :: p.reversed, none⟩

/-- Add a code unit. -/
def Partial.pushUnit (p : Partial) (unit : Nat) : Partial :=
  if 0xD800 ≤ unit ∧ unit < 0xDC00 then
    match p.high with
    | none => ⟨p.reversed, some unit⟩
    | some _ => ⟨none :: p.reversed, some unit⟩
  else if 0xDC00 ≤ unit ∧ unit < 0xE000 then
    match p.high with
    | some high =>
      ⟨some (Char.ofNat (0x10000 + (high - 0xD800) * 0x400 + (unit - 0xDC00))) :: p.reversed, none⟩
    | none => p.push none
  else p.push (some (Char.ofNat unit))

/-- The text of a string that has ended. -/
def Partial.text? (p : Partial) : Option String :=
  let all := match p.high with
    | none => p.reversed
    | some _ => none :: p.reversed
  (all.reverse.mapM id).map String.ofList

/-- Where the reader stands. -/
inductive Mode
  | between
  | word (reversed : List Char)
  | text (p : Partial)
  | escape (p : Partial)
  | unit (p : Partial) (due value : Nat)

/-- One character outside of strings. -/
def outside? (c : Option Char) : Option (List Token × Mode) := do
  let c ← c
  if isSpace c then return ([], .between)
  else if c = '"' then return ([], .text ⟨[], none⟩)
  else
    match mark? c with
    | some t => return ([t], .between)
    | none => return ([], .word [c])

/-- One step of the reader: the tokens that the character completes, and where it stands then. -/
def step? : Mode → Option Char → Option (List Token × Mode)
  | .between, c => outside? c
  | .word acc, c => do
    let (tokens, mode) ← outside? c
    match mode with
    | .word more => return ([], .word (more ++ acc))
    | mode => return ((← word? acc.reverse) :: tokens, mode)
  | .text p, c =>
    match c with
    | none => some ([], .text (p.push none))
    | some '"' => some ([.str p.text?], .between)
    | some '\\' => some ([], .escape p)
    | some c => if c.toNat < 32 then none else some ([], .text (p.push (some c)))
  | .escape p, c => do
    let c ← c
    if c = 'u' then return ([], .unit p 4 0)
    else return ([], .text (p.push (some (← escape? c))))
  | .unit p due value, c => do
    let d ← Hex.value? (← c)
    let value := 16 * value + d
    if due ≤ 1 then return ([], .text (p.pushUnit value)) else return ([], .unit p (due - 1) value)

/-- The tokens from a given standing on. -/
def tokensFrom? : Mode → List (Option Char) → Option (List Token)
  | .between, [] => some []
  | .word acc, [] => do return [← word? acc.reverse]
  | _, [] => none
  | mode, c :: rest => do
    let (tokens, mode) ← step? mode c
    let more ← tokensFrom? mode rest
    return tokens ++ more

/-- The tokens of a text. -/
def tokens? (text : List (Option Char)) : Option (List Token) :=
  tokensFrom? .between text

end Token

end SignOn.Json
