import SignOn.Yaml.Scalar
/-!
# Tokens of a YAML text

The lexer turns blanks into structure: a line that begins further to the right opens a block, one
further to the left closes it.  Whether a scalar is the key of a mapping shows only when the colon
behind it comes, so the place of a possible key is remembered and its tokens are put in later.
-/

namespace SignOn.Yaml

/-- A token. -/
inductive Token
  | version (major minor : Nat)
  | tagHandle (handle lead : String)
  | documentStart
  | documentEnd
  | openBlockSequence
  | openBlockMapping
  | closeBlock
  | openSequence
  | closeSequence
  | openMapping
  | closeMapping
  | entry
  | comma
  | key
  | value
  | reference (name : String)
  | anchor (name : String)
  | tag (handle suffix : String)
  | scalar (text : String) (isPlain : Bool)
  deriving DecidableEq

/-- A place where a key may begin.  A needed one must turn out to be a key. -/
structure Candidate where
  needed : Bool
  number : Nat
  index : Nat
  line : Nat
  column : Nat

/-- A lexer at work.  `candidates` has one place for each open bracket and one for the text around
them; `allowed` tells whether a key may begin here. -/
structure Lexer where
  cursor : Cursor
  depth : Nat
  indent : Int
  outer : List Int
  allowed : Bool
  candidates : List (Option Candidate)
  tokens : Array Token

namespace Lexer

/-- A lexer at the start of a text. -/
def start (text : List Char) : Lexer :=
  ⟨.start text, 0, -1, [], true, [none], #[]⟩

/-- Add a token. -/
def push (l : Lexer) (t : Token) : Lexer := { l with tokens := l.tokens.push t }

/-- Add a token for the character here. -/
def pushMark (l : Lexer) (t : Token) : Lexer := { l.push t with cursor := l.cursor.next }

/-- Put a token in at a place. -/
def insertAt (l : Lexer) (number : Nat) (t : Token) : Lexer :=
  { l with tokens := l.tokens.take number ++ #[t] ++ l.tokens.drop number }

/-- Inside brackets. -/
def inFlow (l : Lexer) : Bool := l.depth != 0

/-- The place of a possible key at this level. -/
def candidate? (l : Lexer) : Option Candidate := l.candidates.headD none

/-- Set the place of a possible key at this level. -/
def setCandidate (l : Lexer) (c : Option Candidate) : Lexer :=
  { l with candidates := c :: l.candidates.drop 1 }

/-- Give up the possible key at this level, unless it is needed. -/
def dropCandidate? (l : Lexer) : Option Lexer :=
  if l.candidate?.any Candidate.needed then none else some (l.setCandidate none)

/-- Remember that a key may begin here. -/
def offer? (l : Lexer) : Option Lexer :=
  if l.allowed then do
    let needed := !l.inFlow && l.indent == l.cursor.column
    let l ← l.dropCandidate?
    return l.setCandidate
      (some ⟨needed, l.tokens.size, l.cursor.index, l.cursor.line, l.cursor.column⟩)
  else some l

/-- A possible key is given up on the next line, and after 1024 characters. -/
def isStale (l : Lexer) (c : Candidate) : Bool :=
  c.line < l.cursor.line || c.index + 1024 < l.cursor.index

/-- Give up stale places of possible keys, unless one is needed. -/
def expire? (l : Lexer) : Option Lexer :=
  let stale (c : Option Candidate) : Bool := c.any l.isStale
  if l.candidates.any fun c => stale c && c.any Candidate.needed then none
  else some { l with candidates := l.candidates.map fun c => if stale c then none else c }

/-- Close the blocks that lie further to the right than a column. -/
def closeBlocks (column : Int) : List Int → Lexer → Lexer
  | [], l => l
  | o :: outer, l =>
    if column < l.indent then
      closeBlocks column outer { l.push .closeBlock with indent := o, outer }
    else l

/-- Close the blocks that lie further to the right than a column; inside brackets there are none. -/
def unroll (l : Lexer) (column : Int) : Lexer :=
  if l.inFlow then l else closeBlocks column l.outer l

/-- Open a block at a column, if it lies further to the right; its token goes to a place. -/
def roll (l : Lexer) (column : Nat) (number : Nat) (t : Token) : Lexer :=
  if !l.inFlow && l.indent < column then
    { l.insertAt number t with indent := column, outer := l.indent :: l.outer }
  else l

/-- Skip blanks, comments and line breaks. -/
def skipBlanks : Nat → Lexer → Lexer
  | 0, l => l
  | fuel + 1, l =>
    let tabs := l.inFlow || !l.allowed
    let c := l.cursor.skipWhile fun ch => ch == ' ' || (tabs && ch == '\t')
    let c := if c.sees 0 '#' then c.skipWhile fun ch => !isBreak ch else c
    match c.newline? with
    | some (_, c) =>
      skipBlanks fuel { l with cursor := c, allowed := l.allowed || !l.inFlow }
    | none => { l with cursor := c }

/-- Read a bracket that opens. -/
def openBracket? (l : Lexer) (t : Token) : Option Lexer := do
  let l ← l.offer?
  let l := l.pushMark t
  return { l with depth := l.depth + 1, candidates := none :: l.candidates, allowed := true }

/-- Read a bracket that closes. -/
def closeBracket? (l : Lexer) (t : Token) : Option Lexer := do
  let l ← l.dropCandidate?
  let l := if l.inFlow then
      { l with depth := l.depth - 1, candidates := l.candidates.drop 1 }
    else l
  return { l.pushMark t with allowed := false }

/-- Read a comma inside brackets. -/
def comma? (l : Lexer) : Option Lexer := do
  let l ← l.dropCandidate?
  return { l.pushMark .comma with allowed := true }

/-- Read the mark of an entry. -/
def entry? (l : Lexer) : Option Lexer := do
  if !l.inFlow && !l.allowed then none
  let l := l.roll l.cursor.column l.tokens.size .openBlockSequence
  let l ← l.dropCandidate?
  return { l.pushMark .entry with allowed := true }

/-- Read the mark of a key. -/
def key? (l : Lexer) : Option Lexer := do
  if !l.inFlow && !l.allowed then none
  let l := l.roll l.cursor.column l.tokens.size .openBlockMapping
  let l ← l.dropCandidate?
  return { l.pushMark .key with allowed := !l.inFlow }

/-- Read the mark of a value; a possible key before it becomes one. -/
def value? (l : Lexer) : Option Lexer := do
  match l.candidate? with
  | some c =>
    let l := l.insertAt c.number .key
    let l := l.roll c.column c.number .openBlockMapping
    return { (l.setCandidate none).pushMark .value with allowed := false }
  | none =>
    if !l.inFlow && !l.allowed then none
    let l := l.roll l.cursor.column l.tokens.size .openBlockMapping
    return { l.pushMark .value with allowed := !l.inFlow }

/-- A character of a name. -/
def isNameChar (c : Char) : Bool := c.isAlphanum || c == '_' || c == '-'

/-- Read the name of an anchor or of a reference to one. -/
def name? (l : Lexer) (token : String → Token) : Option Lexer := do
  let l ← l.offer?
  let (name, c) := l.cursor.next.takeWhile isNameChar
  let follows := c.pauses 0 || (c.peek 0).any "?:,]\x7d%@\x60".toList.contains
  if name = [] ∨ ¬follows then none
  return { l.push (token (String.ofList name)) with cursor := c, allowed := false }

/-- A character of a tag. -/
def isTagChar (c : Char) : Bool :=
  isNameChar c || ";/?:@&=+$.!~*'()%".toList.contains c

/-- Read a tag: `!<...>`, or a handle with a suffix. -/
def tagParts? (c : Cursor) : Option (String × String × Cursor) := do
  if c.sees 1 '<' then
    let (uri, c) := (c.skip 2).takeWhile fun ch => isTagChar ch || ",[]".toList.contains ch
    if uri ≠ [] ∧ c.sees 0 '>' then return ("", String.ofList uri, c.next) else none
  else
    let (name, after) := c.next.takeWhile isNameChar
    if after.sees 0 '!' then
      let (suffix, c) := after.next.takeWhile isTagChar
      if suffix = [] then none
      else return (String.ofList ('!' :: name ++ ['!']), String.ofList suffix, c)
    else
      let (suffix, c) := c.next.takeWhile isTagChar
      return ("!", String.ofList suffix, c)

/-- Read a tag. -/
def tag? (l : Lexer) : Option Lexer := do
  let l ← l.offer?
  let (handle, suffix, c) ← tagParts? l.cursor
  if !c.pauses 0 && !(l.inFlow && c.sees 0 ',') then none
  return { l.push (.tag handle suffix) with cursor := c, allowed := false }

/-- Read a block of lines. -/
def block? (l : Lexer) (literal : Bool) : Option Lexer := do
  let l ← l.dropCandidate?
  let (text, c) ← Scalar.block? literal l.indent l.cursor.next
  return { l.push (.scalar (String.ofList text) false) with cursor := c, allowed := true }

/-- Read a scalar in quotes. -/
def quoted? (l : Lexer) (single : Bool) : Option Lexer := do
  let l ← l.offer?
  let (text, c) ← Scalar.quoted? single (l.cursor.rest.length + 1) [] l.cursor.next
  return { l.push (.scalar (String.ofList text) false) with cursor := c, allowed := false }

/-- Read a plain scalar. -/
def plain? (l : Lexer) : Option Lexer := do
  let l ← l.offer?
  let (text, c, left) ←
    Scalar.plain? l.inFlow (l.indent + 1) (l.cursor.rest.length + 1) [] .empty l.cursor
  return { l.push (.scalar (String.ofList text) true) with cursor := c, allowed := left }

/-- Read a mark between documents. -/
def documentMark? (l : Lexer) (t : Token) : Option Lexer := do
  let l ← (l.unroll (-1)).dropCandidate?
  return { l.push t with cursor := l.cursor.skip 3, allowed := false }

/-- Read the rest of a directive's line, which may hold a comment. -/
def directiveEnd? (c : Cursor) : Option Cursor :=
  let c := c.skipWhile isSpace
  let c := if c.sees 0 '#' then c.skipWhile fun ch => !isBreak ch else c
  if c.ends 0 then some c else none

/-- Read the number of a version, of nine digits at most. -/
def versionNumber? (digits : List Char) : Option Nat :=
  if digits.length ≤ 9 then Text.digitsToNat? digits else none

/-- Read what stands behind the name of a directive. -/
def directiveToken? (name : List Char) (c : Cursor) : Option (Token × Cursor) := do
  if name = "YAML".toList then
    let (major, c) := (c.skipWhile isSpace).takeWhile Char.isDigit
    if ¬c.sees 0 '.' then none
    let (minor, c) := c.next.takeWhile Char.isDigit
    return (.version (← versionNumber? major) (← versionNumber? minor), c)
  else if name = "TAG".toList then
    let c := c.skipWhile isSpace
    if ¬c.sees 0 '!' then none
    let (middle, after) := c.next.takeWhile isNameChar
    let (handle, c) :=
      if after.sees 0 '!' then ('!' :: middle ++ ['!'], after.next) else ('!' :: middle, after)
    if (handle.length ≠ 1 ∧ handle.getLast? ≠ some '!') ∨ ¬(c.peek 0).any isSpace then none
    let (lead, c) :=
      (c.skipWhile isSpace).takeWhile fun ch => isTagChar ch || ",[]".toList.contains ch
    if lead = [] ∨ ¬c.pauses 0 then none
    return (.tagHandle (String.ofList handle) (String.ofList lead), c)
  else none

/-- Read a directive. -/
def directive? (l : Lexer) : Option Lexer := do
  let l ← (l.unroll (-1)).dropCandidate?
  let (name, c) := l.cursor.next.takeWhile isNameChar
  if ¬c.pauses 0 then none
  let (t, c) ← directiveToken? name c
  return { l.push t with cursor := ← directiveEnd? c, allowed := false }

/-- A character with which no plain scalar begins. -/
def isIndicator (c : Char) : Bool :=
  "-?:,[]\x7b\x7d#&*!|>'\"%@\x60".toList.contains c

/-- Whether a plain scalar begins here. -/
def startsPlain (l : Lexer) : Bool :=
  let c := l.cursor
  (!c.pauses 0 && !(c.peek 0).any isIndicator) ||
    (c.sees 0 '-' && !(c.peek 1).any isSpace) ||
    (!l.inFlow && (c.sees 0 '?' || c.sees 0 ':') && !c.pauses 1)

/-- Read what begins with a character. -/
def readAt? (l : Lexer) (ch : Char) : Option Lexer :=
  let c := l.cursor
  let marks := l.inFlow || c.pauses 1
  if c.column = 0 ∧ ch = '%' then l.directive?
  else if c.hasMarks '-' then l.documentMark? .documentStart
  else if c.hasMarks '.' then l.documentMark? .documentEnd
  else if ch = '[' then l.openBracket? .openSequence
  else if ch = '\x7b' then l.openBracket? .openMapping
  else if ch = ']' then l.closeBracket? .closeSequence
  else if ch = '\x7d' then l.closeBracket? .closeMapping
  else if ch = ',' then l.comma?
  else if ch = '-' ∧ c.pauses 1 then l.entry?
  else if ch = '?' ∧ marks then l.key?
  else if ch = ':' ∧ marks then l.value?
  else if ch = '*' then l.name? .reference
  else if ch = '&' then l.name? .anchor
  else if ch = '!' then l.tag?
  else if ch = '|' ∧ ¬l.inFlow then l.block? true
  else if ch = '>' ∧ ¬l.inFlow then l.block? false
  else if ch = '\'' then l.quoted? true
  else if ch = '"' then l.quoted? false
  else if l.startsPlain then l.plain?
  else none

/-- The end of the text closes all blocks. -/
def finish? (l : Lexer) : Option (List Token) := do
  let l ← (l.unroll (-1)).dropCandidate?
  return l.tokens.toList

/-- Read token after token; each takes at least one character. -/
def run? : Nat → Lexer → Option (List Token)
  | 0, _ => none
  | fuel + 1, l => do
    let l ← (skipBlanks (l.cursor.rest.length + 1) l).expire?
    let l := l.unroll l.cursor.column
    match l.cursor.peek 0 with
    | none => l.finish?
    | some ch => run? fuel (← l.readAt? ch)

end Lexer

/-- The tokens of a text; a byte order mark before it does not count. -/
def Token.ofText? (text : String) : Option (List Token) :=
  let chars := match text.toList with
    | c :: rest => if c.toNat = 0xFEFF then rest else c :: rest
    | [] => []
  if chars.all isPrintable then Lexer.run? (chars.length + 2) (.start chars) else none

end SignOn.Yaml
