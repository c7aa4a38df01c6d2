import SignOn.Yaml.Cursor
import SignOn.Text.Hex
/-!
# Scalars of a YAML text

A scalar is written plainly, in quotes, or as a block of lines.  Each reader takes a cursor and
returns the text that is meant and the cursor behind it.
-/

namespace SignOn.Yaml.Scalar

/-- A mark that ends a plain scalar inside brackets. -/
def isFlowMark (c : Char) : Bool := ",[]\x7b\x7d".toList.contains c

/-- Whether a plain scalar ends here.  A colon inside brackets must not stand before a mark. -/
def plainEnds? (flow : Bool) (c : Cursor) : Option Bool :=
  if flow ∧ c.sees 0 ':' ∧ (c.peek 1).any (fun ch => isFlowMark ch || ch == '?') then none
  else some (c.pauses 0 || (c.sees 0 ':' && c.pauses 1) || (flow && (c.peek 0).any isFlowMark))

/-- Read a word of a plain scalar, which may hold no blanks. -/
def plainWord? (flow : Bool) : Nat → List Char → Cursor → Option (List Char × Cursor)
  | 0, word, c => some (word.reverse, c)
  | fuel + 1, word, c => do
    if ← plainEnds? flow c then return (word.reverse, c)
    match c.peek 0 with
    | some ch => plainWord? flow fuel (ch :: word) c.next
    | none => return (word.reverse, c)

/-- Read a plain scalar word by word.  `gap` stands before the next word; the last part of the
result tells whether the scalar was left after a line break. -/
def plain? (flow : Bool) (indent : Int) :
    Nat → List Char → Gap → Cursor → Option (List Char × Cursor × Bool)
  | 0, text, g, c => some (text, c, g.broken)
  | fuel + 1, text, g, c => do
    if c.atDocumentMark ∨ c.sees 0 '#' then return (text, c, g.broken)
    let (word, c) ← plainWord? flow (c.rest.length + 1) [] c
    let (text, g) := if word = [] then (text, g) else (text ++ g.fold ++ word, Gap.empty)
    if !(c.peek 0).any fun ch => isSpace ch || isBreak ch then return (text, c, g.broken)
    let (g, c) ← Gap.read? indent (c.rest.length + 1) g c
    if ¬flow ∧ (c.column : Int) < indent then return (text, c, g.broken)
    plain? flow indent fuel text g c

/-- The character of an escape of one letter. -/
def letterEscape? (c : Char) : Option Char :=
  ([('0', 0), ('a', 7), ('b', 8), ('t', 9), ('\t', 9), ('n', 10), ('v', 11), ('f', 12), ('r', 13),
    ('e', 27), (' ', 32), ('"', 34), ('/', 47), ('\\', 92), ('N', 0x85), ('_', 0xA0),
    ('L', 0x2028), ('P', 0x2029)] : List (Char × Nat)).lookup c |>.map Char.ofNat

/-- How many digits follow the letter of an escape. -/
def escapeLength? (c : Char) : Option Nat :=
  ([('x', 2), ('u', 4), ('U', 8)] : List (Char × Nat)).lookup c

/-- The character with a number in hexadecimal digits. -/
def charOfHex? (digits : List Char) : Option Char := do
  let values ← digits.mapM Hex.value?
  let n := values.foldl (fun n d => 16 * n + d) 0
  if n.isValidChar then some (Char.ofNat n) else none

/-- Read an escape behind its backslash. -/
def escape? (c : Cursor) : Option (Char × Cursor) := do
  let letter ← c.peek 0
  match letterEscape? letter with
  | some ch => return (ch, c.next)
  | none =>
    let length ← escapeLength? letter
    let digits := (c.rest.drop 1).take length
    if digits.length = length then return (← charOfHex? digits, c.skip (length + 1)) else none

/-- Read a word of a quoted scalar; the last part of the result is the gap that an escaped line
break opens. -/
def quotedWord? (single : Bool) : Nat → List Char → Cursor → Option (List Char × Cursor × Gap)
  | 0, _, _ => none
  | fuel + 1, word, c =>
    if c.pauses 0 then some (word.reverse, c, .empty)
    else if single then
      if c.sees 0 '\'' then
        if c.sees 1 '\'' then quotedWord? single fuel ('\'' :: word) (c.skip 2)
        else some (word.reverse, c, .empty)
      else (c.peek 0).bind fun ch => quotedWord? single fuel (ch :: word) c.next
    else if c.sees 0 '"' then some (word.reverse, c, .empty)
    else if c.sees 0 '\\' then
      match c.next.newline? with
      | some (_, c) => some (word.reverse, c, .joined)
      | none => do
        let (ch, c) ← escape? c.next
        quotedWord? single fuel (ch :: word) c
    else (c.peek 0).bind fun ch => quotedWord? single fuel (ch :: word) c.next

/-- Read a quoted scalar behind its first quote. -/
def quoted? (single : Bool) : Nat → List Char → Cursor → Option (List Char × Cursor)
  | 0, _, _ => none
  | fuel + 1, text, c => do
    if c.atDocumentMark ∨ c.rest = [] then none
    let (word, c, gap) ← quotedWord? single (c.rest.length + 1) [] c
    let text := text ++ word
    if c.sees 0 (if single then '\'' else '"') then return (text, c.next)
    let (gap, c) ← Gap.read? 0 (c.rest.length + 1) gap c
    quoted? single fuel (text ++ gap.fold) c

/-- What happens to the line breaks at the end of a block: all but one go, all go, or all stay. -/
inductive Chomping
  | clip
  | strip
  | keep
  deriving DecidableEq

/-- The mark of a chomping. -/
def chomping? : Option Char → Option Chomping
  | some '+' => some .keep
  | some '-' => some .strip
  | _ => none

/-- The mark of an indentation, a digit but zero. -/
def indentation? (c : Option Char) : Option (Option Nat) :=
  match c with
  | some ch =>
    if ch = '0' then none
    else if ch.isDigit then some (some (ch.toNat - 48))
    else some none
  | none => some none

/-- Read the marks of a block, in either order. -/
def blockMarks? (c : Cursor) : Option (Chomping × Option Nat × Cursor) := do
  match chomping? (c.peek 0) with
  | some chomping =>
    match ← indentation? (c.next.peek 0) with
    | some n => return (chomping, some n, c.skip 2)
    | none => return (chomping, none, c.next)
  | none =>
    match ← indentation? (c.peek 0) with
    | some n =>
      match chomping? (c.next.peek 0) with
      | some chomping => return (chomping, some n, c.skip 2)
      | none => return (.clip, some n, c.next)
    | none => return (.clip, none, c)

/-- Whether a line still lies within the indentation of a block; zero stands for one that is not
known yet. -/
def indenting (indent : Nat) (c : Cursor) : Bool := indent == 0 || c.column < indent

/-- Read empty lines of a block, up to the indentation of the next line: their breaks and the
deepest column seen. -/
def blockBreaks? (indent : Nat) :
    Nat → List Char → Nat → Cursor → Option (List Char × Nat × Cursor)
  | 0, breaks, deepest, c => some (breaks, deepest, c)
  | fuel + 1, breaks, deepest, c =>
    if indenting indent c ∧ c.sees 0 ' ' then blockBreaks? indent fuel breaks deepest c.next
    else
      let deepest := max deepest c.column
      if indenting indent c ∧ c.sees 0 '\t' then none
      else
        match c.newline? with
        | some (ch, c) => blockBreaks? indent fuel (breaks ++ [ch]) deepest c
        | none => some (breaks, deepest, c)

/-- Read the lines of a block.  `last` is the break of the line before and `breaks` those of the
empty lines after it; `blank` tells whether that line began with a blank. -/
def blockLines? (literal : Bool) (indent : Nat) :
    Nat → List Char → List Char → List Char → Bool → Cursor →
      Option (List Char × List Char × List Char × Cursor)
  | 0, text, last, breaks, _, c => some (text, last, breaks, c)
  | fuel + 1, text, last, breaks, blank, c => do
    if c.column ≠ indent ∨ c.rest = [] then return (text, last, breaks, c)
    let startsBlank := (c.peek 0).any isSpace
    let between :=
      if ¬literal ∧ last = ['\n'] ∧ ¬blank ∧ ¬startsBlank then
        if breaks = [] then [' '] else breaks
      else last ++ breaks
    let (line, c) := c.takeWhile fun ch => !isBreak ch
    let (last, c) := match c.newline? with
      | some (ch, c) => ([ch], c)
      | none => ([], c)
    let (breaks, _, c) ← blockBreaks? indent (c.rest.length + 1) [] 0 c
    blockLines? literal indent fuel (text ++ between ++ line) last breaks startsBlank c

/-- Read a block behind its first mark, below a parent of the given indentation. -/
def block? (literal : Bool) (parent : Int) (c : Cursor) : Option (List Char × Cursor) := do
  let (chomping, added, c) ← blockMarks? c
  let c := c.skipWhile isSpace
  let c := if c.sees 0 '#' then c.skipWhile fun ch => !isBreak ch else c
  if ¬c.ends 0 then none
  let c := match c.newline? with
    | some (_, c) => c
    | none => c
  let floor := (parent + 1).toNat
  let fixed := match added with
    | some n => parent.toNat + n
    | none => 0
  let (breaks, deepest, c) ← blockBreaks? fixed (c.rest.length + 1) [] 0 c
  let indent := if fixed = 0 then max (max deepest floor) 1 else fixed
  let (text, last, breaks, c) ← blockLines? literal indent (c.rest.length + 1) [] [] breaks false c
  return match chomping with
    | .strip => (text, c)
    | .clip => (text ++ last, c)
    | .keep => (text ++ last ++ breaks, c)

end SignOn.Yaml.Scalar
