import SignOn.Text.Split
/-!
# A place in a YAML text

A cursor is what is left of the text, with line and column.  Lines and blanks between two words of
a scalar are a `Gap`, which is folded: one line break becomes a blank, more of them lose the first.
-/

namespace SignOn.Yaml

/-- A character that a document may hold. -/
def isPrintable (c : Char) : Bool :=
  let n := c.toNat
  n == 9 || n == 10 || n == 13 || (0x20 ≤ n && n ≤ 0x7E) || n == 0x85 ||
    (0xA0 ≤ n && n ≤ 0xFFFD) || 0x10000 ≤ n

/-- A blank or a tab. -/
def isSpace (c : Char) : Bool := c == ' ' || c == '\t'

/-- A character that ends a line. -/
def isBreak (c : Char) : Bool :=
  let n := c.toNat
  n == 10 || n == 13 || n == 0x85 || n == 0x2028 || n == 0x2029

/-- What is left of a text, and where it starts. -/
structure Cursor where
  rest : List Char
  index : Nat
  line : Nat
  column : Nat

namespace Cursor

/-- The start of a text. -/
def start (text : List Char) : Cursor := ⟨text, 0, 0, 0⟩

/-- The character `k` places on. -/
def peek (c : Cursor) (k : Nat) : Option Char := c.rest[k]?

/-- The character `k` places on is `ch`. -/
def sees (c : Cursor) (k : Nat) (ch : Char) : Bool := c.peek k == some ch

/-- A break or the end of the text comes `k` places on. -/
def ends (c : Cursor) (k : Nat) : Bool := (c.peek k).all isBreak

/-- A blank, a break or the end of the text comes `k` places on. -/
def pauses (c : Cursor) (k : Nat) : Bool := (c.peek k).all fun ch => isSpace ch || isBreak ch

/-- One character on, within a line. -/
def next (c : Cursor) : Cursor :=
  ⟨c.rest.drop 1, c.index + 1, c.line, c.column + 1⟩

/-- Some characters on, within a line. -/
def skip (c : Cursor) (k : Nat) : Cursor :=
  ⟨c.rest.drop k, c.index + k, c.line, c.column + k⟩

/-- Past a line break, if one comes, and the character that it stands for. -/
def newline? (c : Cursor) : Option (Char × Cursor) :=
  let on (k : Nat) : Cursor := ⟨c.rest.drop k, c.index + k, c.line + 1, 0⟩
  match c.rest with
  | '\r' :: '\n' :: _ => some ('\n', on 2)
  | ch :: _ =>
    if isBreak ch then some (if ch.toNat < 0x100 then '\n' else ch, on 1) else none
  | [] => none

/-- Past the characters that `p` marks, which are no line breaks. -/
def skipWhile (c : Cursor) (p : Char → Bool) : Cursor :=
  c.skip (c.rest.takeWhile p).length

/-- The characters that `p` marks, and what follows them. -/
def takeWhile (c : Cursor) (p : Char → Bool) : List Char × Cursor :=
  (c.rest.takeWhile p, c.skipWhile p)

/-- A line that begins with three marks and nothing right behind them. -/
def hasMarks (c : Cursor) (mark : Char) : Bool :=
  c.column == 0 && c.sees 0 mark && c.sees 1 mark && c.sees 2 mark && c.pauses 3

/-- A line that begins or ends a document. -/
def atDocumentMark (c : Cursor) : Bool := c.hasMarks '-' || c.hasMarks '.'

end Cursor

/-- What stands between two words of a scalar: blanks, or a first line break and those after it. -/
structure Gap where
  blanks : List Char
  broken : Bool
  first : List Char
  more : List Char

namespace Gap

/-- Nothing. -/
def empty : Gap := ⟨[], false, [], []⟩

/-- A line break that is itself left out. -/
def joined : Gap := ⟨[], true, [], []⟩

/-- What a gap stands for. -/
def fold (g : Gap) : List Char :=
  if ¬g.broken then g.blanks
  else if g.first = ['\n'] then if g.more = [] then [' '] else g.more
  else g.first ++ g.more

/-- Read a gap; in a line that begins with less than `indent` blanks there must be no tab. -/
def read? (indent : Int) : Nat → Gap → Cursor → Option (Gap × Cursor)
  | 0, g, c => some (g, c)
  | fuel + 1, g, c =>
    match c.newline? with
    | some (ch, c) =>
      let g : Gap :=
        if g.broken then { g with more := g.more ++ [ch] } else ⟨[], true, [ch], g.more⟩
      read? indent fuel g c
    | none =>
      match c.peek 0 with
      | some ch =>
        if isSpace ch then
          if g.broken then
            if ch = '\t' ∧ (c.column : Int) < indent then none else read? indent fuel g c.next
          else read? indent fuel { g with blanks := g.blanks ++ [ch] } c.next
        else some (g, c)
      | none => some (g, c)

end Gap

end SignOn.Yaml
