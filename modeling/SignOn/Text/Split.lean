/-!
# Cutting text

Searching, cutting and trimming, over lists of characters, with the same operations on texts.
Blank characters are those with the White_Space property.
-/

namespace SignOn.Text

/-- A character with the White_Space property. -/
def isBlank (c : Char) : Bool :=
  let n := c.toNat
  (9 ≤ n && n ≤ 13) || n == 0x20 || n == 0x85 || n == 0xA0 || n == 0x1680 ||
    (0x2000 ≤ n && n ≤ 0x200A) || n == 0x2028 || n == 0x2029 || n == 0x202F || n == 0x205F ||
    n == 0x3000

/-- The pieces between the characters that `p` marks; there is always at least one. -/
def splitWhere (p : Char → Bool) : List Char → List (List Char)
  | [] => [[]]
  | c :: rest =>
    if p c then [] :: splitWhere p rest
    else
      match splitWhere p rest with
      | [] => [[c]]
      | piece :: pieces => (c :: piece) :: pieces

/-- Cut at the first character that `p` marks, which belongs to neither part. -/
def cutAt? (p : Char → Bool) : List Char → Option (List Char × List Char)
  | [] => none
  | c :: rest =>
    if p c then some ([], rest) else (cutAt? p rest).map fun (a, b) => (c :: a, b)

/-- Cut at the last character that `p` marks, which belongs to neither part. -/
def cutAtLast? (p : Char → Bool) : List Char → Option (List Char × List Char)
  | [] => none
  | c :: rest =>
    match cutAtLast? p rest with
    | some (a, b) => some (c :: a, b)
    | none => if p c then some ([], rest) else none

/-- What follows `lead` in a list that starts with it. -/
def afterPrefix? {α : Type} [DecidableEq α] : List α → List α → Option (List α)
  | [], s => some s
  | _ :: _, [] => none
  | p :: lead, c :: s => if p = c then afterPrefix? lead s else none

/-- Cut at the first place where `mark` stands. -/
def cutAtText? (mark : List Char) : List Char → Option (List Char × List Char)
  | [] => (afterPrefix? mark []).map fun rest => ([], rest)
  | c :: s =>
    match afterPrefix? mark (c :: s) with
    | some rest => some ([], rest)
    | none => (cutAtText? mark s).map fun (a, b) => (c :: a, b)

/-- Drop the characters at the end that `p` marks. -/
def dropEndWhile (p : Char → Bool) (s : List Char) : List Char :=
  (s.reverse.dropWhile p).reverse

/-- Drop the characters at both ends that `p` marks. -/
def trimWhile (p : Char → Bool) (s : List Char) : List Char :=
  dropEndWhile p (s.dropWhile p)

/-- The text without blanks at its ends. -/
def trim (s : String) : String :=
  String.ofList (trimWhile isBlank s.toList)

/-- The pieces of a text between the characters `c`. -/
def splitOn (c : Char) (s : String) : List String :=
  (splitWhere (· == c) s.toList).map String.ofList

/-- What follows `lead` in a text that starts with it. -/
def dropPrefix? (lead s : String) : Option String :=
  (afterPrefix? lead.toList s.toList).map String.ofList

/-- Whether `s` starts with `lead`. -/
def startsWith (lead s : String) : Bool :=
  (afterPrefix? lead.toList s.toList).isSome

/-- Whether `s` ends with `tail`. -/
def endsWith (tail s : String) : Bool :=
  (afterPrefix? tail.toList.reverse s.toList.reverse).isSome

/-- The text without any `c` at its end. -/
def dropEnd (c : Char) (s : String) : String :=
  String.ofList (dropEndWhile (· == c) s.toList)

/-- The text without any `c` at its start. -/
def dropStart (c : Char) (s : String) : String :=
  String.ofList (s.toList.dropWhile (· == c))

/-- Whether `mark` stands anywhere in the text. -/
def containsText (mark s : String) : Bool :=
  (cutAtText? mark.toList s.toList).isSome

/-- The text with its ASCII letters in lower case. -/
def lowerAscii (s : String) : String :=
  String.ofList (s.toList.map Char.toLower)

/-- The text with its ASCII letters in upper case. -/
def upperAscii (s : String) : String :=
  String.ofList (s.toList.map Char.toUpper)

/-- Replace every stand of `mark`, from the left; `fuel` bounds how many. -/
def replaceChars (mark new : List Char) : Nat → List Char → List Char
  | 0, s => s
  | fuel + 1, s =>
    match cutAtText? mark s with
    | some (a, b) => a ++ new ++ replaceChars mark new fuel b
    | none => s

/-- Replace every stand of a nonempty `mark` in a text. -/
def replaceAll (mark new s : String) : String :=
  if mark.isEmpty then s
  else String.ofList (replaceChars mark.toList new.toList (s.length + 1) s.toList)

/-- The words of a text: its longest pieces without blanks. -/
def words (s : List Char) : List (List Char) :=
  (splitWhere isBlank s).filter (· ≠ [])

/-- A number in decimal digits, with leading zeros up to `width`. -/
def padded (width n : Nat) : String :=
  let digits := toString n
  String.ofList (List.replicate (width - digits.length) '0') ++ digits

/-- The text followed by blanks up to `width` characters. -/
def leftAligned (width : Nat) (s : String) : String :=
  s ++ String.ofList (List.replicate (width - s.length) ' ')

/-- The value of a nonempty list of decimal digits. -/
def digitsToNat? (s : List Char) : Option Nat :=
  if s ≠ [] ∧ s.all Char.isDigit then
    some (s.foldl (fun n c => 10 * n + (c.toNat - 48)) 0)
  else none

end SignOn.Text
