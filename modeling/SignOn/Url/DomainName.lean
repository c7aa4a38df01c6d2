import SignOn.Url.CharacterTables
import SignOn.Url.Punycode
/-!
# Domain names

The host of a URL is compared and sent in one form: letters in lower case, equivalent spellings of
a character unified, and labels with characters outside of ASCII in Punycode after `xn--`.
Characters that are in no table stand for themselves.
-/

namespace SignOn.DomainName

/-- The image of a character. -/
def mapChar (c : Char) : List Char :=
  let n := c.toNat
  if n < 128 then [c.toLower]
  else if n = 0x3002 ∨ n = 0xFF0E ∨ n = 0xFF61 then ['.']
  else if ignored.any fun (a, b) => a ≤ n && n ≤ b then []
  else
    match runs.find? fun r => r.first ≤ n && n ≤ r.last && (n - r.first) % r.step = 0 with
    | none => [c]
    | some r => r.image.map fun m => Char.ofNat (m + (n - r.first))

/-- The order in which marks on one letter are written; zero for letters. -/
def markClass (c : Char) : Nat :=
  let n := c.toNat
  if n < 0x300 ∨ 0x36F < n then 0
  else if n = 0x31B then 216
  else if n = 0x327 ∨ n = 0x328 ∨ n = 0x321 ∨ n = 0x322 then 202
  else if (0x316 ≤ n ∧ n ≤ 0x319) ∨ (0x31C ≤ n ∧ n ≤ 0x320) ∨ (0x323 ≤ n ∧ n ≤ 0x326) ∨
      (0x329 ≤ n ∧ n ≤ 0x333) then 220
  else if n = 0x345 then 240
  else if 0x334 ≤ n ∧ n ≤ 0x338 then 1
  else 230

/-- Take composed characters apart; a part is never taken apart more than three times. -/
def decompose : Nat → Char → List Char
  | 0, c => [c]
  | fuel + 1, c =>
    match compositions.find? fun (whole, _, _) => whole = c.toNat with
    | some (_, base, mark) => decompose fuel (Char.ofNat base) ++ [Char.ofNat mark]
    | none => [c]

/-- Insert a mark behind the marks that do not come after it. -/
def insertMark (c : Char) (reversed : List Char) : List Char :=
  let after := reversed.takeWhile fun d => markClass c < markClass d
  after ++ c :: reversed.drop after.length

/-- The characters with the marks of each letter in order. -/
def orderMarks (s : List Char) : List Char :=
  (s.foldl (fun acc c => if markClass c = 0 then c :: acc else insertMark c acc) []).reverse

/-- The composed form of a letter and a mark. -/
def compose? (base mark : Char) : Option Char :=
  (compositions.find? fun (_, b, m) => b = base.toNat ∧ m = mark.toNat).map
    fun (whole, _, _) => Char.ofNat whole

/-- Join marks to the letter before them.  `held` are the marks since that letter that did not
join, in reverse. -/
def composeFrom (base : Char) (held : List Char) : List Char → List Char
  | [] => base :: held.reverse
  | c :: rest =>
    let blocked := match held with
      | [] => false
      | m :: _ => markClass c ≤ markClass m
    match if blocked then none else compose? base c with
    | some whole => composeFrom whole held rest
    | none =>
      if markClass c = 0 then base :: held.reverse ++ composeFrom c [] rest
      else composeFrom base (c :: held) rest

/-- The composed form of a list of characters. -/
def composed (s : List Char) : List Char :=
  if s.all (·.toNat < 128) then s
  else
    match orderMarks (s.flatMap (decompose 3)) with
    | [] => []
    | c :: rest => composeFrom c [] rest

/-- Characters of ASCII that no host holds. -/
def isForbidden (c : Char) : Bool :=
  c.toNat ≤ 32 || c.toNat = 127 || "%#/:<>?@[\\]^|".toList.contains c

/-- A character outside of ASCII that no name holds. -/
def isRefused (c : Char) : Bool :=
  refused.any fun (a, b) => a ≤ c.toNat && c.toNat ≤ b

/-- The form of one label; `none` when it is not allowed. -/
def labelForm? (label : List Char) : Option (List Char) :=
  if label.any isForbidden ∨ label.any isRefused then none
  else if label.all (·.toNat < 128) then
    match Text.afterPrefix? ['x', 'n', '-', '-'] label with
    | none => some label
    | some form => do
      let plain ← Punycode.decode? form
      if plain.all (·.toNat < 128) ∨ plain.any isRefused ∨
          composed (plain.flatMap mapChar) ≠ plain then none
      else some label
  else if (label.head?.map markClass).getD 0 ≠ 0 then none
  else some (['x', 'n', '-', '-'] ++ Punycode.encode label)

/-- Join labels by dots. -/
def joinLabels : List (List Char) → List Char
  | [] => []
  | [label] => label
  | label :: rest => label ++ '.' :: joinLabels rest

/-- The form of a name in which hosts are compared and sent. -/
def form? (name : List Char) : Option (List Char) := do
  let mapped := composed (name.flatMap mapChar)
  let labels ← (Text.splitWhere (· == '.') mapped).mapM labelForm?
  return joinLabels labels

end SignOn.DomainName
