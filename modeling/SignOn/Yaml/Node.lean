import SignOn.Yaml.Token
/-!
# Nodes of a YAML text

The tree that the tokens of one document write: scalars, sequences, mappings, and aliases that
stand for an anchored node.  What is left out between two marks is an empty plain scalar.
-/

namespace SignOn.Yaml

/-- What may stand before a node. -/
structure Properties where
  anchor : Option String
  tag : Option String
  deriving DecidableEq

/-- A node. -/
inductive Node
  | reference (name : String)
  | scalar (p : Properties) (text : String) (isPlain : Bool)
  | sequence (p : Properties) (items : List Node)
  | mapping (p : Properties) (pairs : List (Node × Node))

namespace Node

/-- The handles of tags that are always known. -/
def knownHandles : List (String × String) :=
  [("!", "!"), ("!!", "tag:yaml.org,2002:")]

/-- A node with nothing before it. -/
def bare : Properties := ⟨none, none⟩

/-- A node that is left out. -/
def missing (p : Properties) : Node := .scalar p "" true

/-- The tag that a handle and a suffix mean. -/
def tag? (handles : List (String × String)) (handle suffix : String) : Option String :=
  if handle.isEmpty then some suffix else (handles.lookup handle).map (· ++ suffix)

/-- Read anchor and tag, in either order. -/
def properties? (handles : List (String × String)) :
    List Token → Option (Properties × List Token)
  | .anchor name :: .tag handle suffix :: ts
  | .tag handle suffix :: .anchor name :: ts => do
    return (⟨some name, ← tag? handles handle suffix⟩, ts)
  | .anchor name :: ts => some (⟨some name, none⟩, ts)
  | .tag handle suffix :: ts => do return (⟨none, ← tag? handles handle suffix⟩, ts)
  | ts => some (bare, ts)

/-- A token before which a key or a value of a block mapping may be left out. -/
def endsBlockPart : List Token → Bool
  | .key :: _ | .value :: _ | .closeBlock :: _ | [] => true
  | _ => false

/-- A token before which an item of a block sequence may be left out. -/
def endsBlockItem : List Token → Bool
  | .entry :: _ | .closeBlock :: _ | [] => true
  | _ => false

/-- A token before which an item may be left out when its sequence opens no block of its own. -/
def endsInnerItem : List Token → Bool
  | .entry :: _ => true
  | ts => endsBlockPart ts

/-- A token before which the value of a single pair in brackets may be left out. -/
def endsPairPart : List Token → Bool
  | .comma :: _ | .closeSequence :: _ | [] => true
  | _ => false

/-- A token before which a value in braces may be left out. -/
def endsFlowValue : List Token → Bool
  | .comma :: _ | .closeMapping :: _ | [] => true
  | _ => false

/-- Step over the comma between two parts in brackets; before the first part there is none. -/
def separated? (first : Bool) (ts : List Token) : Option (List Token) :=
  if first then some ts
  else
    match ts with
    | .comma :: ts => some ts
    | _ => none

mutual

/-- Read a node.  `block` allows it to open a block, `inner` to be a sequence that opens none. -/
def read? (handles : List (String × String)) :
    Nat → Bool → Bool → List Token → Option (Node × List Token)
  | 0, _, _, _ => none
  | _ + 1, _, _, .reference name :: ts => some (.reference name, ts)
  | fuel + 1, block, inner, ts => do
    let (p, ts) ← properties? handles ts
    let omitted : Option (Node × List Token) :=
      if p = bare then none else some (missing p, ts)
    match ts with
    | .scalar text isPlain :: ts => return (.scalar p text isPlain, ts)
    | .openSequence :: ts =>
      let (items, ts) ← flowItems? handles fuel true ts
      return (.sequence p items, ts)
    | .openMapping :: ts =>
      let (pairs, ts) ← flowPairs? handles fuel true ts
      return (.mapping p pairs, ts)
    | .entry :: _ =>
      if inner then
        let (items, ts) ← innerItems? handles fuel ts
        return (.sequence p items, ts)
      else omitted
    | .openBlockSequence :: rest =>
      if block then
        let (items, ts) ← blockItems? handles fuel rest
        return (.sequence p items, ts)
      else omitted
    | .openBlockMapping :: rest =>
      if block then
        let (pairs, ts) ← blockPairs? handles fuel rest
        return (.mapping p pairs, ts)
      else omitted
    | _ => omitted

/-- Read a part that is left out when `ends` holds. -/
def part? (handles : List (String × String)) :
    Nat → Bool → Bool → Bool → List Token → Option (Node × List Token)
  | 0, _, _, _, _ => none
  | fuel + 1, ends, block, inner, ts =>
    if ends then some (missing bare, ts) else read? handles fuel block inner ts

/-- Read the items of a block sequence up to its end. -/
def blockItems? (handles : List (String × String)) :
    Nat → List Token → Option (List Node × List Token)
  | 0, _ => none
  | fuel + 1, .entry :: ts => do
    let (item, ts) ← part? handles fuel (endsBlockItem ts) true false ts
    let (items, ts) ← blockItems? handles fuel ts
    return (item :: items, ts)
  | _ + 1, .closeBlock :: ts => some ([], ts)
  | _ + 1, _ => none

/-- Read the items of a sequence that opens no block, up to the next other token. -/
def innerItems? (handles : List (String × String)) :
    Nat → List Token → Option (List Node × List Token)
  | 0, _ => none
  | fuel + 1, .entry :: ts => do
    let (item, ts) ← part? handles fuel (endsInnerItem ts) true false ts
    let (items, ts) ← innerItems? handles fuel ts
    return (item :: items, ts)
  | _ + 1, ts => some ([], ts)

/-- Read the value of a pair in a block mapping, which may be left out with its mark. -/
def blockValue? (handles : List (String × String)) :
    Nat → List Token → Option (Node × List Token)
  | 0, _ => none
  | fuel + 1, .value :: ts => part? handles fuel (endsBlockPart ts) true true ts
  | _ + 1, ts => some (missing bare, ts)

/-- Read the pairs of a block mapping up to its end. -/
def blockPairs? (handles : List (String × String)) :
    Nat → List Token → Option (List (Node × Node) × List Token)
  | 0, _ => none
  | fuel + 1, .key :: ts => do
    let (key, ts) ← part? handles fuel (endsBlockPart ts) true true ts
    let (value, ts) ← blockValue? handles fuel ts
    let (pairs, ts) ← blockPairs? handles fuel ts
    return ((key, value) :: pairs, ts)
  | _ + 1, .closeBlock :: ts => some ([], ts)
  | _ + 1, _ => none

/-- Read a single pair in brackets, behind the mark of its key. -/
def singlePair? (handles : List (String × String)) :
    Nat → List Token → Option (Node × List Token)
  | 0, _ => none
  | fuel + 1, ts => do
    let (key, ts) ← match ts with
      | .value :: _ => some (missing bare, ts)
      | _ => part? handles fuel (endsPairPart ts) false false ts
    let (value, ts) ← match ts with
      | .value :: ts => part? handles fuel (endsPairPart ts) false false ts
      | _ => some (missing bare, ts)
    return (.mapping bare [(key, value)], ts)

/-- Read the items in brackets up to the bracket that closes. -/
def flowItems? (handles : List (String × String)) :
    Nat → Bool → List Token → Option (List Node × List Token)
  | 0, _, _ => none
  | _ + 1, _, .closeSequence :: ts => some ([], ts)
  | fuel + 1, first, ts => do
    match ← separated? first ts with
    | .closeSequence :: ts => return ([], ts)
    | .key :: ts =>
      let (item, ts) ← singlePair? handles fuel ts
      let (items, ts) ← flowItems? handles fuel false ts
      return (item :: items, ts)
    | ts =>
      let (item, ts) ← read? handles fuel false false ts
      let (items, ts) ← flowItems? handles fuel false ts
      return (item :: items, ts)

/-- Read a pair in braces; without the mark of its key it has no value. -/
def flowPair? (handles : List (String × String)) :
    Nat → List Token → Option ((Node × Node) × List Token)
  | 0, _ => none
  | fuel + 1, .key :: ts => do
    let (key, ts) ← match ts with
      | .value :: _ => some (missing bare, ts)
      | _ => part? handles fuel (endsFlowValue ts) false false ts
    let (value, ts) ← match ts with
      | .value :: ts => part? handles fuel (endsFlowValue ts) false false ts
      | _ => some (missing bare, ts)
    return ((key, value), ts)
  | fuel + 1, ts => do
    let (key, ts) ← read? handles fuel false false ts
    return ((key, missing bare), ts)

/-- Read the pairs in braces up to the brace that closes. -/
def flowPairs? (handles : List (String × String)) :
    Nat → Bool → List Token → Option (List (Node × Node) × List Token)
  | 0, _, _ => none
  | _ + 1, _, .closeMapping :: ts => some ([], ts)
  | fuel + 1, first, ts => do
    match ← separated? first ts with
    | .closeMapping :: ts => return ([], ts)
    | ts =>
      let (pair, ts) ← flowPair? handles fuel ts
      let (pairs, ts) ← flowPairs? handles fuel false ts
      return (pair :: pairs, ts)

end

/-- Take in the directives before a document: whether a version was stated, and the handles. -/
def directives? (stated : Bool) (handles : List (String × String)) :
    List Token → Option (List (String × String) × List Token)
  | .version major minor :: ts =>
    if stated ∨ major ≠ 1 ∨ (minor ≠ 1 ∧ minor ≠ 2) then none else directives? true handles ts
  | .tagHandle handle lead :: ts =>
    if (handles.lookup handle).isSome then none
    else directives? stated ((handle, lead) :: handles) ts
  | ts => some (handles ++ knownHandles, ts)

/-- The marks that end a document, to the end of the text. -/
def isOver (ts : List Token) : Bool := ts.all (· == .documentEnd)

/-- A token before which a document may be empty. -/
def endsDocument : List Token → Bool
  | .version _ _ :: _ | .tagHandle _ _ :: _ | .documentStart :: _ | .documentEnd :: _ | [] => true
  | _ => false

/-- The root of the only document; an empty text has none. -/
def ofTokens? (ts : List Token) : Option (Option Node) := do
  if ts = [] then return none
  let fuel := 3 * ts.length + 3
  let (root, rest) ←
    if endsDocument ts ∧ ts.head? ≠ some .documentEnd then do
      let (handles, ts) ← directives? false [] ts
      match ts with
      | .documentStart :: ts => part? handles fuel (endsDocument ts) true false ts
      | _ => none
    else read? knownHandles fuel true false ts
  if isOver rest then return some root else none

/-- The root of the only document of a text. -/
def ofText? (text : String) : Option (Option Node) := do
  ofTokens? (← Token.ofText? text)

end Node

end SignOn.Yaml
