import SignOn.Proofs.Json.WrittenTokens
/-!
# A written document is read back

The reader of tokens keeps a stack of arrays and objects that are still open.  From a place where a
value is due, the tokens of a value bring it to where that value is delivered
(`foldlM_tokens`); the parts of an open array or object are gathered in reverse, so its end
delivers them in the order in which they are written.

With the tokens of a written document (`SignOn.Proofs.Json.WrittenTokens`) this gives the main
statement, `nodeOfText?_pretty`: what is read from the written form of a value is the node of that
value (`Node.ofJson`), for texts of all characters and values of any depth.
-/

namespace SignOn.Json

namespace Node

mutual

/-- The node that is read where a value was written. -/
def ofJson : Json → Node
  | .null => .null
  | .bool b => .bool b
  | .num n => .num (some n)
  | .str s => .str (some s)
  | .arr items => .arr (ofItems items)
  | .obj members => .obj (ofMembers members)

/-- The nodes of a list of values. -/
def ofItems : List Json → List Node
  | [] => []
  | item :: items => ofJson item :: ofItems items

/-- The nodes of a list of members. -/
def ofMembers : List (String × Json) → List (Option String × Node)
  | [] => []
  | (name, value) :: members => (some name, ofJson value) :: ofMembers members

end

/-- The first token of a value closes no array. -/
theorem step?_value (stack : List Frame) (fresh : Bool) {t : Token}
    (ht : t ≠ .closeArray) : step? (.value stack fresh) t = begin? stack t := by
  unfold step?
  split <;> simp_all

theorem foldlM_step {s s' : State} {t : Token} (h : step? s t = some s') (more : List Token) :
    (t :: more).foldlM step? s = more.foldlM step? s' := by
  rw [List.foldlM_cons, h]
  rfl

mutual

/-- **The tokens of a value deliver its node.** -/
theorem foldlM_tokens (stack : List Frame) (fresh : Bool) (more : List Token) : ∀ v : Json,
    (v.tokens ++ more).foldlM step? (.value stack fresh) =
      more.foldlM step? (deliver (ofJson v) stack)
  | .null => foldlM_step (step?_value stack fresh (by simp)) more
  | .bool b => foldlM_step (step?_value stack fresh (by simp)) more
  | .num n => foldlM_step (step?_value stack fresh (by simp)) more
  | .str s => foldlM_step (step?_value stack fresh (by simp)) more
  | .arr [] => by
      have hopen := step?_value stack fresh (t := .openArray) (by simp)
      exact (foldlM_step hopen _).trans (foldlM_step rfl more)
  | .arr (item :: items) => by
      have hopen := step?_value stack fresh (t := .openArray) (by simp)
      rw [begin?] at hopen
      rw [tokens, List.cons_append, List.append_assoc, foldlM_step hopen, foldlM_tokens, deliver,
        foldlM_itemTokens]
      rfl
  | .obj [] => by
      have hopen := step?_value stack fresh (t := .openObject) (by simp)
      exact (foldlM_step hopen _).trans (foldlM_step rfl more)
  | .obj ((name, value) :: members) => by
      have hopen := step?_value stack fresh (t := .openObject) (by simp)
      rw [begin?] at hopen
      rw [tokens, List.cons_append, List.cons_append, List.cons_append, List.append_assoc,
        foldlM_step hopen, foldlM_step rfl, foldlM_step rfl, foldlM_tokens, deliver,
        foldlM_memberTokens]
      rfl

/-- The rest of an array delivers it with the items that have been gathered before. -/
theorem foldlM_itemTokens (stack : List Frame) (gathered : List Node) (more : List Token) :
    ∀ items : List Json,
    (itemTokens items ++ more).foldlM step? (.next stack (.arr gathered)) =
      more.foldlM step? (deliver (.arr (gathered.reverse ++ ofItems items)) stack)
  | [] => by
      rw [ofItems, List.append_nil]
      exact foldlM_step rfl more
  | item :: items => by
      have hcomma : step? (.next stack (.arr gathered)) .comma =
          some (.value (.arr gathered :: stack) false) := rfl
      rw [itemTokens, List.cons_append, List.append_assoc, foldlM_step hcomma, foldlM_tokens,
        deliver, foldlM_itemTokens, List.reverse_cons, List.append_assoc]
      rfl

/-- The rest of an object delivers it with the members that have been gathered before. -/
theorem foldlM_memberTokens (stack : List Frame) (gathered : List (Option String × Node))
    (more : List Token) : ∀ members : List (String × Json),
    (memberTokens members ++ more).foldlM step? (.next stack (.obj gathered none)) =
      more.foldlM step? (deliver (.obj (gathered.reverse ++ ofMembers members)) stack)
  | [] => by
      rw [ofMembers, List.append_nil]
      exact foldlM_step rfl more
  | (name, value) :: members => by
      have hcomma : step? (.next stack (.obj gathered none)) .comma =
          some (.name stack gathered false) := rfl
      rw [memberTokens, List.cons_append, List.cons_append, List.cons_append, List.append_assoc,
        foldlM_step hcomma, foldlM_step rfl, foldlM_step rfl, foldlM_tokens, deliver,
        foldlM_memberTokens, List.reverse_cons, List.append_assoc]
      rfl

end

/-- The tokens of a value write its node. -/
theorem ofTokens?_tokens (v : Json) : ofTokens? v.tokens = some (ofJson v) := by
  have h := foldlM_tokens [] false [] v
  simp only [List.append_nil, List.foldlM_nil] at h
  simp [ofTokens?, h, deliver]

end Node

/-- The tokens of a text that is cut into them. -/
theorem Token.CutClosed.tokens? {text : List Char} {ts : List Token} (h : CutClosed text ts) :
    Token.tokens? (text.map some) = some ts := by
  have hend := h [] closed_nil
  simpa [Token.tokens?, tokensFrom?] using hend

/-- **A written document is read back as the value that was written.** -/
theorem nodeOfText?_pretty (v : Json) (hv : v.Legible) :
    nodeOfText? v.pretty = some (Node.ofJson v) := by
  have htokens := (cutClosed_prettyChars 0 v hv).tokens?
  simp [nodeOfText?, Node.read?, pretty, String.toList_ofList, htokens, Node.ofTokens?_tokens]

end SignOn.Json
