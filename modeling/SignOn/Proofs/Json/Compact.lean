import SignOn.Proofs.Json.ReadBack
/-!
# A compact document is read back

The compact form of a value leaves out the blanks of the other form and nothing else, so it is cut
into the same tokens (`cutClosed_compactChars`).  Where no blank stands before it, a mark ends a
word; the items and members after the first begin with one.

The main statement is `nodeOfText?_compact`: what is read from the compact form of a value is the
node of that value.
-/

namespace SignOn.Json

open Token (Cut CutClosed Closes cut_nil cut_writeText cutClosed_word cutClosed_null cutClosed_true
  cutClosed_false)

/-- What follows an item ends a word. -/
theorem closes_compactItems (items : List Json) : Closes (compactItems items) := by
  cases items with
  | nil => exact ⟨']', [], rfl, .inr (by decide)⟩
  | cons item items => exact ⟨',', _, rfl, .inr (by decide)⟩

/-- What follows a member ends a word. -/
theorem closes_compactMembers (members : List (String × Json)) :
    Closes (compactMembers members) := by
  cases members with
  | nil => exact ⟨'\x7d', [], rfl, .inr (by decide)⟩
  | cons member members => exact ⟨',', _, rfl, .inr (by decide)⟩

/-- A member of an object in front of the members after it. -/
theorem cut_compactMember (name : String) {value rest : List Char} {ts us : List Token}
    (hvalue : CutClosed value ts) (hrest : Cut rest us) (hcloses : Closes rest) :
    Cut (writeText name ++ ':' :: value ++ rest) (.str (some name) :: .colon :: (ts ++ us)) := by
  have hafter : Cut (':' :: (value ++ rest)) (.colon :: (ts ++ us)) :=
    .mark ⟨rfl, by decide⟩ (hvalue.append hrest hcloses)
  have hwhole := (cut_writeText name).append hafter
  simpa using hwhole

mutual

/-- **The compact form of a value is cut into its tokens.** -/
theorem cutClosed_compactChars : ∀ v : Json, v.Legible → CutClosed (compactChars v) v.tokens
  | .null, _ => cutClosed_null
  | .bool b, _ => by
      cases b with
      | false => exact cutClosed_false
      | true => exact cutClosed_true
  | .num n, hn => cutClosed_word n.write.toList hn.nonempty hn.bare hn.read
  | .str s, _ => (cut_writeText s).cutClosed
  | .arr [], _ => (Cut.mark ⟨rfl, by decide⟩ (.mark ⟨rfl, by decide⟩ cut_nil)).cutClosed
  | .arr (item :: items), ⟨hitem, hitems⟩ => by
      have hbody := (cutClosed_compactChars item hitem).append (cut_compactItems items hitems)
        (closes_compactItems items)
      have hwhole := Cut.mark (c := '[') (t := .openArray) ⟨rfl, by decide⟩ hbody
      simpa [compactChars, tokens] using hwhole.cutClosed
  | .obj [], _ => (Cut.mark ⟨rfl, by decide⟩ (.mark ⟨rfl, by decide⟩ cut_nil)).cutClosed
  | .obj ((name, value) :: members), ⟨hvalue, hmembers⟩ => by
      have hbody := cut_compactMember name (cutClosed_compactChars value hvalue)
        (cut_compactMembers members hmembers) (closes_compactMembers members)
      have hwhole := Cut.mark (c := '\x7b') (t := .openObject) ⟨rfl, by decide⟩ hbody
      simpa [compactChars, tokens] using hwhole.cutClosed

/-- The rest of a compact array. -/
theorem cut_compactItems : ∀ items : List Json, LegibleItems items →
    Cut (compactItems items) (itemTokens items)
  | [], _ => .mark ⟨rfl, by decide⟩ cut_nil
  | item :: items, ⟨hitem, hitems⟩ => by
      have hbody := (cutClosed_compactChars item hitem).append (cut_compactItems items hitems)
        (closes_compactItems items)
      have hwhole := Cut.mark (c := ',') (t := .comma) ⟨rfl, by decide⟩ hbody
      simpa [compactItems, itemTokens] using hwhole

/-- The rest of a compact object. -/
theorem cut_compactMembers : ∀ members : List (String × Json), LegibleMembers members →
    Cut (compactMembers members) (memberTokens members)
  | [], _ => .mark ⟨rfl, by decide⟩ cut_nil
  | (name, value) :: members, ⟨hvalue, hmembers⟩ => by
      have hbody := cut_compactMember name (cutClosed_compactChars value hvalue)
        (cut_compactMembers members hmembers) (closes_compactMembers members)
      have hwhole := Cut.mark (c := ',') (t := .comma) ⟨rfl, by decide⟩ hbody
      simpa [compactMembers, memberTokens] using hwhole

end

/-- **A compact document is read back as the value that was written.** -/
theorem nodeOfText?_compact (v : Json) (hv : v.Legible) :
    nodeOfText? v.compact = some (Node.ofJson v) := by
  have htokens := (cutClosed_compactChars v hv).tokens?
  simp [nodeOfText?, Node.read?, compact, String.toList_ofList, htokens, Node.ofTokens?_tokens]

end SignOn.Json
