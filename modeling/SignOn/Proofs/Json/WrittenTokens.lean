import SignOn.Json.Reader
import SignOn.Json.Writer
import SignOn.Proofs.Text.Hex
import SignOn.Proofs.Text.Utf8
/-!
# The tokens of a written document

A written document is a list of characters, a read one begins as a list of tokens.  This file says
which tokens a value has (`Json.tokens`) and that its written form is cut into exactly those
(`tokensFrom?_prettyChars`).  Three facts carry the induction over the value:

* blanks are skipped and marks are tokens of their own;
* a written text is one token, whatever characters it holds (`tokensFrom?_writeText`): every escape
  is undone where it stands, so the reader's standing after a character is that of the character;
* a word is one token if what follows closes it, which in a written document is always so
  (`Closed`).

Numbers are words whose reading is arithmetic of its own; a value is `Legible` when its numbers are
read back.
-/

namespace SignOn.Json.Token

/-! ### Cutting -/

/-- The text is cut into the tokens `ts`, whatever follows it. -/
def Cut (text : List Char) (ts : List Token) : Prop :=
  ∀ rest, tokensFrom? .between (text.map some ++ rest) = (tokensFrom? .between rest).map (ts ++ ·)

/-- What follows ends a word: nothing, a blank or a mark. -/
def Closed (rest : List (Option Char)) : Prop :=
  rest = [] ∨ ∃ c more, rest = some c :: more ∧ (isSpace c = true ∨ (mark? c).isSome)

/-- The text is cut into the tokens `ts`, if what follows it ends a word. -/
def CutClosed (text : List Char) (ts : List Token) : Prop :=
  ∀ rest, Closed rest →
    tokensFrom? .between (text.map some ++ rest) = (tokensFrom? .between rest).map (ts ++ ·)

/-- The text ends a word that stands before it. -/
def Closes (text : List Char) : Prop :=
  ∃ c more, text = c :: more ∧ (isSpace c = true ∨ (mark? c).isSome)

theorem closed_nil : Closed [] := Or.inl rfl

theorem Closes.closed {text : List Char} (h : Closes text) (rest : List (Option Char)) :
    Closed (text.map some ++ rest) := by
  obtain ⟨c, more, rfl, hc⟩ := h
  exact Or.inr ⟨c, more.map some ++ rest, rfl, hc⟩

theorem Cut.cutClosed {text : List Char} {ts : List Token} (h : Cut text ts) : CutClosed text ts :=
  fun rest _ => h rest

theorem cut_nil : Cut [] [] := by
  intro rest
  simp

/-- A text that needs an end is cut in front of one that gives it. -/
theorem CutClosed.append {a b : List Char} {ts us : List Token} (ha : CutClosed a ts)
    (hb : Cut b us) (hcloses : Closes b) : Cut (a ++ b) (ts ++ us) := by
  intro rest
  rw [List.map_append, List.append_assoc, ha _ (hcloses.closed rest), hb rest, Option.map_map]
  congr 1
  funext more
  exact (List.append_assoc ts us more).symm

theorem Cut.append {a b : List Char} {ts us : List Token} (ha : Cut a ts) (hb : Cut b us) :
    Cut (a ++ b) (ts ++ us) := by
  intro rest
  rw [List.map_append, List.append_assoc, ha, hb, Option.map_map]
  congr 1
  funext more
  exact (List.append_assoc ts us more).symm

/-- Blanks are skipped. -/
theorem Cut.space {c : Char} {text : List Char} {ts : List Token} (hspace : isSpace c = true)
    (h : Cut text ts) : Cut (c :: text) ts := by
  intro rest
  have hskip : tokensFrom? .between (some c :: (text.map some ++ rest)) =
      tokensFrom? .between (text.map some ++ rest) := by
    simp [tokensFrom?, step?, outside?, hspace]
  rw [List.map_cons, List.cons_append, hskip, h]

/-- A character is a mark with the token `t`. -/
def IsMark (c : Char) (t : Token) : Prop := mark? c = some t ∧ isSpace c = false ∧ c ≠ '"'

/-- Marks are tokens of their own. -/
theorem Cut.mark {c : Char} {t : Token} {text : List Char} {ts : List Token} (hmark : IsMark c t)
    (h : Cut text ts) : Cut (c :: text) (t :: ts) := by
  intro rest
  have hstep : step? .between (some c) = some ([t], .between) := by
    simp [step?, outside?, hmark.1, hmark.2.1, hmark.2.2]
  cases hrest : tokensFrom? .between rest <;> simp [tokensFrom?, hstep, h rest, hrest]

/-- A line break with its indentation is skipped. -/
theorem cut_newline (level : Nat) : Cut (newline level) [] := by
  have hblanks : ∀ n, Cut (List.replicate n ' ') [] := by
    intro n
    induction n with
    | zero => exact cut_nil
    | succ n ih => exact Cut.space (by decide) ih
  exact Cut.space (by decide) (hblanks _)

theorem closes_newline (level : Nat) (text : List Char) : Closes (newline level ++ text) :=
  ⟨'\n', List.replicate (2 * level) ' ' ++ text, rfl, Or.inl (by decide)⟩

/-! ### Texts -/

/-- A text of which the characters `cs` are read. -/
def Partial.ofChars (cs : List Char) : Partial := ⟨(cs.map some).reverse, none⟩

theorem Partial.push_ofChars (cs : List Char) (c : Char) :
    (Partial.ofChars cs).push (some c) = Partial.ofChars (cs ++ [c]) := by
  simp [Partial.ofChars, Partial.push]

theorem Partial.text?_ofChars (cs : List Char) :
    (Partial.ofChars cs).text? = some (String.ofList cs) := by
  simp only [Partial.ofChars, Partial.text?, List.reverse_reverse, mapM_id_some,
    Option.map_some]

/-- A control character is no surrogate: its code unit is the character. -/
theorem Partial.pushUnit_ofChars (cs : List Char) {n : Nat} (hn : n < 32) :
    (Partial.ofChars cs).pushUnit n = Partial.ofChars (cs ++ [Char.ofNat n]) := by
  rw [Partial.pushUnit, if_neg (by omega), if_neg (by omega), Partial.push_ofChars]

/-- A character that stands for itself. -/
theorem tokensFrom?_plain (cs : List Char) {c : Char} (hquote : c ≠ '"') (hslash : c ≠ '\\')
    (hprint : ¬c.toNat < 32) (rest : List (Option Char)) :
    tokensFrom? (.text (.ofChars cs)) (some c :: rest) =
      tokensFrom? (.text (.ofChars (cs ++ [c]))) rest := by
  have hstep : step? (.text (.ofChars cs)) (some c) =
      some ([], .text ((Partial.ofChars cs).push (some c))) := by
    simp [step?, hprint]
  simp [tokensFrom?, hstep, Partial.push_ofChars]

/-- A character that is written as a letter behind a backslash. -/
theorem tokensFrom?_letter (cs : List Char) {letter c : Char} (hletter : escape? letter = some c)
    (hunit : letter ≠ 'u') (rest : List (Option Char)) :
    tokensFrom? (.text (.ofChars cs)) (some '\\' :: some letter :: rest) =
      tokensFrom? (.text (.ofChars (cs ++ [c]))) rest := by
  simp [tokensFrom?, step?, hletter, hunit, Partial.push_ofChars]

/-- A control character that is written as its code unit. -/
theorem tokensFrom?_unit (cs : List Char) {n : Nat} (hn : n < 32) (rest : List (Option Char)) :
    tokensFrom? (.text (.ofChars cs)) (['\\', 'u', '0', '0', Hex.digit (n / 16),
        Hex.digit (n % 16)].map some ++ rest) =
      tokensFrom? (.text (.ofChars (cs ++ [Char.ofNat n]))) rest := by
  have hhigh : Hex.value? (Hex.digit (n / 16)) = some (n / 16) :=
    Hex.value?_digit (by omega)
  have hlow : Hex.value? (Hex.digit (n % 16)) = some (n % 16) :=
    Hex.value?_digit (by omega)
  have hzero : Hex.value? '0' = some 0 := by decide
  have hvalue : 16 * (n / 16) + n % 16 = n := by omega
  simp [tokensFrom?, step?, hhigh, hlow, hzero, hvalue, Partial.pushUnit_ofChars cs hn]

/-- **One character of a text.**  Escaped or not, it moves the reader on by itself. -/
theorem tokensFrom?_escapeChar (cs : List Char) (c : Char) (rest : List (Option Char)) :
    tokensFrom? (.text (.ofChars cs)) ((escapeChar c).map some ++ rest) =
      tokensFrom? (.text (.ofChars (cs ++ [c]))) rest := by
  have hcode : ∀ {n}, c.toNat = n → Char.ofNat n = c := fun h => h ▸ Char.ofNat_toNat c
  unfold escapeChar
  split
  · next h => subst h; exact tokensFrom?_letter cs (by decide) (by decide) rest
  split
  · next h => subst h; exact tokensFrom?_letter cs (by decide) (by decide) rest
  split
  · next h => exact tokensFrom?_letter cs (hcode h ▸ by decide) (by decide) rest
  split
  · next h => exact tokensFrom?_letter cs (hcode h ▸ by decide) (by decide) rest
  split
  · next h => exact tokensFrom?_letter cs (hcode h ▸ by decide) (by decide) rest
  split
  · next h => exact tokensFrom?_letter cs (hcode h ▸ by decide) (by decide) rest
  split
  · next h => exact tokensFrom?_letter cs (hcode h ▸ by decide) (by decide) rest
  split
  · next h => simpa only [hcode rfl] using tokensFrom?_unit cs h rest
  · next hquote hslash _ _ _ _ _ hprint => exact tokensFrom?_plain cs hquote hslash hprint rest

theorem tokensFrom?_escaped (cs more : List Char) (rest : List (Option Char)) :
    tokensFrom? (.text (.ofChars cs)) ((more.flatMap escapeChar).map some ++ rest) =
      tokensFrom? (.text (.ofChars (cs ++ more))) rest := by
  induction more generalizing cs with
  | nil => simp
  | cons c more ih =>
      rw [List.flatMap_cons, List.map_append, List.append_assoc, tokensFrom?_escapeChar, ih,
        List.append_assoc, List.singleton_append]

/-- **A written text is one token.** -/
theorem cut_writeText (s : String) : Cut (writeText s) [.str (some s)] := by
  intro rest
  have hopen : ∀ more, tokensFrom? .between (some '"' :: more) =
      tokensFrom? (.text (.ofChars [])) more := by
    intro more
    simp [tokensFrom?, step?, outside?, isSpace, Partial.ofChars]
  have hclose : tokensFrom? (.text (.ofChars s.toList)) (some '"' :: rest) =
      (tokensFrom? .between rest).map ([.str (some s)] ++ ·) := by
    cases h : tokensFrom? .between rest <;>
      simp [tokensFrom?, step?, Partial.text?_ofChars, h]
  calc tokensFrom? .between ((writeText s).map some ++ rest)
      = tokensFrom? .between
          (some '"' :: ((s.toList.flatMap escapeChar).map some ++ some '"' :: rest)) := by
        simp [writeText]
    _ = tokensFrom? (.text (.ofChars s.toList)) (some '"' :: rest) := by
        rw [hopen, tokensFrom?_escaped, List.nil_append]
    _ = (tokensFrom? .between rest).map ([.str (some s)] ++ ·) := hclose

/-! ### Words -/

/-- A character that is part of a word wherever it stands outside of texts. -/
def IsBare (c : Char) : Prop := isSpace c = false ∧ c ≠ '"' ∧ mark? c = none

/-- A word that has been read up to its end. -/
theorem tokensFrom?_wordEnd {reversed : List Char} {t : Token} {rest : List (Option Char)}
    (hword : word? reversed.reverse = some t) (hclosed : Closed rest) :
    tokensFrom? (.word reversed) rest = (tokensFrom? .between rest).map (t :: ·) := by
  rcases hclosed with rfl | ⟨c, more, rfl, hc⟩
  · simp [tokensFrom?, hword]
  · by_cases hspace : isSpace c = true
    · cases h : tokensFrom? .between more <;>
        simp [tokensFrom?, step?, outside?, hspace, hword, h]
    · obtain ⟨mark, hmark⟩ := Option.isSome_iff_exists.mp (hc.resolve_left hspace)
      have hquote : c ≠ '"' := by
        intro heq
        subst heq
        cases (by decide : mark? '"' = none).symm.trans hmark
      cases h : tokensFrom? .between more <;>
        simp [tokensFrom?, step?, outside?, hspace, hquote, hmark, hword, h]

/-- Further characters of a word. -/
theorem tokensFrom?_wordMore (reversed word : List Char) (rest : List (Option Char))
    (hbare : ∀ c ∈ word, IsBare c) :
    tokensFrom? (.word reversed) (word.map some ++ rest) =
      tokensFrom? (.word (word.reverse ++ reversed)) rest := by
  induction word generalizing reversed with
  | nil => rfl
  | cons c word ih =>
      obtain ⟨hspace, hquote, hmark⟩ := hbare c List.mem_cons_self
      have hstep : step? (.word reversed) (some c) = some ([], .word (c :: reversed)) := by
        simp [step?, outside?, hspace, hquote, hmark]
      have htail := ih (c :: reversed) fun d hd => hbare d (List.mem_cons_of_mem c hd)
      simp [tokensFrom?, hstep, htail]

/-- **A word that something ends is one token.** -/
theorem cutClosed_word (word : List Char) {t : Token} (hne : word ≠ [])
    (hbare : ∀ c ∈ word, IsBare c) (hword : word? word = some t) : CutClosed word [t] := by
  intro rest hclosed
  obtain ⟨c, word, rfl⟩ := List.exists_cons_of_ne_nil hne
  obtain ⟨hspace, hquote, hmark⟩ := hbare c List.mem_cons_self
  have hstep : step? .between (some c) = some ([], .word [c]) := by
    simp [step?, outside?, hspace, hquote, hmark]
  have hmore := tokensFrom?_wordMore [c] word rest
    fun d hd => hbare d (List.mem_cons_of_mem c hd)
  have hend : tokensFrom? (.word (word.reverse ++ [c])) rest =
      (tokensFrom? .between rest).map (t :: ·) :=
    tokensFrom?_wordEnd (by simpa using hword) hclosed
  simp [tokensFrom?, hstep, hmore, hend]

theorem cutClosed_null : CutClosed ['n', 'u', 'l', 'l'] [.null] :=
  cutClosed_word _ (by simp) (by simp [IsBare, isSpace, mark?]) (by simp [word?])

theorem cutClosed_true : CutClosed ['t', 'r', 'u', 'e'] [.bool true] :=
  cutClosed_word _ (by simp) (by simp [IsBare, isSpace, mark?]) (by simp [word?])

theorem cutClosed_false : CutClosed ['f', 'a', 'l', 's', 'e'] [.bool false] :=
  cutClosed_word _ (by simp) (by simp [IsBare, isSpace, mark?]) (by simp [word?])

end SignOn.Json.Token

namespace SignOn.Json

/-! ### Values -/

/-- A number whose written form is one word and is read as that number. -/
structure Number.Legible (n : Number) : Prop where
  nonempty : n.write.toList ≠ []
  bare : ∀ c ∈ n.write.toList, Token.IsBare c
  read : Token.word? n.write.toList = some (.num (some n))

mutual

/-- A value whose numbers are read back. -/
def Legible : Json → Prop
  | .num n => n.Legible
  | .arr items => LegibleItems items
  | .obj members => LegibleMembers members
  | _ => True

/-- Items whose numbers are read back. -/
def LegibleItems : List Json → Prop
  | [] => True
  | item :: items => Legible item ∧ LegibleItems items

/-- Members whose numbers are read back. -/
def LegibleMembers : List (String × Json) → Prop
  | [] => True
  | (_, value) :: members => Legible value ∧ LegibleMembers members

end

mutual

/-- The tokens of a value. -/
def tokens : Json → List Token
  | .null => [.null]
  | .bool b => [.bool b]
  | .num n => [.num (some n)]
  | .str s => [.str (some s)]
  | .arr [] => [.openArray, .closeArray]
  | .arr (item :: items) => .openArray :: (tokens item ++ itemTokens items)
  | .obj [] => [.openObject, .closeObject]
  | .obj ((name, value) :: members) =>
    .openObject :: .str (some name) :: .colon :: (tokens value ++ memberTokens members)

/-- The tokens of the items of an array after the first, and of its end. -/
def itemTokens : List Json → List Token
  | [] => [.closeArray]
  | item :: items => .comma :: (tokens item ++ itemTokens items)

/-- The tokens of the members of an object after the first, and of its end. -/
def memberTokens : List (String × Json) → List Token
  | [] => [.closeObject]
  | (name, value) :: members =>
    .comma :: .str (some name) :: .colon :: (tokens value ++ memberTokens members)

end

open Token (Cut CutClosed Closes cut_nil cut_newline closes_newline cut_writeText cutClosed_word
  cutClosed_null cutClosed_true cutClosed_false)

theorem closes_prettyItems (level : Nat) (items : List Json) :
    Closes (prettyItems level items) := by
  cases items with
  | nil => exact closes_newline level [']']
  | cons item items => exact ⟨',', _, rfl, Or.inr (by decide)⟩

theorem closes_prettyMembers (level : Nat) (members : List (String × Json)) :
    Closes (prettyMembers level members) := by
  cases members with
  | nil => exact closes_newline level ['\x7d']
  | cons member members => exact ⟨',', _, rfl, Or.inr (by decide)⟩

/-- An item of an array in front of the items after it. -/
theorem cut_item (level : Nat) {value rest : List Char} {ts us : List Token}
    (hvalue : CutClosed value ts) (hrest : Cut rest us) (hcloses : Closes rest) :
    Cut (newline level ++ value ++ rest) (ts ++ us) := by
  have hwhole := (cut_newline level).append (hvalue.append hrest hcloses)
  simpa using hwhole

/-- A member of an object in front of the members after it. -/
theorem cut_member (level : Nat) (name : String) {value rest : List Char} {ts us : List Token}
    (hvalue : CutClosed value ts) (hrest : Cut rest us) (hcloses : Closes rest) :
    Cut (newline level ++ writeText name ++ ':' :: ' ' :: value ++ rest)
      (.str (some name) :: .colon :: (ts ++ us)) := by
  have hafter : Cut (':' :: ' ' :: (value ++ rest)) (.colon :: (ts ++ us)) :=
    .mark ⟨rfl, by decide⟩ (.space (by decide) (hvalue.append hrest hcloses))
  have hwhole := ((cut_newline level).append (cut_writeText name)).append hafter
  simpa using hwhole

mutual

/-- **The written form of a value is cut into its tokens.** -/
theorem cutClosed_prettyChars (level : Nat) : ∀ v : Json, v.Legible →
    CutClosed (prettyChars level v) v.tokens
  | .null, _ => cutClosed_null
  | .bool b, _ => by
      cases b with
      | false => exact cutClosed_false
      | true => exact cutClosed_true
  | .num n, hn => cutClosed_word n.write.toList hn.nonempty hn.bare hn.read
  | .str s, _ => (cut_writeText s).cutClosed
  | .arr [], _ => (Cut.mark ⟨rfl, by decide⟩ (.mark ⟨rfl, by decide⟩ cut_nil)).cutClosed
  | .arr (item :: items), ⟨hitem, hitems⟩ => by
      have hbody := cut_item (level + 1) (cutClosed_prettyChars (level + 1) item hitem)
        (cut_prettyItems level items hitems) (closes_prettyItems level items)
      have hwhole := Cut.mark (c := '[') (t := .openArray) ⟨rfl, by decide⟩ hbody
      simpa [prettyChars, tokens] using hwhole.cutClosed
  | .obj [], _ => (Cut.mark ⟨rfl, by decide⟩ (.mark ⟨rfl, by decide⟩ cut_nil)).cutClosed
  | .obj ((name, value) :: members), ⟨hvalue, hmembers⟩ => by
      have hbody := cut_member (level + 1) name
        (cutClosed_prettyChars (level + 1) value hvalue)
        (cut_prettyMembers level members hmembers) (closes_prettyMembers level members)
      have hwhole := Cut.mark (c := '\x7b') (t := .openObject) ⟨rfl, by decide⟩ hbody
      simpa [prettyChars, tokens] using hwhole.cutClosed

/-- The rest of an array. -/
theorem cut_prettyItems (level : Nat) : ∀ items : List Json, LegibleItems items →
    Cut (prettyItems level items) (itemTokens items)
  | [], _ => (cut_newline level).append (.mark ⟨rfl, by decide⟩ cut_nil)
  | item :: items, ⟨hitem, hitems⟩ => by
      have hbody := cut_item (level + 1) (cutClosed_prettyChars (level + 1) item hitem)
        (cut_prettyItems level items hitems) (closes_prettyItems level items)
      have hwhole := Cut.mark (c := ',') (t := .comma) ⟨rfl, by decide⟩ hbody
      simpa [prettyItems, itemTokens] using hwhole

/-- The rest of an object. -/
theorem cut_prettyMembers (level : Nat) : ∀ members : List (String × Json),
    LegibleMembers members → Cut (prettyMembers level members) (memberTokens members)
  | [], _ => (cut_newline level).append (.mark ⟨rfl, by decide⟩ cut_nil)
  | (name, value) :: members, ⟨hvalue, hmembers⟩ => by
      have hbody := cut_member (level + 1) name
        (cutClosed_prettyChars (level + 1) value hvalue)
        (cut_prettyMembers level members hmembers) (closes_prettyMembers level members)
      have hwhole := Cut.mark (c := ',') (t := .comma) ⟨rfl, by decide⟩ hbody
      simpa [prettyMembers, memberTokens] using hwhole

end

end SignOn.Json
