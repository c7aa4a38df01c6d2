import SignOn.Proofs.Text.Cutting
import SignOn.Proofs.Text.Hex
import SignOn.Settings.Variable
/-!
# What the value of a variable means

The value of a variable is read by a small language before it is a setting, so it does not always
mean itself.  It does if it begins like a bare word, has no blank at its ends and is no number
(`valueOf_of_isPlain`), as names, paths and addresses do.  Any text at all is meant by its form in
quotes, in which quotes, backslashes and control characters are escaped (`valueOf_inQuotes`).
-/

namespace SignOn.Settings

/-- A character that numbers are written with. -/
def isNumeral (c : Char) : Bool := c.isDigit || "+-.eE".toList.contains c

/-- A text that means itself in a variable. -/
structure IsPlain (text : String) : Prop where
  trimmed : Text.IsTrimmed Text.isBlank text.toList
  bare : ∀ c ∈ text.toList.head?, c ∉ "\x7b[\"'".toList
  noTruth : ∀ word ∈ ["true", "false"], Text.startsWith word text = false
  noNumber : ∃ c ∈ text.toList, isNumeral c = false

section Numbers

theorem isNumeral_of_digits {s : List Char} {n : Nat} (h : Text.digitsToNat? s = some n) :
    ∀ c ∈ s, isNumeral c = true := by
  simp only [Text.digitsToNat?, Option.ite_none_right_eq_some] at h
  intro c hc
  simp [isNumeral, List.all_eq_true.mp h.1.2 c hc]

theorem isNumeral_of_signed {s : List Char} (h : ∀ c ∈ (Yaml.signed s).2, isNumeral c = true) :
    ∀ c ∈ s, isNumeral c = true := by
  unfold Yaml.signed at h
  split at h
  · exact List.forall_mem_cons.mpr ⟨by decide, h⟩
  · exact List.forall_mem_cons.mpr ⟨by decide, h⟩
  · exact h

theorem isNumeral_of_exponent? {s : List Char} {e : Int} (h : Yaml.exponent? s = some e) :
    ∀ c ∈ s, isNumeral c = true := by
  unfold Yaml.exponent? at h
  split at h
  · simp
  · next c rest =>
    obtain ⟨hmark, h⟩ := Option.ite_none_right_eq_some.mp h
    obtain ⟨_, hread, -⟩ := Option.map_eq_some_iff.mp h
    obtain ⟨n, hdigits, -⟩ := Option.bind_eq_some_iff.mp hread
    refine List.forall_mem_cons.mpr ⟨?_, isNumeral_of_signed (isNumeral_of_digits hdigits)⟩
    rcases hmark with rfl | rfl <;> decide

theorem isNumeral_of_mem_takeWhile {s : List Char} :
    ∀ c ∈ s.takeWhile Char.isDigit, isNumeral c = true := by
  intro c hc
  simp [isNumeral, List.mem_takeWhile_imp hc]

theorem isNumeral_of_decimal? {s : List Char} {x : Float} (h : Yaml.decimal? s = some x) :
    ∀ c ∈ s, isNumeral c = true := by
  simp only [Yaml.decimal?, Option.bind_eq_bind, Option.bind_eq_some_iff] at h
  obtain ⟨-, -, e, hexponent, -⟩ := h
  have hend := isNumeral_of_exponent? hexponent
  rw [Text.drop_length_takeWhile] at hend
  refine isNumeral_of_signed fun c hc => ?_
  rw [← List.takeWhile_append_dropWhile (p := Char.isDigit) (l := (Yaml.signed s).2)] at hc
  rcases List.mem_append.mp hc with hwhole | hrest
  · exact isNumeral_of_mem_takeWhile c hwhole
  · split at hend
    · next fraction hpoint =>
      rw [hpoint, ← List.takeWhile_append_dropWhile (p := Char.isDigit) (l := fraction)] at hrest
      rcases List.mem_cons.mp hrest with rfl | hrest
      · decide
      · rcases List.mem_append.mp hrest with hdigit | hrest
        · exact isNumeral_of_mem_takeWhile c hdigit
        · exact hend c hrest
    · exact hend c hrest

/-- A word with a character that no number has is a text. -/
theorem bareValue_of_not_numeral {word : List Char} (h : ∃ c ∈ word, isNumeral c = false) :
    bareValue word = .str (String.ofList word) := by
  obtain ⟨c, hc, hnot⟩ := h
  have hdecimal : Yaml.decimal? word = none := by
    refine Option.eq_none_iff_forall_ne_some.mpr fun x hx => ?_
    exact Bool.false_ne_true (hnot.symm.trans (isNumeral_of_decimal? hx c hc))
  have hdigits : Text.digitsToNat? (Yaml.signed word).2 = none := by
    refine Option.eq_none_iff_forall_ne_some.mpr fun n hn => ?_
    have hall := isNumeral_of_signed (isNumeral_of_digits hn)
    exact Bool.false_ne_true (hnot.symm.trans (hall c hc))
  simp [bareValue, hdecimal, hdigits]

end Numbers

theorem bareValue_ne_null (word : List Char) : bareValue word ≠ .null := by
  simp only [bareValue]
  generalize (if word.contains '.' = true then Yaml.decimal? word else none) = decimal
  split
  · simp
  · split_ifs <;> simp
  · simp

theorem value?_ne_null {fuel : Nat} {s rest : List Char} {v : Json}
    (h : value? fuel s = some (v, rest)) : v ≠ .null := by
  cases fuel with
  | zero => cases h
  | succ fuel =>
      simp only [value?, Option.bind_eq_bind, Option.pure_def] at h
      split at h
      all_goals simp only [Option.bind_some, Option.bind_none, Option.bind_map, Option.some.injEq,
        Option.bind_eq_some_iff, Prod.mk.injEq, Function.comp_apply, reduceCtorEq] at h
      case h_3 | h_4 | h_5 =>
        obtain ⟨_, -, rfl, -⟩ := h
        simp
      case h_8 => exact h.1 ▸ bareValue_ne_null _
      all_goals
        obtain ⟨rfl, -⟩ := h
        simp

/-- **The value of a variable is never `null`.** -/
theorem valueOf_ne_null (text : String) : valueOf text ≠ .null := by
  unfold valueOf
  split
  · next v hv => exact value?_ne_null hv
  · simp

/-- A value that begins like a bare word is one, up to the first mark. -/
theorem value?_bare {s : List Char} (fuel : Nat) (hstart : ∀ c ∈ s.head?, isBlank c = false)
    (hbare : ∀ c ∈ s.head?, c ∉ "\x7b[\"'".toList)
    (htrue : Text.afterPrefix? "true".toList s = none)
    (hfalse : Text.afterPrefix? "false".toList s = none) :
    value? (fuel + 1) s = some (bareValue (Text.trimWhile Text.isBlank (s.takeWhile isBare)),
      (s.dropWhile isBare).dropWhile isBlank) := by
  have hopens (c : Char) (rest : List Char) (hs : s = c :: rest) : c ∉ "\x7b[\"'".toList :=
    hbare c (by simp [hs])
  simp only [value?, Text.dropWhile_eq_self hstart, htrue, hfalse]
  split
  case h_3 | h_4 | h_5 | h_6 | h_7 =>
    exact (hopens _ _ rfl (by decide)).elim
  case h_8 =>
    rw [← Text.drop_length_takeWhile isBare]
    rfl
  all_goals contradiction

/-- The blanks of the language are blanks, and may stand in a bare word. -/
theorem of_isBlank {c : Char} (h : isBlank c = true) :
    Text.isBlank c = true ∧ isBare c = true := by
  simp only [isBlank, Bool.or_eq_true, beq_iff_eq] at h
  rcases h with (((rfl | rfl) | rfl) | rfl) | rfl <;> decide

/-- **A plain text means itself.** -/
theorem valueOf_of_isPlain {text : String} (h : IsPlain text) : valueOf text = .str text := by
  have hstart : ∀ c ∈ text.toList.head?, isBlank c = false := by
    intro c hc
    rw [Bool.eq_false_iff]
    intro hblank
    exact Bool.false_ne_true ((h.trimmed.first c hc).symm.trans (of_isBlank hblank).1)
  have hword (word : String) (hmem : word ∈ ["true", "false"]) :
      Text.afterPrefix? word.toList text.toList = none := by
    simpa [Text.startsWith] using h.noTruth word hmem
  rw [valueOf, value?_bare text.length hstart h.bare (hword "true" (by simp))
    (hword "false" (by simp))]
  cases hrest : text.toList.dropWhile isBare with
  | nil =>
      have hall : text.toList.takeWhile isBare = text.toList := by
        simpa [hrest] using List.takeWhile_append_dropWhile (p := isBare) (l := text.toList)
      have htrim : Text.trimWhile Text.isBlank text.toList = text.toList :=
        (Text.trimWhile_eq_iff.mpr ⟨[], [], by simp, by simp, by simp, h.trimmed⟩).1
      rw [hall, htrim, bareValue_of_not_numeral h.noNumber, String.ofList_toList]
      rfl
  | cons mark rest =>
      -- The mark that ends the word is no blank, so the reader stops there with text left over.
      have hmark : isBare mark = false :=
        Text.head?_dropWhile isBare text.toList mark (by simp [hrest])
      have hnot : isBlank mark = false := by
        rw [Bool.eq_false_iff]
        intro hblank
        exact Bool.false_ne_true (hmark.symm.trans (of_isBlank hblank).2)
      rw [List.dropWhile_cons_of_neg (by simp [hnot])]

/-! ## Texts in quotes -/

/-- A character as it is written in quotes. -/
def writeChar (c : Char) : List Char :=
  if c = '"' ∨ c = '\\' then ['\\', c]
  else if isQuotable c then [c]
  else ['\\', 'u', '0', '0', Hex.digit (c.toNat / 16), Hex.digit (c.toNat % 16)]

/-- A text in quotes. -/
def inQuotes (s : String) : String := String.ofList ('"' :: s.toList.flatMap writeChar ++ ['"'])

theorem digit_ne {n : Nat} (hn : n < 16) : Hex.digit n ≠ '"' ∧ Hex.digit n ≠ '\\' := by
  have hall : ∀ m < 16, Hex.digit m ≠ '"' ∧ Hex.digit m ≠ '\\' := by decide
  exact hall n hn

/-- Characters that do not stand for themselves have small numbers. -/
theorem toNat_lt_of_not_isQuotable {c : Char} (h : isQuotable c = false) : c.toNat < 128 := by
  simp only [isQuotable, Bool.or_eq_false_iff, Bool.and_eq_false_iff, decide_eq_false_iff_not] at h
  omega

/-- A character is written plainly, as the backslash and itself, or by its number. -/
theorem writeChar_cases (c : Char) :
    ((c = '"' ∨ c = '\\') ∧ writeChar c = ['\\', c]) ∨
    (c ≠ '"' ∧ c ≠ '\\' ∧ isQuotable c = true ∧ writeChar c = [c]) ∨
    (c.toNat < 128 ∧ writeChar c =
      ['\\', 'u', '0', '0', Hex.digit (c.toNat / 16), Hex.digit (c.toNat % 16)]) := by
  unfold writeChar
  split
  · next h => exact .inl ⟨h, rfl⟩
  · next h =>
    rw [not_or] at h
    split
    · next hq => exact .inr (.inl ⟨h.1, h.2, hq, rfl⟩)
    · next hq => exact .inr (.inr ⟨toNat_lt_of_not_isQuotable (by simpa using hq), rfl⟩)

/-- All that is written stands for itself, so no control characters are. -/
theorem isQuotable_of_mem_writeChar {c d : Char} (h : d ∈ writeChar c) : isQuotable d = true := by
  have hdigit : ∀ m < 16, isQuotable (Hex.digit m) = true := by decide
  rcases writeChar_cases c with ⟨hc, hwrite⟩ | ⟨-, -, hq, hwrite⟩ | ⟨hlt, hwrite⟩
  · rw [hwrite] at h
    rcases hc with rfl | rfl <;> revert d <;> decide
  · rw [hwrite, List.mem_singleton] at h
    exact h ▸ hq
  · rw [hwrite] at h
    simp only [List.mem_cons, List.not_mem_nil, or_false] at h
    rcases h with rfl | rfl | rfl | rfl | rfl | rfl
    · decide
    · decide
    · decide
    · decide
    · exact hdigit _ (by omega)
    · exact hdigit _ (by omega)

theorem isQuotable_of_mem_inQuotes {s : String} {c : Char} (h : c ∈ (inQuotes s).toList) :
    isQuotable c = true := by
  simp only [inQuotes, String.toList_ofList, List.cons_append, List.mem_cons, List.mem_append,
    List.mem_flatMap, List.not_mem_nil, or_false] at h
  rcases h with rfl | ⟨_, -, hc⟩ | rfl
  · decide
  · exact isQuotable_of_mem_writeChar hc
  · decide

theorem takeQuoted?_plain {c : Char} (hquote : c ≠ '"') (hback : c ≠ '\\') (rest : List Char) :
    takeQuoted? (c :: rest) = (takeQuoted? rest).map fun (a, b) => (c :: a, b) := by
  rw [takeQuoted?]
  · simpa using hquote
  · simp [hback]

theorem takeQuoted?_writeChar (c : Char) (rest : List Char) :
    takeQuoted? (writeChar c ++ rest) =
      (takeQuoted? rest).map fun (a, b) => (writeChar c ++ a, b) := by
  rcases writeChar_cases c with ⟨-, hwrite⟩ | ⟨hquote, hback, -, hwrite⟩ | ⟨hlt, hwrite⟩
  · rw [hwrite]
    rfl
  · rw [hwrite]
    exact takeQuoted?_plain hquote hback rest
  · have hhigh := digit_ne (n := c.toNat / 16) (by omega)
    have hlow := digit_ne (n := c.toNat % 16) (by omega)
    have hzero : '0' ≠ '"' ∧ '0' ≠ '\\' := by decide
    rw [hwrite, List.cons_append, List.cons_append, takeQuoted?]
    simp only [List.cons_append, List.nil_append, takeQuoted?_plain hzero.1 hzero.2,
      takeQuoted?_plain hhigh.1 hhigh.2, takeQuoted?_plain hlow.1 hlow.2, Option.map_map,
      Function.comp_def]

/-- The number of a character is read back from the digits that write it. -/
theorem charOfHex?_digits {c : Char} (h : c.toNat < 128) :
    Yaml.Scalar.charOfHex? ['0', '0', Hex.digit (c.toNat / 16), Hex.digit (c.toNat % 16)] =
      some c := by
  have hzero : Hex.value? '0' = some 0 := by decide
  have hhigh : Hex.value? (Hex.digit (c.toNat / 16)) = some (c.toNat / 16) :=
    Hex.value?_digit (by omega)
  have hlow : Hex.value? (Hex.digit (c.toNat % 16)) = some (c.toNat % 16) :=
    Hex.value?_digit (by omega)
  have hvalue : 16 * (c.toNat / 16) + c.toNat % 16 = c.toNat := Nat.div_add_mod ..
  have hvalid : c.toNat.isValidChar := .inl (by omega)
  simp only [Yaml.Scalar.charOfHex?, List.mapM_cons, List.mapM_nil, hzero, hhigh, hlow]
  simp [hvalue, hvalid, Char.ofNat_toNat]

theorem unescape?_writeChar (c : Char) (rest : List Char) :
    unescape? (writeChar c ++ rest) = (unescape? rest).map (c :: ·) := by
  rw [Option.map_eq_bind]
  rcases writeChar_cases c with ⟨hc, hwrite⟩ | ⟨-, hback, hq, hwrite⟩ | ⟨hlt, hwrite⟩
  · rw [hwrite]
    rcases hc with rfl | rfl <;> rfl
  · rw [hwrite, List.singleton_append, unescape?]
    · rw [if_pos hq]
      rfl
    all_goals simp [hback]
  · rw [hwrite]
    simp only [List.cons_append, List.nil_append, unescape?, charOfHex?_digits hlt]
    rfl

theorem takeQuoted?_flatMap (s rest : List Char) :
    takeQuoted? (s.flatMap writeChar ++ '"' :: rest) = some (s.flatMap writeChar, rest) := by
  induction s with
  | nil => rfl
  | cons c s ih => rw [List.flatMap_cons, List.append_assoc, takeQuoted?_writeChar, ih]; rfl

theorem unescape?_flatMap (s : List Char) : unescape? (s.flatMap writeChar) = some s := by
  induction s with
  | nil => rfl
  | cons c s ih => rw [List.flatMap_cons, unescape?_writeChar, ih]; rfl

/-- **A text in quotes means the text.** -/
theorem valueOf_inQuotes (s : String) : valueOf (inQuotes s) = .str s := by
  have hquoted : quoted? (s.toList.flatMap writeChar ++ ['"']) = some (s, []) := by
    simp [quoted?, takeQuoted?_flatMap, unescape?_flatMap]
  have hread : value? ((inQuotes s).length + 1) (inQuotes s).toList = some (.str s, []) := by
    rw [inQuotes, String.toList_ofList]
    simp [value?, isBlank, Text.afterPrefix?, hquoted]
  rw [valueOf, hread]

end SignOn.Settings
