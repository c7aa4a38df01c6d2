import SignOn.Proofs.Text.Characters
import SignOn.Proofs.Text.Cutting
import SignOn.Proofs.Text.Utf8
import SignOn.Text.Form
/-!
# Form encoding is read back

A byte is written as characters of which none is a mark between names, values and pairs
(`isFormChar_of_mem_encodeText`), and it is read back from them (`undo_encodeByte`).  So a text is
read back (`decodeText_encodeText`), and a list of pairs is cut apart where it was joined
(`decode_encode`).  A query is read piece by piece: what stands behind an `&` is read for itself
(`decode_append`).
-/

namespace SignOn.Form

/-- A character that names and values are written in. -/
def IsFormChar (c : Char) : Prop :=
  c.isAlphanum = true ∨ c ∈ ['*', '-', '.', '_', '+', '%']

instance (c : Char) : Decidable (IsFormChar c) :=
  inferInstanceAs (Decidable (c.isAlphanum = true ∨ c ∈ ['*', '-', '.', '_', '+', '%']))

/-! ### Bytes -/

/-- A byte that stands for itself is a character of ASCII, and neither a plus nor a percent sign. -/
theorem isFormChar_of_isPlain {b : UInt8} (h : isPlain b = true) :
    b.toNat < 0x80 ∧ IsFormChar (Char.ofNat b.toNat) ∧ Char.ofNat b.toNat ≠ '+' ∧ b ≠ 0x25 := by
  have hascii : b.toNat < 0x80 := by
    simp only [isPlain, Bool.or_eq_true, Bool.and_eq_true, decide_eq_true_eq, beq_iff_eq,
      UInt8.le_iff_toNat_le, ← UInt8.toNat_inj] at h
    simp only [UInt8.reduceToNat] at h
    omega
  have hall : ∀ n < 0x80, isPlain n.toUInt8 = true → IsFormChar (Char.ofNat n) ∧
      Char.ofNat n ≠ '+' ∧ n.toUInt8 ≠ 0x25 := by decide
  have hb := hall b.toNat hascii
  rw [show b.toNat.toUInt8 = b from UInt8.ofNat_toNat] at hb
  exact ⟨hascii, hb h⟩

/-- A digit is one of ASCII, no plus sign, and is read back. -/
theorem upperDigit_spec {n : Nat} (hn : n < 16) : (Hex.upperDigit n).toNat < 0x80 ∧
    IsFormChar (Hex.upperDigit n) ∧ Hex.upperDigit n ≠ '+' ∧
    Hex.value? (Hex.upperDigit n) = some n := by
  have hall : ∀ m < 16, (Hex.upperDigit m).toNat < 0x80 ∧ IsFormChar (Hex.upperDigit m) ∧
      Hex.upperDigit m ≠ '+' ∧ Hex.value? (Hex.upperDigit m) = some m := by decide
  exact hall n hn

/-- A byte is written in the characters of names and values. -/
theorem isFormChar_of_mem_encodeByte {b : UInt8} {c : Char} (h : c ∈ encodeByte b) :
    IsFormChar c := by
  have hb := b.toNat_lt
  unfold encodeByte at h
  split at h
  · next hplain =>
    obtain rfl : c = Char.ofNat b.toNat := by simpa using h
    exact (isFormChar_of_isPlain hplain).2.1
  · split at h
    · obtain rfl : c = '+' := by simpa using h
      decide
    · simp only [percent, List.mem_cons, List.not_mem_nil, or_false] at h
      rcases h with rfl | rfl | rfl
      · decide
      · exact (upperDigit_spec (by omega)).2.1
      · exact (upperDigit_spec (by omega)).2.1

/-- The bytes that a written name or value stands for. -/
def undo (s : List Char) : Bytes :=
  percentDecode (Utf8.encodeChars (s.map fun c => if c = '+' then ' ' else c))

/-- A byte that is no percent sign stands for itself. -/
theorem percentDecode_cons {b : UInt8} (hb : b ≠ 0x25) (rest : Bytes) :
    percentDecode (b :: rest) = b :: percentDecode rest := by
  cases rest with
  | nil => rfl
  | cons c rest =>
      cases rest with
      | nil => rfl
      | cons d rest => rw [percentDecode, if_neg hb]

/-- A character of ASCII that is no plus sign is undone from its byte. -/
theorem undo_cons {c : Char} (hascii : c.toNat < 0x80) (hplus : c ≠ '+') (rest : List Char) :
    undo (c :: rest) = percentDecode (c.toNat.toUInt8 ::
      Utf8.encodeChars (rest.map fun c => if c = '+' then ' ' else c)) := by
  rw [undo, List.map_cons, if_neg hplus, Utf8.encodeChars, List.flatMap_cons,
    Utf8.encodeChar_of_ascii hascii]
  rfl

/-- Two digits behind a percent sign are undone. -/
theorem undo_percent (b : UInt8) (rest : List Char) :
    undo (percent b ++ rest) = b :: undo rest := by
  have hb := b.toNat_lt
  obtain ⟨hhigh, -, hhighPlus, hhighValue⟩ := upperDigit_spec (n := b.toNat / 16) (by omega)
  obtain ⟨hlow, -, hlowPlus, hlowValue⟩ := upperDigit_spec (n := b.toNat % 16) (by omega)
  have hchar {c : Char} (hc : c.toNat < 0x80) : Char.ofNat c.toNat.toUInt8.toNat = c := by
    rw [Utf8.toNat_toUInt8 (by omega), Char.ofNat_toNat]
  have hvalue : (16 * (b.toNat / 16) + b.toNat % 16).toUInt8 = b := by
    rw [Nat.div_add_mod]
    exact UInt8.ofNat_toNat
  have hbytes : Utf8.encodeChars ((Hex.upperDigit (b.toNat / 16) ::
        Hex.upperDigit (b.toNat % 16) :: rest).map fun c => if c = '+' then ' ' else c) =
      (Hex.upperDigit (b.toNat / 16)).toNat.toUInt8 ::
        (Hex.upperDigit (b.toNat % 16)).toNat.toUInt8 ::
        Utf8.encodeChars (rest.map fun c => if c = '+' then ' ' else c) := by
    simp only [List.map_cons, if_neg hhighPlus, if_neg hlowPlus, Utf8.encodeChars,
      List.flatMap_cons, Utf8.encodeChar_of_ascii hhigh, Utf8.encodeChar_of_ascii hlow,
      List.singleton_append]
  rw [percent, List.cons_append, undo_cons (by decide) (by decide), List.cons_append,
    List.cons_append, List.nil_append, hbytes, percentDecode, if_pos (by decide)]
  simp only [hchar hhigh, hchar hlow, hhighValue, hlowValue, hvalue]
  rfl

/-- **One byte** is read back. -/
theorem undo_encodeByte (b : UInt8) (rest : List Char) :
    undo (encodeByte b ++ rest) = b :: undo rest := by
  unfold encodeByte
  split
  · next hplain =>
    obtain ⟨hascii, -, hplus, hsign⟩ := isFormChar_of_isPlain hplain
    have hnumber : (Char.ofNat b.toNat).toNat = b.toNat := Text.toNat_ofNat (by omega)
    rw [List.singleton_append, undo_cons (by omega) hplus, hnumber,
      show b.toNat.toUInt8 = b from UInt8.ofNat_toNat, percentDecode_cons hsign]
    rfl
  · split
    · next hspace =>
      subst hspace
      exact percentDecode_cons (by decide) _
    · exact undo_percent b rest

/-! ### Names and values -/

/-- **A name or a value is read back.** -/
theorem decodeText_encodeText (s : String) : decodeText (encodeText s) = s := by
  have hbytes (bytes : Bytes) : undo (bytes.flatMap encodeByte) = bytes := by
    induction bytes with
    | nil => rfl
    | cons b bytes ih => rw [List.flatMap_cons, undo_encodeByte, ih]
  rw [decodeText, encodeText]
  change Utf8.decodeLossy (undo _) = s
  rw [hbytes, Utf8.decodeLossy_encode]

theorem isFormChar_of_mem_encodeText {s : String} {c : Char} (h : c ∈ encodeText s) :
    IsFormChar c := by
  obtain ⟨b, -, hb⟩ := List.mem_flatMap.mp h
  exact isFormChar_of_mem_encodeByte hb

/-- A mark stands in no name and no value. -/
theorem not_mem_encodeText {c : Char} (hc : ¬IsFormChar c) (s : String) : c ∉ encodeText s :=
  fun hmem => hc (isFormChar_of_mem_encodeText hmem)

/-! ### Pairs -/

/-- A pair is written in the characters of names and values and one mark. -/
theorem of_mem_encodePair {pair : String × String} {c : Char} (h : c ∈ encodePair pair) :
    IsFormChar c ∨ c = '=' := by
  rcases List.mem_append.mp h with hname | hrest
  · exact .inl (isFormChar_of_mem_encodeText hname)
  · exact (List.mem_cons.mp hrest).symm.imp_left isFormChar_of_mem_encodeText

theorem encodePair_ne_nil (pair : String × String) : encodePair pair ≠ [] :=
  List.append_ne_nil_of_right_ne_nil _ (List.cons_ne_nil _ _)

theorem amp_not_mem_encodePair (pair : String × String) : '&' ∉ encodePair pair := by
  intro hmem
  rcases of_mem_encodePair hmem with hform | heq
  · exact absurd hform (by decide)
  · exact absurd heq (by decide)

/-- A pair is cut at its mark and read back. -/
theorem decodePair_encodePair (pair : String × String) : decodePair (encodePair pair) = pair := by
  have hcut : Text.cutAt? (· == '=') (encodePair pair) =
      some (encodeText pair.1, encodeText pair.2) := by
    refine Text.cutAt?_eq_some_iff.mpr ⟨'=', rfl, by simp, fun d hd => ?_⟩
    rw [beq_eq_false_iff_ne]
    rintro rfl
    exact not_mem_encodeText (by decide) _ hd
  simp only [decodePair, hcut, decodeText_encodeText]

/-- Pairs stand with marks between them. -/
theorem encodePairs_eq (pairs : List (String × String)) :
    encodePairs pairs = ['&'].intercalate (pairs.map encodePair) := by
  fun_induction encodePairs pairs with
  | case1 => rfl
  | case2 pair => rw [List.map_singleton, List.intercalate_singleton]
  | case3 pair next rest ih =>
      rw [ih]
      simp only [List.map_cons, List.intercalate_cons_cons, List.append_assoc,
        List.singleton_append]

/-- A form is written in the characters of its pairs and one mark. -/
theorem of_mem_encode {pairs : List (String × String)} {c : Char}
    (h : c ∈ (encode pairs).toList) : IsFormChar c ∨ c = '=' ∨ c = '&' := by
  rw [encode, String.toList_ofList, encodePairs_eq] at h
  rcases Text.mem_intercalate h with heq | ⟨piece, hpiece, hc⟩
  · exact .inr (.inr heq)
  · obtain ⟨pair, -, rfl⟩ := List.mem_map.mp hpiece
    exact (of_mem_encodePair hc).imp_right .inl

/-- **A list of pairs is read back.** -/
theorem decode_encode (pairs : List (String × String)) : decode (encode pairs) = pairs := by
  by_cases hnil : pairs = []
  · subst hnil
    rfl
  · have hpieces : Text.splitWhere (· == '&') (['&'].intercalate (pairs.map encodePair)) =
        pairs.map encodePair := by
      refine Text.splitWhere_intercalate (by simpa using hnil) fun piece hpiece => ?_
      obtain ⟨pair, -, rfl⟩ := List.mem_map.mp hpiece
      exact amp_not_mem_encodePair pair
    have hfull : (pairs.map encodePair).filter (· ≠ []) = pairs.map encodePair := by
      refine List.filter_eq_self.mpr fun piece hpiece => ?_
      obtain ⟨pair, -, rfl⟩ := List.mem_map.mp hpiece
      simpa using encodePair_ne_nil pair
    have hread : decodePair ∘ encodePair = id := funext decodePair_encodePair
    rw [decode, encode, String.toList_ofList, encodePairs_eq, hpieces, hfull, List.map_map, hread,
      List.map_id]

/-! ### Queries -/

/-- **What stands on either side of a mark is read for itself.** -/
theorem decode_append (a b : String) : decode (a ++ "&" ++ b) = decode a ++ decode b := by
  have htext : (a ++ "&" ++ b).toList = a.toList ++ '&' :: b.toList := by simp
  rw [decode, htext, Text.splitWhere_append_cons (by simp), List.filter_append, List.map_append]
  rfl

/-- A mark at the end counts for nothing. -/
theorem decode_append_mark (a : String) : decode (a ++ "&") = decode a := by
  have hempty : decode "" = [] := rfl
  rw [← String.append_empty (s := a ++ "&"), decode_append, hempty, List.append_nil]

/-- A mark at the start counts for nothing. -/
theorem decode_mark_append (b : String) : decode ("&" ++ b) = decode b := by
  rw [← String.empty_append (s := "&"), decode_append]
  rfl

end SignOn.Form
