import SignOn.Proofs.Steps
import SignOn.Text.Utf8
/-!
# UTF-8 is read back as it is written

The reader of bytes is a machine that waits for the rest of a character.  This file follows it
through the written form of one character (`decodeFrom_encodeChar`): the first byte says how many
bytes are due and which range the second one may have, and every further byte adds six bits.  From
there the main statements are inductions over the text:

* `decode_encodeChars`: the bytes of a text are read as its characters, with no ill-formed piece;
* `decode?_encode`: a text that is written and read strictly is the same text, so different texts
  have different bytes (`encode_injective`).
-/

namespace SignOn.Utf8

/-- The value of a byte that is made from a small number. -/
theorem toNat_toUInt8 {n : Nat} (h : n < 256) : n.toUInt8.toNat = n := by
  simpa using Nat.mod_eq_of_lt h

/-- The last byte of a character completes it. -/
theorem decodeFrom_last {p : Pending} {n : Nat} (rest : Bytes) (hn : n < 256)
    (hlow : p.low.toNat ≤ n) (hhigh : n ≤ p.high.toNat) (hdue : p.due ≤ 1) :
    decodeFrom (some p) (n.toUInt8 :: rest) =
      some (Char.ofNat (p.value * 0x40 + (n - 0x80))) :: decodeFrom none rest := by
  have hrange : p.low ≤ n.toUInt8 ∧ n.toUInt8 ≤ p.high := by
    simp only [UInt8.le_iff_toNat_le, toNat_toUInt8 hn]
    exact ⟨hlow, hhigh⟩
  rw [decodeFrom, if_pos hrange, toNat_toUInt8 hn, if_pos hdue]

/-- Every byte before the last one adds six bits. -/
theorem decodeFrom_more {p : Pending} {n : Nat} (rest : Bytes) (hn : n < 256)
    (hlow : p.low.toNat ≤ n) (hhigh : n ≤ p.high.toNat) (hdue : 1 < p.due) :
    decodeFrom (some p) (n.toUInt8 :: rest) =
      decodeFrom (some ⟨p.due - 1, 0x80, 0xBF, p.value * 0x40 + (n - 0x80)⟩) rest := by
  have hrange : p.low ≤ n.toUInt8 ∧ n.toUInt8 ≤ p.high := by
    simp only [UInt8.le_iff_toNat_le, toNat_toUInt8 hn]
    exact ⟨hlow, hhigh⟩
  rw [decodeFrom, if_pos hrange, toNat_toUInt8 hn, if_neg (by omega)]

/-- A byte that begins a character of several bytes. -/
theorem decodeFrom_opens {n : Nat} {p : Pending} (rest : Bytes)
    (hlead : lead n.toUInt8 = .opens p) :
    decodeFrom none (n.toUInt8 :: rest) = decodeFrom (some p) rest := by
  rw [decodeFrom, hlead]

/-- The first byte of a character of two bytes. -/
theorem lead_two {n : Nat} (hlow : 0x80 ≤ n) (hhigh : n < 0x800) :
    lead (0xC0 + n / 0x40).toUInt8 = .opens ⟨1, 0x80, 0xBF, n / 0x40⟩ := by
  have hbyte : (0xC0 + n / 0x40).toUInt8.toNat = 0xC0 + n / 0x40 := toNat_toUInt8 (by omega)
  simp only [lead, hbyte]
  rw [if_neg (by omega), if_neg (by omega), if_pos (by omega)]
  simp

/-- The range of the second byte of a character of three bytes. -/
def secondOfThree (n : Nat) : UInt8 × UInt8 :=
  if n < 0x1000 then (0xA0, 0xBF) else if n / 0x1000 = 0xD then (0x80, 0x9F) else (0x80, 0xBF)

/-- The first byte of a character of three bytes. -/
theorem lead_three {n : Nat} (hhigh : n < 0x10000) :
    lead (0xE0 + n / 0x1000).toUInt8 =
      .opens ⟨2, (secondOfThree n).1, (secondOfThree n).2, n / 0x1000⟩ := by
  have hbyte : (0xE0 + n / 0x1000).toUInt8.toNat = 0xE0 + n / 0x1000 := toNat_toUInt8 (by omega)
  simp only [lead, hbyte, secondOfThree]
  rw [if_neg (by omega), if_neg (by omega), if_neg (by omega)]
  by_cases hfirst : n < 0x1000
  · have hzero : n / 0x1000 = 0 := by omega
    simp [hfirst, hzero]
  · by_cases hsurrogate : n / 0x1000 = 0xD
    · simp [hfirst, hsurrogate]
    · have hE0 : 0xE0 + n / 0x1000 ≠ 0xE0 := by omega
      have hED : 0xE0 + n / 0x1000 ≠ 0xED := by omega
      have hF0 : 0xE0 + n / 0x1000 < 0xF0 := by omega
      rw [if_neg hE0, if_neg hED, if_pos hF0, if_neg hfirst, if_neg hsurrogate]
      simp

/-- The range of the second byte of a character of four bytes. -/
def secondOfFour (n : Nat) : UInt8 × UInt8 :=
  if n < 0x40000 then (0x90, 0xBF) else if 0x100000 ≤ n then (0x80, 0x8F) else (0x80, 0xBF)

/-- The first byte of a character of four bytes. -/
theorem lead_four {n : Nat} (hhigh : n < 0x110000) :
    lead (0xF0 + n / 0x40000).toUInt8 =
      .opens ⟨3, (secondOfFour n).1, (secondOfFour n).2, n / 0x40000⟩ := by
  have hbyte : (0xF0 + n / 0x40000).toUInt8.toNat = 0xF0 + n / 0x40000 := toNat_toUInt8 (by omega)
  simp only [lead, hbyte, secondOfFour]
  rw [if_neg (by omega), if_neg (by omega), if_neg (by omega), if_neg (by omega),
    if_neg (by omega), if_neg (by omega)]
  by_cases hfirst : n < 0x40000
  · have hzero : n / 0x40000 = 0 := by omega
    simp [hfirst, hzero]
  · have hF0 : 0xF0 + n / 0x40000 ≠ 0xF0 := by omega
    by_cases hlast : 0x100000 ≤ n
    · have hfour : n / 0x40000 = 4 := by omega
      simp [hfirst, hlast, hfour]
    · have hF4 : 0xF0 + n / 0x40000 < 0xF4 := by omega
      rw [if_neg hF0, if_pos hF4, if_neg hfirst, if_neg hlast]
      simp

/-- A code point is below the surrogates or above them, and below the limit. -/
theorem toNat_valid (c : Char) : c.toNat < 0xD800 ∨ 0xDFFF < c.toNat ∧ c.toNat < 0x110000 :=
  c.valid

/-- A character of two bytes is read back. -/
theorem decodeFrom_two {n : Nat} (rest : Bytes) (hlow : 0x80 ≤ n) (hhigh : n < 0x800) :
    decodeFrom none ((0xC0 + n / 0x40).toUInt8 :: (0x80 + n % 0x40).toUInt8 :: rest) =
      some (Char.ofNat n) :: decodeFrom none rest := by
  rw [decodeFrom_opens _ (lead_two hlow hhigh),
    decodeFrom_last rest (by omega) (by simp) (by simp; omega) (by simp)]
  have hvalue : n / 0x40 * 0x40 + (0x80 + n % 0x40 - 0x80) = n := by omega
  rw [hvalue]

/-- A character of three bytes is read back, unless it is a surrogate. -/
theorem decodeFrom_three {n : Nat} (rest : Bytes) (hlow : 0x800 ≤ n) (hhigh : n < 0x10000)
    (hvalid : n < 0xD800 ∨ 0xDFFF < n) :
    decodeFrom none ((0xE0 + n / 0x1000).toUInt8 :: (0x80 + n / 0x40 % 0x40).toUInt8 ::
        (0x80 + n % 0x40).toUInt8 :: rest) =
      some (Char.ofNat n) :: decodeFrom none rest := by
  have hrange : (secondOfThree n).1.toNat ≤ 0x80 + n / 0x40 % 0x40 ∧
      0x80 + n / 0x40 % 0x40 ≤ (secondOfThree n).2.toNat := by
    unfold secondOfThree
    split
    · simp; omega
    · split <;> simp <;> omega
  rw [decodeFrom_opens _ (lead_three hhigh),
    decodeFrom_more _ (by omega) hrange.1 hrange.2 (by simp),
    decodeFrom_last rest (by omega) (by simp) (by simp; omega) (by simp)]
  have hvalue : (n / 0x1000 * 0x40 + (0x80 + n / 0x40 % 0x40 - 0x80)) * 0x40 +
      (0x80 + n % 0x40 - 0x80) = n := by omega
  rw [hvalue]

/-- A character of four bytes is read back. -/
theorem decodeFrom_four {n : Nat} (rest : Bytes) (hlow : 0x10000 ≤ n) (hhigh : n < 0x110000) :
    decodeFrom none ((0xF0 + n / 0x40000).toUInt8 :: (0x80 + n / 0x1000 % 0x40).toUInt8 ::
        (0x80 + n / 0x40 % 0x40).toUInt8 :: (0x80 + n % 0x40).toUInt8 :: rest) =
      some (Char.ofNat n) :: decodeFrom none rest := by
  have hrange : (secondOfFour n).1.toNat ≤ 0x80 + n / 0x1000 % 0x40 ∧
      0x80 + n / 0x1000 % 0x40 ≤ (secondOfFour n).2.toNat := by
    unfold secondOfFour
    split
    · simp; omega
    · split <;> simp <;> omega
  rw [decodeFrom_opens _ (lead_four hhigh),
    decodeFrom_more _ (by omega) hrange.1 hrange.2 (by simp),
    decodeFrom_more _ (by omega) (by simp) (by simp; omega) (by simp),
    decodeFrom_last rest (by omega) (by simp) (by simp; omega) (by simp)]
  have hvalue : ((n / 0x40000 * 0x40 + (0x80 + n / 0x1000 % 0x40 - 0x80)) * 0x40 +
      (0x80 + n / 0x40 % 0x40 - 0x80)) * 0x40 + (0x80 + n % 0x40 - 0x80) = n := by omega
  rw [hvalue]

/-- **One character.**  The machine reads the written form of a character as that character and
then stands where it began. -/
theorem decodeFrom_encodeChar (c : Char) (rest : Bytes) :
    decodeFrom none (encodeChar c ++ rest) = some c :: decodeFrom none rest := by
  have hvalid := toNat_valid c
  have hchar : Char.ofNat c.toNat = c := Char.ofNat_toNat c
  simp only [encodeChar]
  split
  · next hone =>
      have hlead : lead c.toNat.toUInt8 = .complete c := by
        have hbyte : c.toNat.toUInt8.toNat = c.toNat := toNat_toUInt8 (by omega)
        simp only [lead, hbyte]
        rw [if_pos hone, hchar]
      simp only [List.singleton_append, decodeFrom, hlead]
  · split
    · next hone htwo =>
        simpa [hchar] using decodeFrom_two rest (by omega) htwo
    · split
      · next htwo hthree =>
          simpa [hchar] using decodeFrom_three rest (by omega) hthree (by omega)
      · next hthree =>
          simpa [hchar] using decodeFrom_four rest (by omega) (by omega : c.toNat < 0x110000)

/-- **The bytes of a text are its characters.** -/
theorem decode_encodeChars (cs : List Char) : decode (encodeChars cs) = cs.map some := by
  unfold decode
  induction cs with
  | nil => rfl
  | cons c cs ih =>
      calc decodeFrom none (encodeChars (c :: cs))
          = decodeFrom none (encodeChar c ++ encodeChars cs) := by
            rw [encodeChars, encodeChars, List.flatMap_cons]
        _ = some c :: decodeFrom none (encodeChars cs) := decodeFrom_encodeChar c _
        _ = (c :: cs).map some := by rw [ih, List.map_cons]

/-- **A text is read back from its bytes.** -/
theorem decode?_encode (s : String) : decode? (encode s) = some s := by
  rw [decode?, encode, decode_encodeChars, mapM_id_some, Option.map_some, String.ofList_toList]

/-- A text is read back from its bytes by the lossy reader too. -/
theorem decodeLossy_encode (s : String) : decodeLossy (encode s) = s := by
  rw [decodeLossy, encode, decode_encodeChars, List.map_map]
  simp [Function.comp_def]

/-- A character of ASCII is one byte. -/
theorem encodeChar_of_ascii {c : Char} (hc : c.toNat < 0x80) :
    encodeChar c = [c.toNat.toUInt8] := by
  simp only [encodeChar, if_pos hc]

/-- Different texts have different bytes. -/
theorem encode_injective : Function.Injective encode := by
  intro s t h
  have hread := congrArg decode? h
  rw [decode?_encode, decode?_encode] at hread
  exact Option.some.inj hread

end SignOn.Utf8
