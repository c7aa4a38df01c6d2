import Mathlib.Data.List.TakeWhile
import SignOn.Proofs.Text.Cutting
import SignOn.Text.Base64
/-!
# Base64 is read back

Digits are written in groups of four, so a proof about the writer follows its groups: what is read
from the digits of a byte string is that byte string, in both alphabets (`decodeBare?_encodeBare`).
No alphabet has a digit for the padding or for a character that stands between the parts of a token,
so padded texts and single segments are read back too (`decode?_encode`, `decodeUrl?_encodeUrl`).

No byte string has other digits than those that are written (`encodeBare_of_decodeBare?`), so what
is read of a text in which padding does not count is known from the text (`decodeUrl?_dropEnd_iff`).
-/

namespace SignOn.Base64

variable {a : Alphabet}

/-- Different values have different digits. -/
def Alphabet.Readable (a : Alphabet) : Prop :=
  ∀ n < 64, a.value? (a.digit n) = some n

theorem readable_standard : standard.Readable := by
  unfold Alphabet.Readable
  decide

theorem readable_urlSafe : urlSafe.Readable := by
  unfold Alphabet.Readable
  decide

/-- The byte of a number that is its value. -/
theorem toUInt8_eq {n : Nat} {x : UInt8} (h : n = x.toNat) : n.toUInt8 = x := by
  subst h
  exact UInt8.ofNat_toNat

/-- **Digits are read back as the bytes that they write.** -/
theorem decodeBare?_encodeBare (ha : a.Readable) (bytes : Bytes) :
    decodeBare? a (encodeBare a bytes) = some bytes := by
  -- A group of four digits is cut into six bits each; the cuts fit together again.
  fun_induction encodeBare a bytes with
  | case1 => rfl
  | case2 x =>
      have hx := x.toNat_lt
      have h1 : a.value? (a.digit (x.toNat / 4)) = some (x.toNat / 4) := ha _ (by omega)
      have h2 : a.value? (a.digit (x.toNat % 4 * 16)) = some (x.toNat % 4 * 16) :=
        ha _ (by omega)
      have hbyte : (x.toNat / 4 * 4 + x.toNat % 4 * 16 / 16).toUInt8 = x :=
        toUInt8_eq (by omega)
      have hrest : x.toNat % 4 * 16 % 16 = 0 := by omega
      simp only [decodeBare?, h1, h2, bind, Option.bind, hrest, if_true, hbyte]
  | case3 x y =>
      have hx := x.toNat_lt
      have hy := y.toNat_lt
      have h1 : a.value? (a.digit (x.toNat / 4)) = some (x.toNat / 4) := ha _ (by omega)
      have h2 : a.value? (a.digit (x.toNat % 4 * 16 + y.toNat / 16)) =
          some (x.toNat % 4 * 16 + y.toNat / 16) := ha _ (by omega)
      have h3 : a.value? (a.digit (y.toNat % 16 * 4)) = some (y.toNat % 16 * 4) :=
        ha _ (by omega)
      have hrest : y.toNat % 16 * 4 % 4 = 0 := by omega
      have hfirst : (x.toNat / 4 * 4 + (x.toNat % 4 * 16 + y.toNat / 16) / 16).toUInt8 = x :=
        toUInt8_eq (by omega)
      have hsecond : ((x.toNat % 4 * 16 + y.toNat / 16) % 16 * 16 +
          y.toNat % 16 * 4 / 4).toUInt8 = y := toUInt8_eq (by omega)
      simp only [decodeBare?, h1, h2, h3, bind, Option.bind, hrest, if_true, hfirst, hsecond]
  | case4 x y z rest ih =>
      have hx := x.toNat_lt
      have hy := y.toNat_lt
      have hz := z.toNat_lt
      have h1 : a.value? (a.digit (x.toNat / 4)) = some (x.toNat / 4) := ha _ (by omega)
      have h2 : a.value? (a.digit (x.toNat % 4 * 16 + y.toNat / 16)) =
          some (x.toNat % 4 * 16 + y.toNat / 16) := ha _ (by omega)
      have h3 : a.value? (a.digit (y.toNat % 16 * 4 + z.toNat / 64)) =
          some (y.toNat % 16 * 4 + z.toNat / 64) := ha _ (by omega)
      have h4 : a.value? (a.digit (z.toNat % 64)) = some (z.toNat % 64) := ha _ (by omega)
      have hfirst : (x.toNat / 4 * 4 + (x.toNat % 4 * 16 + y.toNat / 16) / 16).toUInt8 = x :=
        toUInt8_eq (by omega)
      have hsecond : ((x.toNat % 4 * 16 + y.toNat / 16) % 16 * 16 +
          (y.toNat % 16 * 4 + z.toNat / 64) / 4).toUInt8 = y := toUInt8_eq (by omega)
      have hthird : ((y.toNat % 16 * 4 + z.toNat / 64) % 4 * 64 + z.toNat % 64).toUInt8 = z :=
        toUInt8_eq (by omega)
      simp only [decodeBare?, h1, h2, h3, h4, ih, bind, Option.bind, pure, hfirst, hsecond, hthird]

/-- What is written are digits of values below sixty-four. -/
theorem exists_digit_of_mem (bytes : Bytes) :
    ∀ c ∈ encodeBare a bytes, ∃ n < 64, c = a.digit n := by
  have digit {n : Nat} (h : n < 64) : ∃ m < 64, a.digit n = a.digit m := ⟨n, h, rfl⟩
  fun_induction encodeBare a bytes with
  | case1 => simp
  | case2 x =>
      have hx := x.toNat_lt
      simp only [List.forall_mem_cons]
      exact ⟨digit (by omega), digit (by omega), by simp⟩
  | case3 x y =>
      have hx := x.toNat_lt
      have hy := y.toNat_lt
      simp only [List.forall_mem_cons]
      exact ⟨digit (by omega), digit (by omega), digit (by omega), by simp⟩
  | case4 x y z rest ih =>
      have hx := x.toNat_lt
      have hy := y.toNat_lt
      have hz := z.toNat_lt
      simp only [List.forall_mem_cons]
      exact ⟨digit (by omega), digit (by omega), digit (by omega), digit (by omega), ih⟩

/-- A character that is no digit does not stand among the digits. -/
theorem not_mem_encodeBare {c : Char} (hc : ∀ n < 64, a.digit n ≠ c) (bytes : Bytes) :
    c ∉ encodeBare a bytes := by
  intro hmem
  obtain ⟨n, hn, rfl⟩ := exists_digit_of_mem bytes c hmem
  exact hc n hn rfl

/-- How many digits a byte string has. -/
theorem length_encodeBare (bytes : Bytes) :
    (encodeBare a bytes).length = (4 * bytes.length + 2) / 3 := by
  fun_induction encodeBare a bytes with
  | case1 => rfl
  | case2 => simp
  | case3 => simp
  | case4 x y z rest ih =>
      simp only [List.length_cons, ih]
      omega

/-- Padding is of `=` only. -/
theorem takeWhile_padding (length : Nat) : (padding length).takeWhile (· ≠ '=') = [] := by
  unfold padding
  split
  · rfl
  · split <;> rfl

/-- Padding makes the number of characters one of whole groups. -/
theorem length_padding (bytes : Bytes) :
    ((encodeBare a bytes).length + (padding bytes.length).length) % 4 = 0 := by
  rw [length_encodeBare]
  unfold padding
  split
  · simp only [List.length_cons, List.length_nil]
    omega
  · split <;> simp only [List.length_cons, List.length_nil] <;> omega

/-- **Padded base64 is read back.** -/
theorem decode?_encode (bytes : Bytes) : decode? (encode bytes) = some bytes := by
  have hpad : ∀ n < 64, standard.digit n ≠ '=' := by decide
  have hdigits : ∀ c ∈ encodeBare standard bytes, decide (c ≠ '=') = true := by
    intro c hc
    obtain ⟨n, hn, rfl⟩ := exists_digit_of_mem bytes c hc
    simpa using hpad n hn
  have htake : (encodeBare standard bytes ++ padding bytes.length).takeWhile (· ≠ '=') =
      encodeBare standard bytes := by
    rw [List.takeWhile_append_of_pos hdigits, takeWhile_padding, List.append_nil]
  have hlength := length_padding (a := standard) bytes
  simp only [decode?, encode, String.toList_ofList, List.length_append, hlength, if_true, htake,
    decodeBare?_encodeBare readable_standard, bind, Option.bind, List.drop_left]

/-- **URL-safe base64 is read back.** -/
theorem decodeUrl?_encodeUrl (bytes : Bytes) : decodeUrl? (encodeUrl bytes) = some bytes := by
  rw [decodeUrl?, encodeUrl, String.toList_ofList]
  exact decodeBare?_encodeBare readable_urlSafe bytes

/-- What is read without padding is of digits only. -/
theorem isSome_value?_of_mem {digits : List Char} {bytes : Bytes}
    (h : decodeBare? a digits = some bytes) : ∀ c ∈ digits, (a.value? c).isSome = true := by
  fun_induction decodeBare? a digits generalizing bytes with
  | case1 => simp
  | case2 => cases h
  | case3 p q =>
      simp only [bind, Option.bind_eq_some_iff] at h
      obtain ⟨_, hp, _, hq, -⟩ := h
      simp [hp, hq]
  | case4 p q r =>
      simp only [bind, Option.bind_eq_some_iff] at h
      obtain ⟨_, hp, _, hq, _, hr, -⟩ := h
      simp [hp, hq, hr]
  | case5 p q r s rest ih =>
      simp only [bind, Option.bind_eq_some_iff] at h
      obtain ⟨_, hp, _, hq, _, hr, _, hs, _, hrest, -⟩ := h
      simp only [List.forall_mem_cons, hp, hq, hr, hs, Option.isSome_some, true_and]
      exact ih hrest

/-- URL-safe base64 that is read holds no character that is not a digit. -/
theorem not_mem_of_decodeUrl? {s : String} {bytes : Bytes} (h : decodeUrl? s = some bytes)
    {c : Char} (hc : urlSafe.value? c = none) : c ∉ s.toList := by
  intro hmem
  have hsome := isSome_value?_of_mem h c hmem
  simp [hc] at hsome

/-- URL-safe base64 holds no character that is not one of its digits. -/
theorem not_mem_encodeUrl {c : Char} (hc : ∀ n < 64, urlSafe.digit n ≠ c) (bytes : Bytes) :
    c ∉ (encodeUrl bytes).toList := by
  rw [encodeUrl, String.toList_ofList]
  exact not_mem_encodeBare hc bytes

/-- A value is that of its digit, and of no other character. -/
theorem digit_of_value? {c : Char} {n : Nat} (h : a.value? c = some n) :
    n < 64 ∧ a.digit n = c := by
  have hchar {m : Nat} (hm : m = c.toNat) : Char.ofNat m = c := by
    rw [hm, Char.ofNat_toNat]
  unfold Alphabet.value? at h
  unfold Alphabet.digit
  dsimp only at h
  split at h
  · obtain rfl := Option.some.inj h
    rw [if_pos (by omega), hchar (by omega)]
    exact ⟨by omega, rfl⟩
  · split at h
    · obtain rfl := Option.some.inj h
      rw [if_neg (by omega), if_pos (by omega), hchar (by omega)]
      exact ⟨by omega, rfl⟩
    · split at h
      · obtain rfl := Option.some.inj h
        rw [if_neg (by omega), if_neg (by omega), if_pos (by omega), hchar (by omega)]
        exact ⟨by omega, rfl⟩
      · split at h
        · next hplus =>
          obtain rfl := Option.some.inj h
          exact ⟨by omega, hplus.symm⟩
        · split at h
          · next hslash =>
            obtain rfl := Option.some.inj h
            exact ⟨by omega, hslash.symm⟩
          · cases h

/-- **Digits that are read are those that write the bytes.** -/
theorem encodeBare_of_decodeBare? {digits : List Char} {bytes : Bytes}
    (h : decodeBare? a digits = some bytes) : encodeBare a bytes = digits := by
  have hbyte {n : Nat} (hn : n < 256) : n.toUInt8.toNat = n := by
    simpa using hn
  fun_induction decodeBare? a digits generalizing bytes with
  | case1 =>
      cases h
      rfl
  | case2 => cases h
  | case3 p q =>
      simp only [bind, Option.bind_eq_some_iff] at h
      obtain ⟨m, hp, n, hq, hrest⟩ := h
      obtain ⟨hm, rfl⟩ := digit_of_value? hp
      obtain ⟨hn, rfl⟩ := digit_of_value? hq
      split at hrest
      · next hunused =>
        cases hrest
        have h1 : (m * 4 + n / 16) / 4 = m := by omega
        have h2 : (m * 4 + n / 16) % 4 * 16 = n := by omega
        rw [encodeBare, hbyte (by omega), h1, h2]
      · cases hrest
  | case4 p q r =>
      simp only [bind, Option.bind_eq_some_iff] at h
      obtain ⟨m, hp, n, hq, k, hr, hrest⟩ := h
      obtain ⟨hm, rfl⟩ := digit_of_value? hp
      obtain ⟨hn, rfl⟩ := digit_of_value? hq
      obtain ⟨hk, rfl⟩ := digit_of_value? hr
      split at hrest
      · next hunused =>
        cases hrest
        have h1 : (m * 4 + n / 16) / 4 = m := by omega
        have h2 : (m * 4 + n / 16) % 4 * 16 + (n % 16 * 16 + k / 4) / 16 = n := by omega
        have h3 : (n % 16 * 16 + k / 4) % 16 * 4 = k := by omega
        rw [encodeBare, hbyte (by omega), hbyte (by omega), h1, h2, h3]
      · cases hrest
  | case5 p q r s rest ih =>
      simp only [bind, Option.bind_eq_some_iff] at h
      obtain ⟨m, hp, n, hq, k, hr, l, hs, more, hmore, hrest⟩ := h
      obtain ⟨hm, rfl⟩ := digit_of_value? hp
      obtain ⟨hn, rfl⟩ := digit_of_value? hq
      obtain ⟨hk, rfl⟩ := digit_of_value? hr
      obtain ⟨hl, rfl⟩ := digit_of_value? hs
      cases hrest
      have h1 : (m * 4 + n / 16) / 4 = m := by omega
      have h2 : (m * 4 + n / 16) % 4 * 16 + (n % 16 * 16 + k / 4) / 16 = n := by omega
      have h3 : (n % 16 * 16 + k / 4) % 16 * 4 + (k % 4 * 64 + l) / 64 = k := by omega
      have h4 : (k % 4 * 64 + l) % 64 = l := by omega
      rw [encodeBare, hbyte (by omega), hbyte (by omega), hbyte (by omega), h1, h2, h3, h4,
        ih hmore]

/-- **URL-safe base64** is read exactly where it is written. -/
theorem decodeUrl?_eq_some_iff {s : String} {bytes : Bytes} :
    decodeUrl? s = some bytes ↔ s = encodeUrl bytes := by
  constructor
  · intro h
    rw [encodeUrl, encodeBare_of_decodeBare? h, String.ofList_toList]
  · rintro rfl
    exact decodeUrl?_encodeUrl bytes

/-- With padding, however much of it, the same bytes are read as without. -/
theorem decodeUrl?_dropEnd_iff {text : String} {bytes : Bytes} :
    decodeUrl? (Text.dropEnd '=' text) = some bytes ↔
      ∃ k, text = encodeUrl bytes ++ String.ofList (List.replicate k '=') := by
  rw [decodeUrl?_eq_some_iff]
  constructor
  · intro h
    rw [← h]
    exact Text.exists_dropEnd '=' text
  · rintro ⟨k, rfl⟩
    refine Text.dropEnd_append_replicate (fun hlast => ?_) k
    exact not_mem_encodeUrl (by decide) bytes (List.mem_of_getLast? hlast)

end SignOn.Base64
