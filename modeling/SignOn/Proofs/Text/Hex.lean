import SignOn.Text.Hex
/-!
# Hexadecimal text is read back

A digit is read back as its value, two digits as the byte that they write, and a text as the bytes
that it writes (`decode?_encode`).  So different byte strings have different texts
(`encode_injective`).
-/

namespace SignOn.Hex

/-- A digit is read back. -/
theorem value?_digit {n : Nat} (hn : n < 16) : value? (digit n) = some n := by
  have hall : ∀ m < 16, value? (digit m) = some m := by decide
  exact hall n hn

/-- Two digits are read back as the byte that they write. -/
theorem decodeChars?_encodeChars (bytes : Bytes) :
    decodeChars? (encodeChars bytes) = some bytes := by
  induction bytes with
  | nil => rfl
  | cons b bytes ih =>
      have hb := b.toNat_lt
      have hhigh : value? (digit (b.toNat / 16)) = some (b.toNat / 16) := value?_digit (by omega)
      have hlow : value? (digit (b.toNat % 16)) = some (b.toNat % 16) := value?_digit (by omega)
      have hbyte : (16 * (b.toNat / 16) + b.toNat % 16).toUInt8 = b := by
        rw [Nat.div_add_mod]
        exact UInt8.ofNat_toNat
      have hcons : encodeChars (b :: bytes) =
          digit (b.toNat / 16) :: digit (b.toNat % 16) :: encodeChars bytes := rfl
      simp only [hcons, decodeChars?, hhigh, hlow, ih, bind, Option.bind, pure, hbyte]

/-- **Hexadecimal text is read back.** -/
theorem decode?_encode (bytes : Bytes) : decode? (encode bytes) = some bytes := by
  rw [decode?, encode, String.toList_ofList, decodeChars?_encodeChars]

/-- Different byte strings have different texts. -/
theorem encode_injective : Function.Injective encode := by
  intro a b h
  have hread := congrArg decode? h
  rw [decode?_encode, decode?_encode] at hread
  exact Option.some.inj hread

end SignOn.Hex
