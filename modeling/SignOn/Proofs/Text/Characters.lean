/-!
# Characters and their numbers

A character below the surrogates is told by its number (`toNat_ofNat`), so a statement about the
characters of ASCII is one about 128 numbers (`forall_ascii`).  A statement about the characters of
a text is decided on the text; going through all characters there are would take too long.
-/

namespace SignOn.Text

instance (priority := 2000) decidableForallMemList {P : Char → Prop} [DecidablePred P]
    (s : List Char) : Decidable (∀ c ∈ s, P c) :=
  List.decidableBAll P s

instance (priority := 2000) decidableForallMemOption {P : Char → Prop} [DecidablePred P]
    (o : Option Char) : Decidable (∀ c ∈ o, P c) :=
  Option.decidableForallMem o

/-- A number below the surrogates is that of a character. -/
theorem toNat_ofNat {n : Nat} (h : n < 0xD800) : (Char.ofNat n).toNat = n := by
  unfold Char.ofNat
  rw [dif_pos (show n.isValidChar from .inl h)]
  rfl

/-- What holds of the first 128 characters holds of those of ASCII. -/
theorem forall_ascii {P : Char → Prop} (h : ∀ n < 128, P (Char.ofNat n)) {c : Char}
    (hc : c.toNat < 128) : P c := by
  have hn := h c.toNat hc
  rwa [Char.ofNat_toNat] at hn

/-- A character that is no capital letter is its own small letter. -/
theorem toLower_eq_self {c : Char} (h : c.toNat < 65 ∨ 90 < c.toNat) : c.toLower = c := by
  unfold Char.toLower
  rw [dif_neg]
  rintro ⟨hlow, hhigh⟩
  have hlow' : 65 ≤ c.toNat := hlow
  have hhigh' : c.toNat ≤ 90 := hhigh
  omega

/-- The small letter of a character of ASCII is one, and no capital letter. -/
theorem toLower_range {c : Char} (h : c.toNat < 128) :
    c.toLower.toNat < 128 ∧ (c.toLower.toNat < 65 ∨ 90 < c.toLower.toNat) :=
  forall_ascii (P := fun c => c.toLower.toNat < 128 ∧ (c.toLower.toNat < 65 ∨ 90 < c.toLower.toNat))
    (by decide) h

end SignOn.Text
