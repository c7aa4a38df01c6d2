import Mathlib.Data.List.Chain
import SignOn.Proofs.Text.Characters
import SignOn.Url.DomainName
/-!
# Characters of a name are mapped once

What the tables of characters say is computed once and for all: no character is mapped to one that
is mapped further (`images_not_mapped`), and neither composed characters nor their parts are mapped.
Sets of characters are compared as the bits of numbers, since the tables are long.

So the image of a character is of characters that stand for themselves (`isFixed_of_mem_mapChar`),
and a name that is mapped is not changed by mapping it again.
-/

namespace SignOn.DomainName

/-- A set of numbers as the bits of one number. -/
def bits (ns : List Nat) : Nat :=
  ns.foldr (fun n set => set ||| 1 <<< n) 0

theorem testBit_bits (ns : List Nat) (n : Nat) : (bits ns).testBit n = true ↔ n ∈ ns := by
  induction ns with
  | nil => simp [bits]
  | cons a ns ih =>
      have hcons : bits (a :: ns) = bits ns ||| 1 <<< a := rfl
      rw [hcons, Nat.testBit_or, Nat.one_shiftLeft, Nat.testBit_two_pow, Bool.or_eq_true, ih]
      simp [or_comm, eq_comm]

/-- Sets without a common bit have no common number. -/
theorem not_mem_of_bits {ns ms : List Nat} (h : bits ns &&& bits ms = 0) {n : Nat} (hn : n ∈ ns) :
    n ∉ ms := by
  intro hm
  have hbit := congrArg (Nat.testBit · n) h
  rw [← testBit_bits] at hn hm
  simp [hn, hm] at hbit

/-- The characters that a run maps. -/
def Run.sources (r : Run) : List Nat :=
  (List.range ((r.last - r.first) / r.step + 1)).map fun k => r.first + r.step * k

/-- The characters that a run maps to. -/
def Run.images (r : Run) : List Nat :=
  (List.range ((r.last - r.first) / r.step + 1)).flatMap fun k => r.image.map (· + r.step * k)

/-- The characters outside of ASCII that do not stand for themselves. -/
def mapped : List Nat :=
  [0x3002, 0xFF0E, 0xFF61] ++ ignored.flatMap (fun (a, b) => List.range' a (b + 1 - a)) ++
    runs.flatMap Run.sources

/-- The composed characters. -/
def wholes : List Nat :=
  compositions.map (·.1)

/-- The characters of which others are composed. -/
def parts : List Nat :=
  compositions.flatMap fun e => [e.2.1, e.2.2]

/-- The composed characters whose first part is in a set. -/
def composedOver (set : Nat) : List Nat :=
  (compositions.filter fun e => set.testBit e.2.1).map (·.1)

/-- The composed characters that are taken apart in more steps than a number. -/
def deep : Nat → List Nat
  | 0 => wholes
  | k + 1 => composedOver (bits (deep k))

/-! ### What the tables say -/

/-- No character is mapped to one that is mapped further. -/
theorem images_not_mapped : bits (runs.flatMap Run.images) &&& bits mapped = 0 := by
  decide +kernel

/-- No character is mapped to a capital letter of ASCII. -/
theorem range_of_mem_images :
    ∀ n ∈ runs.flatMap Run.images, (n < 65 ∨ 90 < n) ∧ n < 0xD800 := by
  decide +kernel

/-- Neither composed characters nor their parts are mapped. -/
theorem compositions_not_mapped : bits (wholes ++ parts) &&& bits mapped = 0 := by
  decide +kernel

/-- What an entry of the table of compositions may be: the composed character is none of ASCII, and
neither is the mark; a first part from ASCII is a letter in lower case, and it is no mark. -/
structure IsEntry (e : Nat × Nat × Nat) : Prop where
  whole : 0x80 ≤ e.1 ∧ e.1 < 0xD800
  letter : 97 ≤ e.2.1 ∧ e.2.1 ≤ 122 ∨ 0x80 ≤ e.2.1
  base : (e.2.1 < 0x300 ∨ 0x36F < e.2.1) ∧ e.2.1 < 0xD800
  mark : 0x300 ≤ e.2.2 ∧ e.2.2 < 0xD800

instance (e : Nat × Nat × Nat) : Decidable (IsEntry e) :=
  decidable_of_iff
    ((0x80 ≤ e.1 ∧ e.1 < 0xD800) ∧ (97 ≤ e.2.1 ∧ e.2.1 ≤ 122 ∨ 0x80 ≤ e.2.1) ∧
      ((e.2.1 < 0x300 ∨ 0x36F < e.2.1) ∧ e.2.1 < 0xD800) ∧ 0x300 ≤ e.2.2 ∧ e.2.2 < 0xD800)
    ⟨fun ⟨whole, letter, base, mark⟩ => ⟨whole, letter, base, mark⟩,
      fun ⟨whole, letter, base, mark⟩ => ⟨whole, letter, base, mark⟩⟩

theorem isEntry_of_mem : ∀ e ∈ compositions, IsEntry e := by
  decide +kernel

/-- The table of compositions is in order. -/
theorem wholes_increasing : List.IsChain (· < ·) wholes := by
  decide +kernel

/-- No mark is composed. -/
theorem marks_not_wholes : bits (compositions.map (·.2.2)) &&& bits wholes = 0 := by
  decide +kernel

/-- No character is composed in more than three steps. -/
theorem deep_three : deep 3 = [] := by
  decide +kernel

/-! ### Characters that stand for themselves -/

/-- A character stands for itself in a name. -/
def IsFixed (c : Char) : Prop :=
  mapChar c = [c]

/-- A run maps the characters between its ends, in its steps. -/
theorem Run.mem_sources {r : Run} {n : Nat} (hfirst : r.first ≤ n) (hlast : n ≤ r.last)
    (hstep : (n - r.first) % r.step = 0) :
    ∃ k < (r.last - r.first) / r.step + 1, n = r.first + r.step * k := by
  refine ⟨(n - r.first) / r.step, ?_, ?_⟩
  · exact Nat.lt_succ_of_le (Nat.div_le_div_right (by omega))
  · have hdiv := Nat.div_add_mod (n - r.first) r.step
    omega

/-- A character that no table maps stands for itself. -/
theorem isFixed_of_not_mem {c : Char} (hcapital : c.toNat < 65 ∨ 90 < c.toNat)
    (h : c.toNat ∉ mapped) : IsFixed c := by
  simp only [IsFixed, mapChar]
  simp only [mapped, List.mem_append, not_or, List.mem_flatMap, not_exists, not_and] at h
  obtain ⟨⟨hdots, hignored⟩, hruns⟩ := h
  split
  · rw [Text.toLower_eq_self hcapital]
  · rw [if_neg (by simpa using hdots), if_neg]
    · have hnone : runs.find? (fun r => r.first ≤ c.toNat && c.toNat ≤ r.last &&
          (c.toNat - r.first) % r.step = 0) = none := by
        rw [List.find?_eq_none]
        intro r hr hcovers
        simp only [Bool.and_eq_true, decide_eq_true_eq] at hcovers
        obtain ⟨k, hk, hn⟩ := Run.mem_sources hcovers.1.1 hcovers.1.2 hcovers.2
        exact hruns r hr (List.mem_map.mpr ⟨k, List.mem_range.mpr hk, hn.symm⟩)
      rw [hnone]
    · simp only [List.any_eq_true, Bool.and_eq_true, decide_eq_true_eq, not_exists, not_and]
      rintro ⟨a, b⟩ hmem hlow hhigh
      refine hignored (a, b) hmem (List.mem_range'_1.mpr ⟨hlow, ?_⟩)
      simp only at hlow hhigh ⊢
      omega

/-- **The image of a character stands for itself.** -/
theorem isFixed_of_mem_mapChar {c d : Char} (h : d ∈ mapChar c) : IsFixed d := by
  have hc : IsFixed c → IsFixed d := by
    intro hfixed
    rw [hfixed, List.mem_singleton] at h
    exact h ▸ hfixed
  by_cases hascii : c.toNat < 128
  · have hd : d = c.toLower := by simpa [mapChar, hascii] using h
    subst hd
    obtain ⟨hlow, hcapital⟩ := Text.toLower_range hascii
    simp [IsFixed, mapChar, hlow, Text.toLower_eq_self hcapital]
  by_cases hdots : c.toNat = 0x3002 ∨ c.toNat = 0xFF0E ∨ c.toNat = 0xFF61
  · have hd : d = '.' := by simpa [mapChar, hascii, hdots] using h
    subst hd
    rfl
  by_cases hignored : (ignored.any fun (a, b) => a ≤ c.toNat && c.toNat ≤ b) = true
  · simp [mapChar, hascii, hdots, hignored] at h
  cases hrun : runs.find? fun r => r.first ≤ c.toNat && c.toNat ≤ r.last &&
      (c.toNat - r.first) % r.step = 0 with
  | none =>
      exact hc (by
        simp only [IsFixed, mapChar, hascii, hdots, hignored, hrun, if_false, Bool.false_eq_true])
  | some r =>
      simp only [mapChar, hascii, hdots, hignored, hrun, if_false, Bool.false_eq_true] at h
      obtain ⟨m, hm, rfl⟩ := List.mem_map.mp h
      have hcovers := List.find?_some hrun
      simp only [Bool.and_eq_true, decide_eq_true_eq] at hcovers
      obtain ⟨k, hk, hn⟩ := Run.mem_sources hcovers.1.1 hcovers.1.2 hcovers.2
      have himage : m + (c.toNat - r.first) ∈ runs.flatMap Run.images := by
        refine List.mem_flatMap.mpr ⟨r, List.mem_of_find?_eq_some hrun, ?_⟩
        refine List.mem_flatMap.mpr ⟨k, List.mem_range.mpr hk, List.mem_map.mpr ⟨m, hm, ?_⟩⟩
        omega
      obtain ⟨hcapital, hvalid⟩ := range_of_mem_images _ himage
      have hnat : (Char.ofNat (m + (c.toNat - r.first))).toNat = m + (c.toNat - r.first) :=
        Text.toNat_ofNat hvalid
      refine isFixed_of_not_mem (by rwa [hnat]) ?_
      rw [hnat]
      exact not_mem_of_bits images_not_mapped himage

end SignOn.DomainName
