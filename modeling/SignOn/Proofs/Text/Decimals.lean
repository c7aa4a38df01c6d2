import Mathlib.Data.List.TakeWhile
import Mathlib.Tactic.IntervalCases
import SignOn.Text.Split
/-!
# Decimal numbers are read back

The digits of a padded number are its decimal digits behind zeros (`toList_padded`).  They are all
digits, they fill the width if the number fits into it, and their value is the number
(`digitsToNat?_padded`).  Numbers without padding are told by their digits as well (`toString_inj`).
A reader that takes digits while they come stops where they end (`takeWhile_isDigit_append`).
-/

namespace SignOn.Text

/-- A text does not go on with a digit. -/
def DigitsEnd (rest : List Char) : Prop :=
  ∀ c ∈ rest.head?, c.isDigit = false

/-- A number is written in digits. -/
theorem isDigit_of_mem_toString {index : Nat} {c : Char} (h : c ∈ (toString index).toList) :
    c.isDigit = true := by
  rw [Nat.toString_eq_ofList_toDigits, String.toList_ofList] at h
  exact Nat.isDigit_of_mem_toDigits (by decide) (by decide) h

/-- A number is told by its digits. -/
theorem toString_inj {i j : Nat} : toString i = toString j ↔ i = j := by
  constructor
  · intro heq
    have hdigits : Nat.toDigits 10 i = Nat.toDigits 10 j := by
      have hchars := congrArg String.toList heq
      simpa only [Nat.toString_eq_ofList_toDigits, String.toList_ofList] using hchars
    calc i = Nat.ofDigitChars 10 (Nat.toDigits 10 i) 0 := Nat.ofDigitChars_ten_toDigits.symm
      _ = Nat.ofDigitChars 10 (Nat.toDigits 10 j) 0 := by rw [hdigits]
      _ = j := Nat.ofDigitChars_ten_toDigits
  · rintro rfl
    rfl

theorem toList_padded (width n : Nat) :
    (padded width n).toList =
      List.replicate (width - (Nat.toDigits 10 n).length) '0' ++ Nat.toDigits 10 n := by
  simp only [padded, Nat.toString_eq_ofList_toDigits, String.toList_append, String.toList_ofList,
    String.length_ofList]

/-- A padded number is all digits. -/
theorem isDigit_of_mem_padded {width n : Nat} {c : Char} (h : c ∈ (padded width n).toList) :
    c.isDigit = true := by
  rw [toList_padded, List.mem_append] at h
  rcases h with hzero | hdigit
  · rw [List.eq_of_mem_replicate hzero]
    decide
  · exact Nat.isDigit_of_mem_toDigits (by decide) (by decide) hdigit

/-- A padded number has a digit. -/
theorem padded_ne_nil (width n : Nat) : (padded width n).toList ≠ [] := by
  rw [toList_padded]
  exact List.append_ne_nil_of_right_ne_nil _ Nat.toDigits_ne_nil

/-- A number that fits into the width fills it. -/
theorem length_padded {width n : Nat} (hwidth : 0 < width) (hn : n < 10 ^ width) :
    (padded width n).toList.length = width := by
  have hle : (Nat.toDigits 10 n).length ≤ width :=
    (Nat.length_toDigits_le_iff (by decide) hwidth).mpr hn
  rw [toList_padded, List.length_append, List.length_replicate]
  omega

/-- **A padded number is read back.** -/
theorem digitsToNat?_padded (width n : Nat) : digitsToNat? (padded width n).toList = some n := by
  have hall : (padded width n).toList.all Char.isDigit = true :=
    List.all_eq_true.mpr fun c hc => isDigit_of_mem_padded hc
  have hfold (s : List Char) :
      s.foldl (fun n c => 10 * n + (c.toNat - 48)) 0 = Nat.ofDigitChars 10 s 0 := rfl
  have hvalue : (padded width n).toList.foldl (fun n c => 10 * n + (c.toNat - 48)) 0 = n := by
    rw [hfold, toList_padded, Nat.ofDigitChars_append, Nat.ofDigitChars_replicate_zero,
      Nat.mul_zero, Nat.ofDigitChars_ten_toDigits]
  simp only [digitsToNat?, padded_ne_nil, hall, hvalue, ne_eq, not_false_eq_true, and_self, if_true]

/-- A digit is no blank. -/
theorem isBlank_of_isDigit {c : Char} (h : c.isDigit = true) : isBlank c = false := by
  have hrange := Bool.and_eq_true_iff.mp h
  have hlow : 48 ≤ c.toNat := of_decide_eq_true hrange.1
  have hhigh : c.toNat ≤ 57 := of_decide_eq_true hrange.2
  unfold isBlank
  generalize c.toNat = n at hlow hhigh ⊢
  interval_cases n <;> rfl

/-- Digits are taken up to where they end. -/
theorem takeWhile_isDigit_append {digits rest : List Char}
    (hdigits : ∀ c ∈ digits, c.isDigit = true) (hrest : DigitsEnd rest) :
    (digits ++ rest).takeWhile Char.isDigit = digits := by
  have hnone : rest.takeWhile Char.isDigit = [] := by
    cases rest with
    | nil => rfl
    | cons c rest => simp [hrest c rfl]
  rw [List.takeWhile_append_of_pos hdigits, hnone, List.append_nil]

/-- Digits are dropped up to where they end. -/
theorem dropWhile_isDigit_append {digits rest : List Char}
    (hdigits : ∀ c ∈ digits, c.isDigit = true) (hrest : DigitsEnd rest) :
    (digits ++ rest).dropWhile Char.isDigit = rest := by
  have hnone : rest.dropWhile Char.isDigit = rest := by
    cases rest with
    | nil => rfl
    | cons c rest => simp [hrest c rfl]
  rw [List.dropWhile_append_of_pos hdigits, hnone]

/-- Digits are taken up to where they end or their number is reached. -/
theorem takeWhile_isDigit_take {digits rest : List Char} {width : Nat}
    (hdigits : ∀ c ∈ digits, c.isDigit = true)
    (hrest : digits.length = width ∨ digits.length ≤ width ∧ DigitsEnd rest) :
    ((digits ++ rest).take width).takeWhile Char.isDigit = digits := by
  rcases hrest with rfl | ⟨hlength, hend⟩
  · rw [List.take_left, List.takeWhile_eq_self_iff]
    exact hdigits
  · rw [List.take_append, List.take_of_length_le hlength]
    refine takeWhile_isDigit_append hdigits ?_
    intro c hc
    cases rest with
    | nil => simp at hc
    | cons d rest =>
        cases hfew : width - digits.length with
        | zero => simp [hfew] at hc
        | succ n =>
            simp only [hfew, List.take_succ_cons, List.head?_cons, Option.mem_def] at hc
            exact hend c hc

end SignOn.Text
