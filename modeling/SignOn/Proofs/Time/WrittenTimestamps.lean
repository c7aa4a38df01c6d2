import SignOn.Proofs.Text.Decimals
import SignOn.Proofs.Time.Calendar
import SignOn.Timestamp
/-!
# A written timestamp is read back

The reader takes far more than the writer writes: short numbers, blanks, any offset.  So what is
shown here is only that it takes back each part as it was written.  A number is read where it ends
or its width is reached (`number?_padded`), a year with its sign (`year?_yearText`), a fraction with
the zeros that were left out (`fraction?_fractionText`), and the date and the time of day from
these.  A leap second is written as the sixtieth second of its minute.

The main statement is `parse?_text`: every point in time is read back from its written form.
-/

namespace SignOn.Timestamp

open Text

/-- A padded number is read back if it fits into the width, or if it ends where other characters
follow. -/
theorem number?_padded {width most n : Nat} {rest : List Char}
    (hrest : (padded width n).toList.length = most ∨
      (padded width n).toList.length ≤ most ∧ DigitsEnd rest) :
    number? most ((padded width n).toList ++ rest) = some (n, rest) := by
  have hdigits : ∀ c ∈ (padded width n).toList, c.isDigit = true :=
    fun c hc => isDigit_of_mem_padded hc
  have htake := takeWhile_isDigit_take hdigits hrest
  have hblank : ((padded width n).toList ++ rest).dropWhile isBlank =
      (padded width n).toList ++ rest := by
    obtain ⟨c, digits, hcons⟩ := List.exists_cons_of_ne_nil (padded_ne_nil width n)
    have hc : isBlank c = false := isBlank_of_isDigit (hdigits c (by simp [hcons]))
    simp [hcons, hc]
  simp only [number?, hblank, htake, digitsToNat?_padded, List.drop_left, bind, Option.bind]
  rfl

/-- A number of two digits is read back. -/
theorem number?_two {n : Nat} (hn : n < 100) (rest : List Char) :
    number? 2 ((padded 2 n).toList ++ rest) = some (n, rest) :=
  number?_padded (.inl (length_padded (by decide) hn))

/-- A mark is read back. -/
theorem mark?_cons {c : Char} (hc : isBlank c = false) (rest : List Char) :
    mark? c (c :: rest) = some rest := by
  simp [mark?, hc]

theorem digitsEnd_cons {c : Char} (hc : c.isDigit = false) (rest : List Char) :
    DigitsEnd (c :: rest) := by
  intro d hd
  cases hd
  exact hc

/-- The digits of a number come right after a sign. -/
theorem head?_padded (width n : Nat) (rest : List Char) :
    ((padded width n).toList ++ rest).head?.any Char.isDigit = true := by
  obtain ⟨c, digits, hcons⟩ := List.exists_cons_of_ne_nil (padded_ne_nil width n)
  have hc : c.isDigit = true := isDigit_of_mem_padded (by rw [hcons]; exact List.mem_cons_self)
  simp [hcons, hc]

/-- A year of four digits is read back. -/
theorem year?_padded {n : Nat} (hn : n < 10000) (rest : List Char) :
    year? ((padded 4 n).toList ++ rest) = some ((n : Int), rest) := by
  have hnumber : number? 4 ((padded 4 n).toList ++ rest) = some (n, rest) :=
    number?_padded (.inl (length_padded (by decide) hn))
  obtain ⟨c, digits, hcons⟩ := List.exists_cons_of_ne_nil (padded_ne_nil 4 n)
  have hc : c.isDigit = true := isDigit_of_mem_padded (by rw [hcons]; exact List.mem_cons_self)
  rw [hcons, List.cons_append] at hnumber ⊢
  have hblank : (c :: (digits ++ rest)).dropWhile isBlank = c :: (digits ++ rest) := by
    simp [isBlank_of_isDigit hc]
  -- The first character is a digit, so it is no sign.
  unfold year?
  rw [hblank]
  split
  · next hsign =>
    cases hsign
    cases hc
  · next hsign =>
    cases hsign
    cases hc
  · rw [hnumber]
    rfl

/-- **A year is read back**, with its sign if it has one. -/
theorem year?_yearText (year : Int) {rest : List Char} (hrest : DigitsEnd rest) :
    year? ((yearText year).toList ++ rest) = some (year, rest) := by
  have hnumber : number? ((padded 4 year.natAbs).toList ++ rest).length
      ((padded 4 year.natAbs).toList ++ rest) = some (year.natAbs, rest) :=
    number?_padded (.inr ⟨by simp, hrest⟩)
  have hhead := head?_padded 4 year.natAbs rest
  unfold yearText
  by_cases hfour : 0 ≤ year ∧ year ≤ 9999
  · rw [if_pos hfour, year?_padded (by omega), Int.toNat_of_nonneg hfour.1]
  · rw [if_neg hfour, String.toList_append, List.append_assoc]
    generalize (padded 4 year.natAbs).toList ++ rest = digits at hnumber hhead ⊢
    generalize hsize : year.natAbs = n at hnumber
    by_cases hneg : year < 0
    · have habs : -(n : Int) = year := by omega
      have hblank : isBlank '-' = false := by decide
      rw [if_pos hneg]
      simp [year?, hblank, hhead, hnumber, habs]
    · have habs : (n : Int) = year := by omega
      have hblank : isBlank '+' = false := by decide
      rw [if_neg hneg]
      simp [year?, hblank, hhead, hnumber, habs]

/-- The digits of a fraction are read back with the zeros behind them. -/
theorem fraction?_padded {width n : Nat} (hwidth : 0 < width ∧ width ≤ 9) (hn : n < 10 ^ width) :
    fraction? ('.' :: ((padded width n).toList ++ ['Z'])) =
      some (n * 10 ^ (9 - width), ['Z']) := by
  have hdigits : ∀ c ∈ (padded width n).toList, c.isDigit = true :=
    fun c hc => isDigit_of_mem_padded hc
  have hlength := length_padded hwidth.1 hn
  have hend : DigitsEnd ['Z'] := digitsEnd_cons (by decide) []
  have htake := takeWhile_isDigit_take hdigits (.inr ⟨hlength.trans_le hwidth.2, hend⟩)
  have hdrop := dropWhile_isDigit_append hdigits hend
  simp only [fraction?, htake, hdrop, digitsToNat?_padded, hlength, bind, Option.bind]
  rfl

/-- **A fraction is read back**, with the zeros that were left out. -/
theorem fraction?_fractionText {nanos : Nat} (hnanos : nanos < 1000000000) :
    fraction? ((fractionText nanos).toList ++ ['Z']) = some (nanos, ['Z']) := by
  unfold fractionText
  split
  · next hzero =>
    subst hzero
    decide
  · split
    · have hread := @fraction?_padded 3 (nanos / 1000000) (by decide) (by omega)
      have hvalue : nanos / 1000000 * 10 ^ (9 - 3) = nanos := by omega
      rw [hvalue] at hread
      simpa using hread
    · split
      · have hread := @fraction?_padded 6 (nanos / 1000) (by decide) (by omega)
        have hvalue : nanos / 1000 * 10 ^ (9 - 6) = nanos := by omega
        rw [hvalue] at hread
        simpa using hread
      · have hread := @fraction?_padded 9 nanos (by decide) (by omega)
        simpa using hread

/-- A date that exists is read back as its day. -/
theorem date?_written {year : Int} {month day : Nat} (hdate : Calendar.isDate year month day = true)
    (hyear : -262143 ≤ year ∧ year ≤ 262142) (rest : List Char) :
    date? ((yearText year).toList ++ '-' :: ((padded 2 month).toList ++
      '-' :: ((padded 2 day).toList ++ rest))) = some (Calendar.dayOf year month day, rest) := by
  obtain ⟨hmonth, hday⟩ := Calendar.isDate_le hdate
  have hdash : isBlank '-' = false := by decide
  have hend := fun rest => digitsEnd_cons (show '-'.isDigit = false by decide) rest
  simp only [date?, year?_yearText year (hend _), mark?_cons hdash,
    number?_two (show month < 100 by omega), number?_two (show day < 100 by omega), bind,
    Option.bind, hyear, hdate, and_self, if_true]
  rfl

/-- **The date of a day is read back** as this day. -/
theorem date?_dateOf {days : Int} (hfirst : Calendar.dayOf (-262143) 1 1 ≤ days)
    (hlast : days < Calendar.dayOf 262143 1 1) (rest : List Char) :
    date? ((yearText (Calendar.dateOf days).1).toList ++
      '-' :: ((padded 2 (Calendar.dateOf days).2.1).toList ++
        '-' :: ((padded 2 (Calendar.dateOf days).2.2).toList ++ rest))) = some (days, rest) := by
  obtain ⟨hdate, hday⟩ := Calendar.dayOf_dateOf days
  obtain ⟨hyear, hyear'⟩ := Calendar.year_dateOf hfirst hlast
  rw [date?_written hdate ⟨hyear, Int.le_sub_one_of_lt hyear'⟩, hday]

/-- **A time of day is read back.** -/
theorem timeOfDay?_text {second nanos : Nat} (hsecond : second < 86400)
    (hnanos : nanos < 2000000000) (hleap : 1000000000 ≤ nanos → second % 60 = 59) :
    timeOfDay? ((padded 2 (second / 3600)).toList ++ ':' :: ((padded 2 (second / 60 % 60)).toList ++
      ':' :: ((padded 2 (second % 60 + nanos / 1000000000)).toList ++
        ((fractionText (nanos % 1000000000)).toList ++ ['Z'])))) = some (second, nanos, ['Z']) := by
  have hcolon : isBlank ':' = false := by decide
  have hfraction := @fraction?_fractionText (nanos % 1000000000) (by omega)
  have hrange : ¬(23 < second / 3600 ∨ 59 < second / 60 % 60 ∨
      60 < second % 60 + nanos / 1000000000) := by omega
  simp only [timeOfDay?, mark?_cons hcolon, number?_two (show second / 3600 < 100 by omega),
    number?_two (show second / 60 % 60 < 100 by omega),
    number?_two (show second % 60 + nanos / 1000000000 < 100 by omega), hfraction, bind,
    Option.bind, if_neg hrange]
  by_cases hlate : second % 60 + nanos / 1000000000 = 60
  · have hsum : second / 3600 * 3600 + second / 60 % 60 * 60 + 59 = second := by omega
    have hrest : nanos % 1000000000 + 1000000000 = nanos := by omega
    rw [if_pos hlate, hsum, hrest]
    rfl
  · have hsum : second / 3600 * 3600 + second / 60 % 60 * 60 +
        (second % 60 + nanos / 1000000000) = second := by omega
    have hrest : nanos % 1000000000 = nanos := by omega
    rw [if_neg hlate, hsum, hrest]
    rfl

/-- The characters of a written timestamp. -/
theorem toList_text (t : Timestamp) :
    t.text.toList =
      (yearText (Calendar.dateOf (t.seconds / 86400)).1).toList ++
      '-' :: ((padded 2 (Calendar.dateOf (t.seconds / 86400)).2.1).toList ++
      '-' :: ((padded 2 (Calendar.dateOf (t.seconds / 86400)).2.2).toList ++
      'T' :: ((padded 2 ((t.seconds % 86400).toNat / 3600)).toList ++
      ':' :: ((padded 2 ((t.seconds % 86400).toNat / 60 % 60)).toList ++
      ':' :: ((padded 2 ((t.seconds % 86400).toNat % 60 + t.nanos / 1000000000)).toList ++
        ((fractionText (t.nanos % 1000000000)).toList ++ ['Z'])))))) := by
  simp [text, localText]

/-- **A written timestamp is read back.** -/
theorem parse?_text (t : Timestamp) : parse? t.text = some t := by
  have hfirst : Calendar.dayOf (-262143) 1 1 ≤ t.seconds / 86400 :=
    Int.le_ediv_of_mul_le (by decide) t.earliest_le
  have hlast : t.seconds / 86400 < Calendar.dayOf 262143 1 1 :=
    Int.ediv_lt_of_lt_mul (by decide) t.lt_horizon
  have hsecond : (t.seconds % 86400).toNat < 86400 := by omega
  have hleap : 1000000000 ≤ t.nanos → (t.seconds % 86400).toNat % 60 = 59 := by
    intro hlate
    have := t.leap hlate
    omega
  have hdate := date?_dateOf hfirst hlast
  have htime := timeOfDay?_text hsecond t.nanos_lt hleap
  have hseconds : t.seconds / 86400 * 86400 + ((t.seconds % 86400).toNat : Int) - 0 =
      t.seconds := by
    omega
  have hoffset : offset? (['Z'].dropWhile isBlank) = some (0, []) := by decide
  have hparts : ofParts? t.seconds t.nanos = some t :=
    dif_pos ⟨t.nanos_lt, t.leap, t.earliest_le, t.lt_horizon⟩
  rw [parse?, toList_text, hdate]
  simp only [bind, Option.bind, ne_eq, not_true_eq_false, false_and, if_false, htime, hoffset,
    List.all_nil, if_true, hseconds, hparts]

end SignOn.Timestamp
