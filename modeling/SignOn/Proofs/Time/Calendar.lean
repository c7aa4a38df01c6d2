import Mathlib.Tactic.IntervalCases
import SignOn.Calendar
/-!
# Days and dates

The date of a day is found in two steps.  First the day is cut into a year, which begins in March,
and a day of that year (`exists_cut`): in a cycle of four hundred years the centuries have the same
number of days but for the last, and so have the fours of years in a century but for the last.
Then the day of the year is cut into a month and a day of the month (`dateIn`).

Counting the days up to the date that was found gives the day back, and the date exists
(`dayOf_dateOf`, `isDate_dateOf`).
-/

namespace SignOn.Calendar

/-- The days before the first of March of a year, counted from a first of March in the year 0. -/
def daysBefore (year : Int) : Int :=
  365 * year + year / 4 - year / 100 + year / 400

/-- The date of a day of a year that begins in March. -/
def dateIn (year dayOfYear : Int) : Int × Nat × Nat :=
  let m := (5 * dayOfYear + 2) / 153
  let month := if m < 10 then m + 3 else m - 9
  (year + (if month ≤ 2 then 1 else 0), month.toNat, (dayOfYear - (153 * m + 2) / 5 + 1).toNat)

/-- **A day of a century** that begins in March: `c` is the number of the century, `r` that of the
day.  A year of it is found from the number of leap days that have passed. -/
theorem cut_century {r c k : Int} (hc : 0 ≤ c ∧ c ≤ 3) (hr : 0 ≤ r ∧ r < 36524)
    (hk : k = (r - (r + 24 * c) / 1460) / 365) :
    (0 ≤ k ∧ k < 100) ∧ (0 ≤ r - (365 * k + k / 4) ∧ r - (365 * k + k / 4) ≤ 365) ∧
      (r - (365 * k + k / 4) = 365 → k % 4 = 3 ∧ k ≠ 99) := by
  -- `q` leap days have passed, by a count that may be one ahead of the right one, `a`.
  obtain ⟨q, hq, hq'⟩ : ∃ q : Int, 1460 * q ≤ r + 24 * c ∧ r + 24 * c < 1460 * (q + 1) :=
    ⟨(r + 24 * c) / 1460, by omega, by omega⟩
  have hquotient : (r + 24 * c) / 1460 = q := by omega
  rw [hquotient] at hk
  obtain ⟨s, hs, hs', hrest⟩ : ∃ s : Int, 0 ≤ s ∧ s < 365 ∧ r - q = 365 * k + s :=
    ⟨(r - q) % 365, by omega, by omega, by omega⟩
  obtain ⟨a, b, hb, hb', hfour⟩ : ∃ a b : Int, 0 ≤ b ∧ b < 4 ∧ k = 4 * a + b :=
    ⟨k / 4, k % 4, by omega, by omega, by omega⟩
  have hleap : k / 4 = a := by omega
  have hahead : q = a ∨ q = a + 1 := by omega
  rw [hleap]
  rcases hahead with h | h <;> omega

/-- **A day of a cycle** of four hundred years: its year, and how far into the year it is. -/
theorem cut_cycle {day year : Int} (hday : 0 ≤ day ∧ day < 146097)
    (hyear : year = (day - day / 1460 + day / 36524 - day / 146096) / 365) :
    (0 ≤ year ∧ year < 400) ∧
      (0 ≤ day - (365 * year + year / 4 - year / 100) ∧
        day - (365 * year + year / 4 - year / 100) ≤ 365) ∧
      (day - (365 * year + year / 4 - year / 100) = 365 → isLeap (year + 1) = true) := by
  by_cases hlast : day = 146096
  · subst hlast
    subst hyear
    decide
  · obtain ⟨c, r, hc, hr, hsum⟩ : ∃ c r : Int, (0 ≤ c ∧ c ≤ 3) ∧ (0 ≤ r ∧ r < 36524) ∧
        day = 36524 * c + r := ⟨day / 36524, day % 36524, by omega, by omega, by omega⟩
    obtain ⟨hk, hrest, hleap⟩ := cut_century hc hr rfl
    generalize hkdef : (r - (r + 24 * c) / 1460) / 365 = k at hk hrest hleap
    have hyear' : year = 100 * c + k := by omega
    have hfour : year / 4 = 25 * c + k / 4 := by omega
    have hhundred : year / 100 = c := by omega
    have hsame : day - (365 * year + year / 4 - year / 100) = r - (365 * k + k / 4) := by omega
    rw [hsame]
    refine ⟨by omega, hrest, fun hfull => ?_⟩
    obtain ⟨hmod, hne⟩ := hleap hfull
    have h4 : (year + 1) % 4 = 0 := by omega
    have h100 : (year + 1) % 100 ≠ 0 := by omega
    simp [isLeap, h4, h100]

/-- Leap years come again every four hundred years. -/
theorem isLeap_add (year era : Int) : isLeap (year + 400 * era) = isLeap year := by
  have h4 : (year + 400 * era) % 4 = year % 4 := by omega
  have h100 : (year + 400 * era) % 100 = year % 100 := by omega
  have h400 : (year + 400 * era) % 400 = year % 400 := by omega
  simp only [isLeap, h4, h100, h400]

/-- A cycle of four hundred years has the same number of days wherever it begins. -/
theorem daysBefore_add (year era : Int) :
    daysBefore (year + 400 * era) = daysBefore year + 146097 * era := by
  have h4 : (year + 400 * era) / 4 = year / 4 + 100 * era := by omega
  have h100 : (year + 400 * era) / 100 = year / 100 + 4 * era := by omega
  have h400 : (year + 400 * era) / 400 = year / 400 + era := by omega
  simp only [daysBefore, h4, h100, h400]
  omega

/-- **Every day is a day of a year**, and its date is that of this day of the year. -/
theorem exists_cut (days : Int) :
    ∃ year dayOfYear : Int, days + 719468 = daysBefore year + dayOfYear ∧
      (0 ≤ dayOfYear ∧ dayOfYear ≤ 365) ∧ (dayOfYear = 365 → isLeap (year + 1) = true) ∧
      dateOf days = dateIn year dayOfYear := by
  obtain ⟨era, day, hday, hsum⟩ : ∃ era day : Int, (0 ≤ day ∧ day < 146097) ∧
      days + 719468 = 146097 * era + day :=
    ⟨(days + 719468) / 146097, (days + 719468) % 146097, by omega, by omega⟩
  have hera : (days + 719468) / 146097 = era := by omega
  have hmod : (days + 719468) % 146097 = day := by omega
  obtain ⟨hyear, hrest, hleap⟩ := cut_cycle hday rfl
  generalize hydef : (day - day / 1460 + day / 36524 - day / 146096) / 365 = y at hyear hrest hleap
  refine ⟨y + 400 * era, day - (365 * y + y / 4 - y / 100), ?_, hrest, ?_, ?_⟩
  · have hfirst : y / 400 = 0 := by omega
    rw [daysBefore_add, daysBefore, hfirst]
    omega
  · intro hfull
    rw [show y + 400 * era + 1 = y + 1 + 400 * era by omega, isLeap_add]
    exact hleap hfull
  · simp only [dateOf, dateIn, hera, hmod, hydef, Int.mul_comm era 400]

/-- The months of a year that begins in March are counted from 0, and a month has its days. -/
theorem cut_year {day m : Int} (hday : 0 ≤ day ∧ day ≤ 365) (hm : m = (5 * day + 2) / 153) :
    (0 ≤ m ∧ m ≤ 11) ∧ (153 * m + 2) / 5 ≤ day ∧ day < (153 * (m + 1) + 2) / 5 := by
  omega

/-- The number of a month in a year that begins in January. -/
theorem exists_month {m : Int} (hm : 0 ≤ m ∧ m ≤ 11) :
    ∃ month : Nat, (if m < 10 then m + 3 else m - 9) = (month : Int) ∧
      (1 ≤ month ∧ month ≤ 12) ∧ m = ((month : Int) + 9) % 12 := by
  refine ⟨(if m < 10 then m + 3 else m - 9).toNat, ?_⟩
  split <;> omega

/-- Counting the days up to a date gives the day that has this date. -/
theorem dayOf_dateIn {year day : Int} (hday : 0 ≤ day ∧ day ≤ 365) :
    dayOf (dateIn year day).1 (dateIn year day).2.1 (dateIn year day).2.2 =
      daysBefore year + day - 719468 := by
  obtain ⟨hm, hlow, -⟩ := cut_year hday rfl
  obtain ⟨month, hmonth, -, hcount⟩ := exists_month hm
  have hd : ((day - (153 * ((5 * day + 2) / 153) + 2) / 5 + 1).toNat : Int) =
      day - (153 * ((5 * day + 2) / 153) + 2) / 5 + 1 := Int.toNat_of_nonneg (by omega)
  simp only [dateIn, dayOf, hmonth, Int.toNat_natCast, ← hcount, hd]
  unfold daysBefore
  by_cases hearly : month ≤ 2
  · have hearly' : (month : Int) ≤ 2 := by omega
    rw [if_pos hearly, if_pos hearly']
    omega
  · have hearly' : ¬(month : Int) ≤ 2 := by omega
    rw [if_neg hearly, if_neg hearly']
    omega

/-- **There is such a date**, if the last day of a year is only counted in a leap year. -/
theorem isDate_dateIn {year day : Int} (hday : 0 ≤ day ∧ day ≤ 365)
    (hleap : day = 365 → isLeap (year + 1) = true) :
    isDate (dateIn year day).1 (dateIn year day).2.1 (dateIn year day).2.2 = true := by
  obtain ⟨hm, hlow, hhigh⟩ := cut_year hday rfl
  simp only [dateIn]
  generalize (5 * day + 2) / 153 = m at hm hlow hhigh ⊢
  obtain ⟨hzero, heleven⟩ := hm
  have hfirst : 1 ≤ (day - (153 * m + 2) / 5 + 1).toNat := by omega
  simp only [isDate, decide_eq_true hfirst, Bool.true_and, decide_eq_true_eq]
  by_cases hlast : m = 11
  · -- The last month is February, whose length depends on the year.
    subst hlast
    cases hyear : isLeap (year + 1) with
    | true => simp [monthLength, hyear]; omega
    | false =>
        have hshort : day ≠ 365 := fun hfull => by simp [hleap hfull] at hyear
        simp [monthLength, hyear]
        omega
  · interval_cases m <;> simp [monthLength] <;> omega

/-- **The date of a day** is one, and counting the days up to it gives the day back. -/
theorem dayOf_dateOf (days : Int) :
    isDate (dateOf days).1 (dateOf days).2.1 (dateOf days).2.2 = true ∧
      dayOf (dateOf days).1 (dateOf days).2.1 (dateOf days).2.2 = days := by
  obtain ⟨year, day, hsum, hday, hleap, hdate⟩ := exists_cut days
  rw [hdate]
  refine ⟨isDate_dateIn hday hleap, ?_⟩
  rw [dayOf_dateIn hday]
  omega

/-- The months of a date are numbered to twelve, and its days to thirty-one. -/
theorem isDate_le {year : Int} {month day : Nat} (h : isDate year month day = true) :
    (1 ≤ month ∧ month ≤ 12) ∧ 1 ≤ day ∧ day ≤ 31 := by
  obtain ⟨hfirst, hlast⟩ : 1 ≤ day ∧ day ≤ monthLength year month := by simpa [isDate] using h
  unfold monthLength at hlast
  split at hlast
  · have : (if isLeap year = true then 29 else 28) ≤ 29 := by split <;> decide
    omega
  · split at hlast
    · next hmonth =>
      simp only [List.contains_cons, List.contains_nil, Bool.or_false, Bool.or_eq_true,
        beq_iff_eq] at hmonth
      omega
    · split at hlast <;> omega

/-- A year has three hundred and sixty-five days or more. -/
theorem daysBefore_lt {a b : Int} (h : a < b) : daysBefore a + 365 ≤ daysBefore b := by
  have hfours : a / 4 - a / 100 ≤ b / 4 - b / 100 := by omega
  have hcycles : a / 400 ≤ b / 400 := by omega
  unfold daysBefore
  omega

theorem daysBefore_le {a b : Int} (h : a ≤ b) : daysBefore a ≤ daysBefore b := by
  rcases Int.lt_or_eq_of_le h with hlt | rfl
  · have hyear := daysBefore_lt hlt
    omega
  · exact Int.le_refl _

/-- The first of January counted from March of the year before. -/
theorem dayOf_january (year : Int) : dayOf year 1 1 = daysBefore (year - 1) + 306 - 719468 := by
  simp only [dayOf, daysBefore]
  omega

/-- **The year of a day** is that in which the day lies. -/
theorem year_dateOf {first after days : Int} (hfirst : dayOf first 1 1 ≤ days)
    (hafter : days < dayOf after 1 1) :
    first ≤ (dateOf days).1 ∧ (dateOf days).1 < after := by
  obtain ⟨year, day, hsum, hday, -, hdate⟩ := exists_cut days
  obtain ⟨hm, hlow, hhigh⟩ := cut_year hday rfl
  rw [dayOf_january] at hfirst hafter
  rw [hdate]
  simp only [dateIn]
  generalize (5 * day + 2) / 153 = m at hm hlow hhigh ⊢
  by_cases hspring : m < 10
  · -- Before January the number of the year is that of its March.
    have hlate : ¬m + 3 ≤ 2 := by omega
    simp only [if_pos hspring, if_neg hlate]
    constructor
    · by_contra hyear
      have hle := @daysBefore_le year (first - 1) (by omega)
      omega
    · by_contra hyear
      have hlt := @daysBefore_lt (after - 1) year (by omega)
      omega
  · have hearly : m - 9 ≤ 2 := by omega
    simp only [if_neg hspring, if_pos hearly]
    constructor
    · by_contra hyear
      have hlt := @daysBefore_lt year (first - 1) (by omega)
      omega
    · by_contra hyear
      have hle := @daysBefore_le (after - 1) year (by omega)
      omega

end SignOn.Calendar
