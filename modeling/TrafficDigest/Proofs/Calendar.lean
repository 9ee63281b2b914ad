import Mathlib.Tactic.Lemma
import Mathlib.Tactic.Common
import TrafficDigest.Calendar

/-!
# Day numbers and dates

A count of days is taken apart from the outside in: cycles of 400 years, centuries, leap periods of
four years, years, months.  `yearAndDay_spec` and `monthAndDay_spec` say that each part was taken
out whole, so that what was taken apart adds up again, and `ofDayNumber_spec` puts them together:
every day number has a date, the date exists, and it has that number.

`le_year_iff` says at which day number a year begins.  So the years that instants reach are a range
of day numbers (`inYears_iff`).
-/

namespace TrafficDigest.Date

/-! ## Years -/

/-- The first of January after so many cycles, centuries, leap periods and years. -/
lemma daysBeforeYear_eq {century quad odd : Int} (cycle : Int)
    (hcentury : 0 ≤ century ∧ century ≤ 3) (hquad : 0 ≤ quad ∧ quad ≤ 24)
    (hodd : 0 ≤ odd ∧ odd ≤ 3) :
    daysBeforeYear (400 * cycle + 100 * century + 4 * quad + odd + 1)
      = 146097 * cycle + 36524 * century + 1461 * quad + 365 * odd := by
  simp only [daysBeforeYear]
  omega

/-- The number of days of a year. -/
def daysInYear (year : Int) : Nat := sumOf id (monthLengths (isLeapYear year))

lemma daysInYear_eq (year : Int) : daysInYear year = if isLeapYear year then 366 else 365 := by
  unfold daysInYear
  cases isLeapYear year <;> rfl

/-- The last year of a leap period is a leap year, except at the end of a century that is not the
last of its cycle. -/
lemma isLeapYear_iff {century quad odd : Int} (cycle : Int) (hcentury : 0 ≤ century ∧ century ≤ 3)
    (hquad : 0 ≤ quad ∧ quad ≤ 24) (hodd : 0 ≤ odd ∧ odd ≤ 3) :
    isLeapYear (400 * cycle + 100 * century + 4 * quad + odd + 1) = true ↔
      odd = 3 ∧ (quad = 24 → century = 3) := by
  simp only [isLeapYear, Bool.and_eq_true, Bool.or_eq_true, beq_iff_eq, bne_iff_ne]
  omega

/-- **A count of days is that of the days before its year and the day of the year.** -/
theorem yearAndDay_spec (days : Int) :
    daysBeforeYear (yearAndDay days).1 + (yearAndDay days).2 = days ∧
      (yearAndDay days).2 < daysInYear (yearAndDay days).1 := by
  simp only [yearAndDay]
  generalize hcycle : days / 146097 = cycle
  generalize hinCycle : (days % 146097).toNat = inCycle
  generalize hcentury : min (inCycle / 36524) 3 = century
  generalize hinCentury : inCycle - century * 36524 = inCentury
  generalize hquad : inCentury / 1461 = quad
  generalize hinQuad : inCentury % 1461 = inQuad
  generalize hodd : min (inQuad / 365) 3 = odd
  have hquad24 : quad ≤ 24 := by omega
  have hodd3 : odd ≤ 3 := by omega
  have hcentury3 : century ≤ 3 := by omega
  rw [daysBeforeYear_eq cycle (by omega) (by omega) (by omega), daysInYear_eq]
  refine ⟨by omega, ?_⟩
  have hleap := @isLeapYear_iff century quad odd cycle (by omega) (by omega) (by omega)
  split
  · omega
  · rename_i h
    rw [hleap] at h
    omega

/-! ## Months -/

/-- A day of the year is that of the days before its month and the day of the month. -/
lemma monthAndDay_spec {lengths : List Nat} {dayOfYear : Nat} (month : Nat)
    (h : dayOfYear < sumOf id lengths) :
    ∃ k day, monthAndDay month lengths dayOfYear = (month + k, day + 1) ∧
      k < lengths.length ∧ day < lengths.getD k 0 ∧
      sumOf id (lengths.take k) + day = dayOfYear := by
  induction lengths generalizing month dayOfYear with
  | nil => simp at h
  | cons length rest ih =>
      unfold monthAndDay
      by_cases hfirst : dayOfYear < length
      · exact ⟨0, dayOfYear, by simp [hfirst], by simp, by simpa using hfirst, by simp⟩
      · simp only [sumOf_cons, id] at h
        obtain ⟨k, day, hmonth, hk, hday, hsum⟩ :=
          ih (month + 1) (show dayOfYear - length < sumOf id rest by omega)
        refine ⟨k + 1, day, ?_, by simpa using hk, by simpa using hday, ?_⟩
        · rw [if_neg hfirst, hmonth, Nat.add_right_comm, Nat.add_assoc]
        · simp only [List.take_succ_cons, sumOf_cons, id]
          omega

lemma daysInMonth_le (year : Int) (month : Nat) : daysInMonth year month ≤ 31 := by
  cases month with
  | zero => exact Nat.zero_le _
  | succ m =>
      have hlengths : ∀ leap, ∀ n ∈ monthLengths leap, n ≤ 31 := by decide
      show (monthLengths (isLeapYear year)).getD m 0 ≤ 31
      rw [List.getD_eq_getElem?_getD]
      cases hm : (monthLengths (isLeapYear year))[m]? with
      | none => simp
      | some n => exact hlengths _ n (List.mem_of_getElem? hm)

/-! ## Dates -/

/-- **Every day number has a date that exists and has that number.** -/
theorem ofDayNumber_spec (n : Int) : (ofDayNumber n).Exists ∧ (ofDayNumber n).dayNumber = n := by
  obtain ⟨hyear, hday⟩ := yearAndDay_spec (n + epochDays)
  unfold ofDayNumber
  rcases hsplit : yearAndDay (n + epochDays) with ⟨year, dayOfYear⟩
  rw [hsplit] at hyear hday
  obtain ⟨k, day, hmonth, hk, hlength, hsum⟩ := monthAndDay_spec 1 hday
  have htwelve : k < 12 := hk
  simp only [hmonth, Exists, dayNumber] at *
  refine ⟨⟨by omega, by omega, by omega, ?_⟩, ?_⟩
  · rw [Nat.add_comm 1 k]
    exact hlength
  · simp only [daysBeforeMonth, Nat.add_sub_cancel_left]
    omega

/-! ## Dates of a year -/

lemma daysBeforeYear_succ (year : Int) :
    daysBeforeYear (year + 1) = daysBeforeYear year + daysInYear year := by
  have hleap : isLeapYear year = true ↔ year % 4 = 0 ∧ (year % 100 ≠ 0 ∨ year % 400 = 0) := by
    simp [isLeapYear]
  have hfour : (year - 1) / 4 = year / 4 - if year % 4 = 0 then 1 else 0 := by omega
  have hhundred : (year - 1) / 100 = year / 100 - if year % 100 = 0 then 1 else 0 := by omega
  have hcycle : (year - 1) / 400 = year / 400 - if year % 400 = 0 then 1 else 0 := by omega
  rw [daysInYear_eq]
  simp only [daysBeforeYear, Int.add_sub_cancel, hfour, hhundred, hcycle]
  by_cases hlong : isLeapYear year = true
  · rw [if_pos hlong]
    rw [hleap] at hlong
    omega
  · rw [if_neg hlong]
    rw [hleap] at hlong
    omega

lemma daysBeforeYear_mono {year year' : Int} (h : year ≤ year') :
    daysBeforeYear year ≤ daysBeforeYear year' := by
  simp only [daysBeforeYear]
  omega

lemma sumOf_take_add_getD_le (lengths : List Nat) (k : Nat) :
    sumOf id (lengths.take k) + lengths.getD k 0 ≤ sumOf id lengths := by
  induction lengths generalizing k with
  | nil => simp
  | cons length rest ih =>
      cases k with
      | zero => simp
      | succ k =>
          have hrest := ih k
          simp only [List.take_succ_cons, List.getD_cons_succ, sumOf_cons, id]
          omega

/-- The days of a year come no earlier than its first day, and before the first of the next. -/
lemma dayNumber_bounds {d : Date} (h : d.Exists) :
    daysBeforeYear d.year - epochDays ≤ d.dayNumber ∧
      d.dayNumber < daysBeforeYear (d.year + 1) - epochDays := by
  obtain ⟨year, month, day⟩ := d
  obtain ⟨hmonth, -, hday, hlength⟩ := h
  obtain ⟨k, rfl⟩ := Nat.exists_eq_add_of_le' hmonth
  have hsum := sumOf_take_add_getD_le (monthLengths (isLeapYear year)) k
  rw [daysBeforeYear_succ]
  simp only [daysInMonth, dayNumber, daysBeforeMonth, daysInYear, Nat.add_sub_cancel] at *
  omega

/-- **Day numbers tell whether a year has begun.** -/
theorem le_year_iff {d : Date} (h : d.Exists) (year : Int) :
    year ≤ d.year ↔ daysBeforeYear year - epochDays ≤ d.dayNumber := by
  obtain ⟨hfirst, hnext⟩ := dayNumber_bounds h
  constructor
  · intro hle
    have hbefore := daysBeforeYear_mono hle
    omega
  · intro hle
    by_contra hlater
    have hbefore := daysBeforeYear_mono (show d.year + 1 ≤ year by omega)
    omega

/-- The years that instants reach are those whose day numbers lie between those of their ends. -/
lemma inYears_iff {d : Date} (h : d.Exists) :
    (minYear ≤ d.year ∧ d.year ≤ maxYear) ↔
      dayNumber ⟨minYear, 1, 1⟩ ≤ d.dayNumber ∧ d.dayNumber ≤ dayNumber ⟨maxYear, 12, 31⟩ := by
  have hmin := le_year_iff h minYear
  have hmax := le_year_iff h (maxYear + 1)
  have hfirst : dayNumber ⟨minYear, 1, 1⟩ = daysBeforeYear minYear - epochDays := by decide
  have hlast : dayNumber ⟨maxYear, 12, 31⟩ = daysBeforeYear (maxYear + 1) - epochDays - 1 := by
    decide
  omega

/-- A date made of its fields exists and lies in the years that instants reach. -/
lemma of_ofFields? {year : Int} {month day : Nat} {d : Date}
    (h : ofFields? year month day = some d) :
    d.Exists ∧ minYear ≤ d.year ∧ d.year ≤ maxYear := by
  simp only [ofFields?] at h
  split at h
  · rename_i hd
    cases h
    exact ⟨hd.2.2, hd.1, hd.2.1⟩
  · cases h

end TrafficDigest.Date
