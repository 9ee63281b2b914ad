import TrafficDigest.Proofs.Calendar

/-!
# Day numbers follow the calendar

Dates come one after the other by year, month and day (`Date.Before`), and each has a next one
(`Date.next`).  Day numbers grow in that order (`dayNumber_lt_iff`) and by one from a day to the
next (`dayNumber_next`), so that a date is known from its number (`ofDayNumber_dayNumber`).
-/

namespace TrafficDigest.Date

/-- **The order of the calendar.** -/
def Before (d d' : Date) : Prop :=
  d.year < d'.year ∨
    d.year = d'.year ∧ (d.month < d'.month ∨ d.month = d'.month ∧ d.day < d'.day)

/-- **The next day:** of the same month, or else the first of the next month, or else the first of
the next year. -/
def next (d : Date) : Date :=
  if d.day < daysInMonth d.year d.month then { d with day := d.day + 1 }
  else if d.month < 12 then ⟨d.year, d.month + 1, 1⟩
  else ⟨d.year + 1, 1, 1⟩

/-! ## Months -/

lemma daysBeforeMonth_succ (leap : Bool) (k : Nat) :
    daysBeforeMonth leap (k + 1 + 1)
      = daysBeforeMonth leap (k + 1) + (monthLengths leap).getD k 0 := by
  simp only [daysBeforeMonth, Nat.add_sub_cancel]
  generalize monthLengths leap = lengths
  induction lengths generalizing k with
  | nil => simp
  | cons length rest ih =>
      cases k with
      | zero => simp
      | succ k =>
          have hrest := ih k
          simp only [List.take_succ_cons, List.getD_cons_succ, sumOf_cons, id]
          omega

/-- The days up to the end of a month are no more than those before a later one. -/
lemma daysBeforeMonth_mono (leap : Bool) {k k' : Nat} (h : k < k') :
    daysBeforeMonth leap (k + 1) + (monthLengths leap).getD k 0
      ≤ daysBeforeMonth leap (k' + 1) := by
  induction k' with
  | zero => omega
  | succ k' ih =>
      have hnext := daysBeforeMonth_succ leap k'
      rcases Nat.lt_succ_iff_lt_or_eq.mp h with hlt | rfl
      · have hearlier := ih hlt
        omega
      · omega

/-! ## The order of days -/

lemma Before.dayNumber_lt {d d' : Date} (hd : d.Exists) (hd' : d'.Exists) (h : d.Before d') :
    d.dayNumber < d'.dayNumber := by
  rcases h with hyear | ⟨hyear, hlater⟩
  · have hbounds := dayNumber_bounds hd
    have hbegun := (le_year_iff hd' (d.year + 1)).mp hyear
    omega
  · obtain ⟨year, month, day⟩ := d
    obtain ⟨year', month', day'⟩ := d'
    obtain ⟨hmonth, -, hday, hlength⟩ := hd
    obtain ⟨hmonth', -, hday', -⟩ := hd'
    obtain ⟨k, rfl⟩ := Nat.exists_eq_add_of_le' hmonth
    obtain ⟨k', rfl⟩ := Nat.exists_eq_add_of_le' hmonth'
    obtain rfl : year = year' := hyear
    simp only [dayNumber, daysInMonth] at *
    rcases hlater with hmonths | ⟨hmonths, hdays⟩
    · have hmono := daysBeforeMonth_mono (isLeapYear year) (show k < k' by omega)
      omega
    · obtain rfl : k = k' := by omega
      omega

lemma before_trichotomy (d d' : Date) : d.Before d' ∨ d = d' ∨ d'.Before d := by
  obtain ⟨year, month, day⟩ := d
  obtain ⟨year', month', day'⟩ := d'
  simp only [Before, mk.injEq]
  omega

/-- **Day numbers grow in the order of the calendar.** -/
theorem dayNumber_lt_iff {d d' : Date} (hd : d.Exists) (hd' : d'.Exists) :
    d.dayNumber < d'.dayNumber ↔ d.Before d' := by
  refine ⟨fun h => ?_, Before.dayNumber_lt hd hd'⟩
  rcases before_trichotomy d d' with hbefore | rfl | hafter
  · exact hbefore
  · exact absurd h (Int.lt_irrefl _)
  · exact absurd (Before.dayNumber_lt hd' hd hafter) (Int.not_lt.mpr (Int.le_of_lt h))

/-- Different days have different numbers. -/
lemma dayNumber_inj {d d' : Date} (hd : d.Exists) (hd' : d'.Exists) :
    d.dayNumber = d'.dayNumber ↔ d = d' := by
  refine ⟨fun h => ?_, fun h => h ▸ rfl⟩
  rcases before_trichotomy d d' with hbefore | heq | hafter
  · exact absurd h (Int.ne_of_lt (Before.dayNumber_lt hd hd' hbefore))
  · exact heq
  · exact absurd h.symm (Int.ne_of_lt (Before.dayNumber_lt hd' hd hafter))

/-- **A day is known from its number.** -/
theorem ofDayNumber_dayNumber {d : Date} (h : d.Exists) : ofDayNumber d.dayNumber = d := by
  obtain ⟨hexists, hnumber⟩ := ofDayNumber_spec d.dayNumber
  exact (dayNumber_inj hexists h).mp hnumber

/-! ## The next day -/

lemma daysInMonth_pos (year : Int) {month : Nat} (h : 1 ≤ month ∧ month ≤ 12) :
    1 ≤ daysInMonth year month := by
  have hlengths : ∀ leap, ∀ k < 12, 1 ≤ (monthLengths leap).getD k 0 := by decide
  obtain ⟨k, rfl⟩ := Nat.exists_eq_add_of_le' h.1
  exact hlengths _ k (by omega)

lemma exists_next {d : Date} (h : d.Exists) : d.next.Exists := by
  obtain ⟨hmonth, htwelve, hday, hlength⟩ := h
  unfold next
  split_ifs with hsame hmonths
  · exact ⟨hmonth, htwelve, Nat.le_add_left 1 d.day, hsame⟩
  · have hnext : 1 ≤ d.month + 1 ∧ d.month + 1 ≤ 12 := by omega
    exact ⟨hnext.1, hnext.2, Nat.le_refl 1, daysInMonth_pos d.year hnext⟩
  · have hfirst : 1 ≤ 1 ∧ 1 ≤ 12 := by decide
    exact ⟨hfirst.1, hfirst.2, Nat.le_refl 1, daysInMonth_pos (d.year + 1) hfirst⟩

/-- **The next day has the next number.** -/
theorem dayNumber_next {d : Date} (h : d.Exists) : d.next.dayNumber = d.dayNumber + 1 := by
  obtain ⟨year, month, day⟩ := d
  obtain ⟨hmonth, htwelve, hday, hlength⟩ := h
  obtain ⟨k, rfl⟩ := Nat.exists_eq_add_of_le' hmonth
  unfold next
  split_ifs with hsame hmonths <;> simp only [daysInMonth, dayNumber] at *
  · omega
  · have hnext := daysBeforeMonth_succ (isLeapYear year) k
    omega
  · -- the last day of December is the last of its year
    obtain rfl : k = 11 := by omega
    have hyear := daysBeforeYear_succ year
    have hfirst : ∀ leap, daysBeforeMonth leap 1 = 0 := by decide
    have hlast : ∀ leap, daysBeforeMonth leap (11 + 1) + (monthLengths leap).getD 11 0
        = sumOf id (monthLengths leap) := by decide
    have hfirst' := hfirst (isLeapYear (year + 1))
    have hlast' := hlast (isLeapYear year)
    simp only [daysInYear] at hyear
    omega

end TrafficDigest.Date
