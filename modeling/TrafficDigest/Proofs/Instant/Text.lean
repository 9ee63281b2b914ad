import TrafficDigest.Instant.Reader
import TrafficDigest.Proofs.Calendar
import TrafficDigest.Proofs.Instant.Millis
import TrafficDigest.Proofs.Text.Decimal

/-!
# Instants survive their text up to the millisecond

An instant that is written with three digits of its fraction and read again comes back cut to whole
milliseconds (`read?_rfc3339`).  The text is read part by part from the front, so for each part
there is a lemma that it is read back and that the rest is left.

Instants *on the calendar* are those that can be written so: they lie in the years that the calendar
reaches, and a leap second comes at the end of a minute.  Both bounds of a half are on the calendar
if the bounds of the whole are (`OnCalendar.midpoint`).
-/

namespace TrafficDigest.Instant

open Text

/-! ## Instants on the calendar -/

/-- **The instant can be written:** it lies in the years that the calendar reaches, and a leap
second ends a minute. -/
def OnCalendar (t : Instant) : Prop :=
  InRange t.second ∧ (t.IsLeap → t.secondOfDay % 60 = 59)

instance (t : Instant) : Decidable t.OnCalendar := by unfold OnCalendar; infer_instance

lemma onCalendar_midnight {d : Date} (h : d.Exists)
    (hyear : Date.minYear ≤ d.year ∧ d.year ≤ Date.maxYear) : (midnight d).OnCalendar := by
  have hday : (midnight d).second / secondsPerDay = d.dayNumber := by
    simp only [midnight, secondsPerDay]
    omega
  refine ⟨?_, fun hleap => absurd hleap (by decide : ¬nanosPerSecond ≤ 0)⟩
  rw [InRange, hday]
  exact (Date.inYears_iff h).mp hyear

/-- Only a sum that stays in the leap second ends in one. -/
lemma second_of_isLeap_shift {t : Instant} {n : Int} (h : (t.shift n).IsLeap) :
    t.IsLeap ∧ (t.shift n).second = t.second := by
  unfold shift at *
  split at h
  · rename_i hleap
    refine ⟨hleap, ?_⟩
    split at h
    · rename_i hstay
      rw [if_pos hleap, dif_pos hstay]
    · split at h <;> exact absurd h (not_isLeap_ofNanos _)
  · exact absurd h (not_isLeap_ofNanos _)

/-- The second of an earlier instant is not later. -/
lemma second_le_of_lt {a b : Instant} (h : a < b) : a.second ≤ b.second := by
  have ha := a.nano_lt
  have hb := b.nano_lt
  rw [lt_iff] at h
  simp only [rank, nanosPerSecond] at h ha hb
  omega

/-- **A midpoint between instants on the calendar is on the calendar.** -/
lemma OnCalendar.midpoint {a b : Instant} (ha : a.OnCalendar) (hb : b.OnCalendar)
    (hlow : a < a.midpoint b) (hhigh : a.midpoint b < b) : (a.midpoint b).OnCalendar := by
  constructor
  · have hle := second_le_of_lt hlow
    have hge := second_le_of_lt hhigh
    have hlower := ha.1.1
    have hupper := hb.1.2
    unfold InRange
    simp only [secondsPerDay] at *
    omega
  · intro hleap
    obtain ⟨hleap', hsecond⟩ := second_of_isLeap_shift hleap
    unfold secondOfDay at *
    rw [show (a.midpoint b).second = a.second from hsecond]
    exact ha.2 hleap'

/-! ## Reading the parts -/

lemma dropWhile_isBlank_cons {c : Char} (h : isBlank c = false) (rest : List Char) :
    (c :: rest).dropWhile isBlank = c :: rest :=
  List.dropWhile_cons_of_neg (by simp [h])

lemma readMark_cons {c : Char} (h : isBlank c = false) (rest : List Char) :
    readMark c ((c :: rest).dropWhile isBlank) = some rest := by
  rw [dropWhile_isBlank_cons h, readMark, if_pos rfl]

/-- A field is read back from two digits. -/
lemma readField_padZeros {n : Nat} (h : n < 100) (rest : List Char) :
    readField ((padZeros 2 n).toList ++ rest) = some (n, rest) := by
  have hlength : (padZeros 2 n).toList.length = 2 := length_padZeros (by decide) h
  rw [readField, dropWhile_isBlank_padZeros]
  exact takeNumber_padZeros (by omega) (.inl hlength)

lemma readYear_of_isDigit {c : Char} (h : c.isDigit = true) (cs : List Char) :
    readYear (c :: cs) = (takeNumber 4 (c :: cs)).map fun (n, rest) => ((n : Int), rest) := by
  unfold readYear
  rw [dropWhile_isBlank_cons (isBlank_of_isDigit h)]
  split
  · rename_i heq
    cases heq
    cases h
  · rename_i heq
    cases heq
    cases h
  · rfl

lemma readYear_minus (cs : List Char) :
    readYear ('-' :: cs) = (takeNumber cs.length cs).map fun (n, rest) => (-(n : Int), rest) := by
  rw [readYear, dropWhile_isBlank_cons (by rfl)]
  rfl

lemma readYear_plus (cs : List Char) :
    readYear ('+' :: cs) = (takeNumber cs.length cs).map fun (n, rest) => ((n : Int), rest) := by
  rw [readYear, dropWhile_isBlank_cons (by rfl)]
  rfl

/-- A year of four digits is read back. -/
lemma readYear_padZeros {year : Nat} (h : year < 10000) (rest : List Char) :
    readYear ((padZeros 4 year).toList ++ rest) = some ((year : Int), rest) := by
  have hlength : (padZeros 4 year).toList.length = 4 := length_padZeros (by decide) h
  have hnumber := @takeNumber_padZeros 4 4 year rest (by omega) (.inl hlength)
  cases hdigits : (padZeros 4 year).toList with
  | nil => exact absurd hdigits (padZeros_ne_nil _ _)
  | cons c cs =>
      have hmem : c ∈ (padZeros 4 year).toList := by
        rw [hdigits]
        exact List.mem_cons_self ..
      rw [hdigits, List.cons_append] at hnumber
      rw [List.cons_append, readYear_of_isDigit (isDigit_padZeros hmem), hnumber]
      rfl

/-- **A year is read back** if something other than a digit follows. -/
lemma readYear_yearText (year : Int) {rest : List Char}
    (hrest : ∀ c ∈ rest.head?, c.isDigit = false) :
    readYear ((yearText year).toList ++ rest) = some (year, rest) := by
  have hsigned : takeNumber ((padZeros 4 year.natAbs).toList ++ rest).length
      ((padZeros 4 year.natAbs).toList ++ rest) = some (year.natAbs, rest) :=
    takeNumber_padZeros (by simp) (.inr hrest)
  by_cases hplain : 0 ≤ year ∧ year ≤ 9999
  · have hyear : (year.toNat : Int) = year := Int.toNat_of_nonneg hplain.1
    rw [yearText, if_pos hplain, readYear_padZeros (by omega), hyear]
  rw [yearText, if_neg hplain]
  by_cases hneg : year < 0
  · have hyear : -(year.natAbs : Int) = year := by omega
    have hsign : ("-" : String).toList = ['-'] := rfl
    rw [if_pos hneg, String.toList_append, hsign, List.append_assoc, List.singleton_append,
      readYear_minus, hsigned, Option.map_some]
    simp only [hyear]
  · have hyear : (year.natAbs : Int) = year := by omega
    have hsign : ("+" : String).toList = ['+'] := rfl
    rw [if_neg hneg, String.toList_append, hsign, List.append_assoc, List.singleton_append,
      readYear_plus, hsigned, Option.map_some]
    simp only [hyear]

/-- **A date of the years that instants reach is read back.** -/
lemma readDate_dateText {d : Date} (h : d.Exists)
    (hyear : Date.minYear ≤ d.year ∧ d.year ≤ Date.maxYear) (rest : List Char) :
    readDate ((dateText d).toList ++ rest) = some (d, rest) := by
  have hday : d.day < 100 := by
    have hlength := Date.daysInMonth_le d.year d.month
    have hlast := h.2.2.2
    omega
  have hmonth : d.month < 100 := Nat.lt_of_le_of_lt h.2.1 (by decide)
  have hhyphen : ("-" : String).toList = ['-'] := rfl
  have hdate : Date.ofFields? d.year d.month d.day = some d := by
    simp only [Date.ofFields?]
    exact if_pos ⟨hyear.1, hyear.2, h⟩
  have hmark := readMark_cons (show isBlank '-' = false by rfl)
  simp only [dateText, String.toList_append, hhyphen, List.append_assoc, List.cons_append,
    List.nil_append]
  rw [readDate, readYear_yearText d.year (by simp)]
  simp only [Option.bind_eq_bind, Option.bind_some, hmark, readField_padZeros hmonth,
    readField_padZeros hday, hdate]
  rfl

/-- The digits of a fraction are read back without what they leave out. -/
lemma readFraction_millis {n : Nat} (h : n < nanosPerSecond) {rest : List Char}
    (hrest : ∀ c ∈ rest.head?, c.isDigit = false) :
    readFraction ((FractionDigits.millis.write n).toList ++ rest)
      = some (n / nanosPerMilli * nanosPerMilli, rest) := by
  have hmillis : n / nanosPerMilli < 10 ^ 3 := by
    simp only [nanosPerMilli, nanosPerSecond] at *
    omega
  have hlength : (padZeros 3 (n / 1000000)).toList.length = 3 :=
    length_padZeros (by decide) hmillis
  have hdone : rest.dropWhile Char.isDigit = rest := by
    cases rest with
    | nil => rfl
    | cons c cs => exact List.dropWhile_cons_of_neg (by simp [hrest c (by simp)])
  have hpoint : ("." : String).toList = ['.'] := rfl
  simp only [FractionDigits.write, String.toList_append, hpoint, List.cons_append,
    List.nil_append, readFraction]
  rw [takeNumber_padZeros (by omega) (.inr hrest)]
  simp only [Option.bind_eq_bind, Option.bind_some, List.length_append, hlength, hdone,
    Nat.add_sub_cancel_right]
  rfl

/-- The nanoseconds of a cut instant, with those of the second before a leap second apart. -/
lemma nano_floorMillis (t : Instant) :
    t.floorMillis.nano = (if t.IsLeap then nanosPerSecond else 0) +
      t.fraction / nanosPerMilli * nanosPerMilli := by
  have hnano := t.nano_lt
  show t.nano / nanosPerMilli * nanosPerMilli = _
  by_cases hleap : t.IsLeap
  · rw [if_pos hleap]
    simp only [IsLeap, fraction, nanosPerMilli, nanosPerSecond] at *
    omega
  · rw [if_neg hleap]
    simp only [IsLeap, fraction, nanosPerMilli, nanosPerSecond] at *
    omega

/-- **A time of day is read back** up to the millisecond. -/
lemma readClock_clockText {t : Instant} (h : t.IsLeap → t.secondOfDay % 60 = 59)
    {rest : List Char} (hrest : ∀ c ∈ rest.head?, c.isDigit = false) :
    readClock ((t.clockText .millis).toList ++ rest)
      = some ((t.secondOfDay, t.floorMillis.nano), rest) := by
  have hday : t.secondOfDay < 86400 := by
    simp only [secondOfDay, secondsPerDay]
    omega
  have hcolon : (":" : String).toList = [':'] := rfl
  have hmark := readMark_cons (show isBlank ':' = false by rfl)
  have hfraction : t.fraction < nanosPerSecond := Nat.mod_lt _ (by decide)
  simp only [clockText, clock, String.toList_append, hcolon, List.append_assoc,
    List.cons_append, List.nil_append]
  rw [readClock, readField_padZeros (by omega)]
  simp only [Option.bind_eq_bind, Option.bind_some, hmark]
  rw [readField_padZeros (by omega)]
  simp only [Option.bind_some, hmark]
  rw [readField_padZeros (by split <;> omega)]
  simp only [Option.bind_some, readFraction_millis hfraction hrest]
  have hnano := t.nano_lt
  by_cases hleap : t.IsLeap
  · -- the leap second is read as second 60
    have hlast := h hleap
    have hsecond : t.secondOfDay / 3600 * 3600 + t.secondOfDay / 60 % 60 * 60 + 59
        = t.secondOfDay := by omega
    have hcut := t.nano_floorMillis
    rw [if_pos hleap] at hcut
    rw [if_pos hleap, if_pos (by omega), if_pos (by omega), hsecond, ← hcut]
    rfl
  · have hsecond : t.secondOfDay / 3600 * 3600 + t.secondOfDay / 60 % 60 * 60
        + (t.secondOfDay % 60 + 0) = t.secondOfDay := by omega
    have hcut := t.nano_floorMillis
    rw [if_neg hleap, Nat.zero_add] at hcut
    rw [if_neg hleap, if_pos (by omega), if_neg (by omega), hsecond, ← hcut]
    rfl

/-! ## Reading the whole -/

lemma date_spec {t : Instant} (h : t.OnCalendar) :
    t.date.Exists ∧ (Date.minYear ≤ t.date.year ∧ t.date.year ≤ Date.maxYear) ∧
      t.date.dayNumber = t.second / secondsPerDay := by
  obtain ⟨hexists, hnumber⟩ := Date.ofDayNumber_spec (t.second / secondsPerDay)
  refine ⟨hexists, (Date.inYears_iff hexists).mpr ?_, hnumber⟩
  rw [hnumber]
  exact h.1

/-- A text is read part by part; an offset of zero leaves the seconds as they are. -/
lemma read?_of_parts {s : String} {d : Date} {ofDay nano : Nat} {cs₁ cs₂ cs₃ : List Char}
    (hdate : readDate s.toList = some (d, cs₁)) (hseparator : readSeparator cs₁ = some cs₂)
    (hclock : readClock cs₂ = some ((ofDay, nano), cs₃))
    (hoffset : readOffset (cs₃.dropWhile isBlank) = some (0, [])) :
    read? s = ofSecond? (d.dayNumber * secondsPerDay + ofDay) nano := by
  simp only [read?, hdate, hseparator, hclock, hoffset, Option.bind_eq_bind, Option.bind_some,
    List.all_nil, if_true, Int.sub_zero]

/-- **An instant on the calendar survives its text up to the millisecond.** -/
theorem read?_rfc3339 {t : Instant} (h : t.OnCalendar) :
    read? (t.rfc3339 .millis) = some t.floorMillis := by
  obtain ⟨hexists, hyears, hnumber⟩ := date_spec h
  have hseconds : t.date.dayNumber * secondsPerDay + t.secondOfDay = t.second := by
    rw [hnumber]
    simp only [secondOfDay, secondsPerDay]
    omega
  have hinstant : ofSecond? t.second t.floorMillis.nano = some t.floorMillis :=
    dif_pos ⟨t.floorMillis.nano_lt, h.1⟩
  have htext : (t.rfc3339 .millis).toList
      = (dateText t.date).toList ++ 'T' :: ((t.clockText .millis).toList ++ ['Z']) := by
    simp [rfc3339]
  have hdate := readDate_dateText hexists hyears
    ('T' :: ((t.clockText .millis).toList ++ ['Z']))
  rw [← htext] at hdate
  rw [read?_of_parts hdate rfl (readClock_clockText h.2 (by simp)) rfl, hseconds, hinstant]

end TrafficDigest.Instant
