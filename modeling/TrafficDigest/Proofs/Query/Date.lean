import TrafficDigest.Proofs.Calendar.Order
import TrafficDigest.Proofs.Instant.Millis
import TrafficDigest.Proofs.Text.Decimal
import TrafficDigest.Query.Intent

/-!
# Dates of an intent

A date is written as four digits, two and two, with hyphens between them (`Date.WrittenAs`).
`parseDate_exact` says that exactly the texts of days on the calendar are accepted, with blanks
around them or without, and that their instants are ordered as the texts are and a day apart from
one day to the next.

The fields of a date have a fixed width, so texts are compared field by field, and a field is
compared as its number is; this is the order of the calendar, which day numbers follow.
-/

namespace TrafficDigest

open Text (digitsValue padZeros trim)

/-! ## Dates as they are written -/

/-- **The date is written so:** its year in four digits, its month in two and its day in two, with
hyphens between them. -/
def Date.WrittenAs (d : Date) (cs : List Char) : Prop :=
  ∃ year month day : List Char, cs = year ++ '-' :: (month ++ '-' :: day) ∧
    (year.length = 4 ∧ month.length = 2 ∧ day.length = 2) ∧
    (∀ c ∈ year ++ month ++ day, c.isDigit = true) ∧
    d = ⟨Nat.ofDigitChars 10 year 0, Nat.ofDigitChars 10 month 0, Nat.ofDigitChars 10 day 0⟩

lemma readDigits_of_length {cs : List Char} {n : Nat} (hlength : cs.length = n + 1)
    (h : ∀ c ∈ cs, c.isDigit = true) : Text.readDigits cs = some (Nat.ofDigitChars 10 cs 0) :=
  Text.readDigits_eq_some_iff.mpr ⟨List.ne_nil_of_length_eq_add_one hlength, h, rfl⟩

/-- The fields of a text of that form are read one by one. -/
lemma readDay_fields {year month day : List Char} (hyear : year.length = 4)
    (hmonth : month.length = 2) (hday : day.length = 2) :
    readDay (year ++ '-' :: (month ++ '-' :: day)) = (do
      let y ← Text.readDigits year
      let m ← Text.readDigits month
      let d ← Text.readDigits day
      Date.ofFields? y m d) := by
  match year, month, day, hyear, hmonth, hday with
  | [_, _, _, _], [_, _], [_, _], _, _, _ => rfl

/-- **What is read is a day of the calendar that is written so.** -/
theorem readDay_eq_some_iff {cs : List Char} {d : Date} :
    readDay cs = some d ↔ d.WrittenAs cs ∧ d.Exists := by
  constructor
  · intro h
    unfold readDay at h
    split at h
    · rename_i y₁ y₂ y₃ y₄ m₁ m₂ d₁ d₂
      simp only [Option.bind_eq_bind, Option.bind_eq_some_iff, Text.readDigits_eq_some_iff] at h
      obtain ⟨year, ⟨-, hyear, rfl⟩, month, ⟨-, hmonth, rfl⟩, day, ⟨-, hday, rfl⟩, h⟩ := h
      have hexists := (Date.of_ofFields? h).1
      refine ⟨⟨[y₁, y₂, y₃, y₄], [m₁, m₂], [d₁, d₂], rfl, ⟨rfl, rfl, rfl⟩, ?_, ?_⟩, hexists⟩
      · intro c hc
        rcases List.mem_append.mp hc with hc | hc
        · exact (List.mem_append.mp hc).elim (hyear c) (hmonth c)
        · exact hday c hc
      · simp only [Date.ofFields?] at h
        split at h
        · exact (Option.some_inj.mp h).symm
        · cases h
    · cases h
  · rintro ⟨⟨year, month, day, rfl, ⟨hyear, hmonth, hday⟩, hdigits, rfl⟩, hexists⟩
    simp only [List.mem_append, or_imp, forall_and] at hdigits
    have hbound : Nat.ofDigitChars 10 year 0 < 10 ^ 4 := hyear ▸ Text.digitsValue_lt hdigits.1.1
    have hreach : Date.minYear ≤ (Nat.ofDigitChars 10 year 0 : Int) ∧
        (Nat.ofDigitChars 10 year 0 : Int) ≤ Date.maxYear := by
      simp only [Date.minYear, Date.maxYear]
      omega
    rw [readDay_fields hyear hmonth hday, readDigits_of_length hyear hdigits.1.1,
      readDigits_of_length hmonth hdigits.1.2, readDigits_of_length hday hdigits.2]
    exact if_pos ⟨hreach.1, hreach.2, hexists⟩

namespace Date

variable {d d' : Date} {cs cs' : List Char}

lemma WrittenAs.year_bounds (h : d.WrittenAs cs) : 0 ≤ d.year ∧ d.year ≤ 9999 := by
  obtain ⟨year, month, day, -, ⟨hyear, -, -⟩, hdigits, rfl⟩ := h
  simp only [List.mem_append, or_imp, forall_and] at hdigits
  have hbound : Nat.ofDigitChars 10 year 0 < 10 ^ 4 := hyear ▸ Text.digitsValue_lt hdigits.1.1
  show 0 ≤ (Nat.ofDigitChars 10 year 0 : Int) ∧ (Nat.ofDigitChars 10 year 0 : Int) ≤ 9999
  omega

/-- The text of a date is the one it is written as. -/
lemma WrittenAs.dateText (h : d.WrittenAs cs) : (Instant.dateText d).toList = cs := by
  have hbounds := h.year_bounds
  obtain ⟨year, month, day, rfl, ⟨hyear, hmonth, hday⟩, hdigits, rfl⟩ := h
  simp only [List.mem_append, or_imp, forall_and] at hdigits
  have hfield {field : List Char} {width : Nat} (hlength : field.length = width + 1)
      (hfield : ∀ c ∈ field, c.isDigit = true) :
      (padZeros (width + 1) (Nat.ofDigitChars 10 field 0)).toList = field :=
    hlength ▸ Text.padZeros_digitsValue (List.ne_nil_of_length_eq_add_one hlength) hfield
  simp only [Instant.dateText, Instant.yearText, if_pos hbounds, Int.toNat_natCast,
    String.toList_append, hfield hyear hdigits.1.1, hfield hmonth hdigits.1.2,
    hfield hday hdigits.2]
  simp

/-- A day of these years can be written. -/
lemma writtenAs_dateText (hexists : d.Exists) (hyear : 0 ≤ d.year ∧ d.year ≤ 9999) :
    d.WrittenAs (Instant.dateText d).toList := by
  have hday : d.day < 10 ^ 2 := by
    have hlength := daysInMonth_le d.year d.month
    have hlast := hexists.2.2.2
    omega
  have hmonth : d.month < 10 ^ 2 := Nat.lt_of_le_of_lt hexists.2.1 (by decide)
  have hyears : d.year.toNat < 10 ^ 4 := by omega
  refine ⟨(padZeros 4 d.year.toNat).toList, (padZeros 2 d.month).toList,
    (padZeros 2 d.day).toList, ?_, ⟨Text.length_padZeros (by decide) hyears,
      Text.length_padZeros (by decide) hmonth, Text.length_padZeros (by decide) hday⟩, ?_, ?_⟩
  · simp [Instant.dateText, Instant.yearText, hyear]
  · simp only [List.mem_append]
    rintro c ((hc | hc) | hc) <;> exact Text.isDigit_padZeros hc
  · have hvalue (width n : Nat) : Nat.ofDigitChars 10 (padZeros width n).toList 0 = n :=
      Text.digitsValue_padZeros width n
    rw [hvalue, hvalue, hvalue, Int.toNat_of_nonneg hyear.1]

/-! ## Texts in order -/

lemma append_lt_append_iff {as bs : List Char} (h : as.length = bs.length) (xs ys : List Char) :
    as ++ xs < bs ++ ys ↔ as < bs ∨ as = bs ∧ xs < ys := by
  induction as generalizing bs with
  | nil =>
      obtain rfl : bs = [] := List.length_eq_zero_iff.mp h.symm
      simp
  | cons a as ih =>
      cases bs with
      | nil => simp at h
      | cons b bs =>
          simp only [List.cons_append, List.cons_lt_cons_iff, ih (Nat.succ.inj h),
            List.cons.injEq]
          tauto

/-- **Texts of dates are in the order of the calendar.** -/
theorem WrittenAs.lt_iff (h : d.WrittenAs cs) (h' : d'.WrittenAs cs') :
    cs < cs' ↔ d.Before d' := by
  obtain ⟨year, month, day, rfl, ⟨hyear, hmonth, hday⟩, hdigits, rfl⟩ := h
  obtain ⟨year', month', day', rfl, ⟨hyear', hmonth', hday'⟩, hdigits', rfl⟩ := h'
  simp only [List.mem_append, or_imp, forall_and] at hdigits hdigits'
  have hyears : year.length = year'.length := hyear.trans hyear'.symm
  have hmonths : month.length = month'.length := hmonth.trans hmonth'.symm
  have hdays : day.length = day'.length := hday.trans hday'.symm
  have hhyphen (xs ys : List Char) : '-' :: xs < '-' :: ys ↔ xs < ys := by
    simp
  rw [append_lt_append_iff hyears, hhyphen, append_lt_append_iff hmonths, hhyphen,
    Text.digitsValue_lt_iff hyears hdigits.1.1 hdigits'.1.1,
    Text.digitsValue_lt_iff hmonths hdigits.1.2 hdigits'.1.2,
    Text.digitsValue_lt_iff hdays hdigits.2 hdigits'.2,
    ← Text.digitsValue_inj hyears hdigits.1.1 hdigits'.1.1,
    ← Text.digitsValue_inj hmonths hdigits.1.2 hdigits'.1.2]
  show _ ↔ (digitsValue year : Int) < digitsValue year' ∨
    (digitsValue year : Int) = digitsValue year' ∧ _
  rw [Int.ofNat_lt, Int.ofNat_inj]
  rfl

/-- Different dates are written differently. -/
lemma WrittenAs.inj (h : d.WrittenAs cs) (h' : d'.WrittenAs cs') : cs = cs' ↔ d = d' := by
  constructor
  · rintro rfl
    rcases before_trichotomy d d' with hbefore | heq | hafter
    · exact absurd ((h.lt_iff h').mpr hbefore) (List.lt_irrefl cs)
    · exact heq
    · exact absurd ((h'.lt_iff h).mpr hafter) (List.lt_irrefl cs)
  · rintro rfl
    exact h.dateText.symm.trans h'.dateText

end Date

/-! ## Midnights -/

namespace Instant

lemma not_isLeap_midnight (d : Date) : ¬(midnight d).IsLeap := by
  simp [IsLeap, midnight]

lemma toNanos_midnight (d : Date) :
    (midnight d).toNanos = d.dayNumber * (secondsPerDay * nanosPerSecond : Nat) := by
  simp only [toNanos, midnight, secondsPerDay, nanosPerSecond]
  omega

/-- Midnights are in the order of their dates. -/
lemma midnight_lt_iff {d d' : Date} (hd : d.Exists) (hd' : d'.Exists) :
    midnight d < midnight d' ↔ d.Before d' := by
  rw [lt_iff_toNanos (not_isLeap_midnight d) (not_isLeap_midnight d'), toNanos_midnight,
    toNanos_midnight, ← Date.dayNumber_lt_iff hd hd']
  simp only [secondsPerDay, nanosPerSecond]
  omega

/-- Midnight is the beginning of its date. -/
lemma fields_midnight {d : Date} (h : d.Exists) :
    (midnight d).date = d ∧ (midnight d).clock = (0, 0, 0) ∧ (midnight d).fraction = 0 := by
  have hday : (midnight d).second / secondsPerDay = d.dayNumber := by
    simp only [midnight, secondsPerDay]
    omega
  have hsecond : (midnight d).secondOfDay = 0 := by
    simp only [secondOfDay, midnight, secondsPerDay]
    omega
  refine ⟨?_, ?_, rfl⟩
  · rw [date, hday, Date.ofDayNumber_dayNumber h]
  · simp [clock, hsecond, not_isLeap_midnight]

lemma midnight_inj {d d' : Date} (hd : d.Exists) (hd' : d'.Exists) :
    midnight d = midnight d' ↔ d = d' := by
  refine ⟨fun h => ?_, fun h => h ▸ rfl⟩
  have hdate := congrArg date h
  rwa [(fields_midnight hd).1, (fields_midnight hd').1] at hdate

/-- From one midnight to the next it is a day. -/
lemma since_midnight_next {d : Date} (h : d.Exists) :
    (midnight d.next).since (midnight d) = (secondsPerDay * nanosPerSecond : Nat) := by
  rw [since_eq (not_isLeap_midnight _) (not_isLeap_midnight _), toNanos_midnight,
    toNanos_midnight, Date.dayNumber_next h]
  simp only [secondsPerDay, nanosPerSecond]
  omega

end Instant

/-! ## Reading dates -/

lemma parseDate_eq_ok_iff {s : String} {t : Instant} :
    parseDate s = .ok t ↔
      ∃ d : Date, d.WrittenAs (trim s.toList) ∧ d.Exists ∧ t = .midnight d := by
  unfold parseDate
  cases hread : readDay (trim s.toList) with
  | some d =>
      have hd := readDay_eq_some_iff.mp hread
      simp only [Except.ok.injEq]
      constructor
      · rintro rfl
        exact ⟨d, hd.1, hd.2, rfl⟩
      · rintro ⟨d', hwritten, hexists, rfl⟩
        rw [readDay_eq_some_iff.mpr ⟨hwritten, hexists⟩] at hread
        rw [Option.some_inj.mp hread]
  | none =>
      refine iff_of_false (by simp) ?_
      rintro ⟨d, hwritten, hexists, -⟩
      rw [readDay_eq_some_iff.mpr ⟨hwritten, hexists⟩] at hread
      cases hread

lemma parseDate_eq_error_iff {s : String} {e : FlowError} :
    parseDate s = .error e ↔
      (¬∃ d : Date, d.WrittenAs (trim s.toList) ∧ d.Exists) ∧ e = .invalidDate s := by
  have hnone : (¬∃ d : Date, d.WrittenAs (trim s.toList) ∧ d.Exists) ↔
      readDay (trim s.toList) = none := by
    simp only [← readDay_eq_some_iff, Option.eq_none_iff_forall_ne_some, not_exists, ne_eq]
  rw [hnone, parseDate]
  cases readDay (trim s.toList) <;> simp [eq_comm]

lemma Date.WrittenAs.trim_eq {d : Date} {cs : List Char} (h : d.WrittenAs cs) : trim cs = cs := by
  obtain ⟨year, month, day, rfl, ⟨hyear, -, hday⟩, hdigits, -⟩ := h
  simp only [List.mem_append, or_imp, forall_and] at hdigits
  apply Text.trim_eq_self
  · intro c hc
    rw [List.head?_append_of_ne_nil _ (List.ne_nil_of_length_eq_add_one hyear)] at hc
    exact Text.isBlank_of_isDigit (hdigits.1.1 c (List.mem_of_mem_head? hc))
  · intro c hc
    have hne : day ≠ [] := List.ne_nil_of_length_eq_add_one hday
    have hsplit : year ++ '-' :: (month ++ '-' :: day)
        = (year ++ '-' :: (month ++ ['-'])) ++ day := by
      simp
    rw [hsplit, List.getLast?_append_of_ne_nil _ hne] at hc
    exact Text.isBlank_of_isDigit (hdigits.2 c (List.mem_of_getLast? hc))

/-- **Exactly the days of the calendar are accepted, in their order.**

* A text is accepted exactly if it is, without the blanks around it, the text of a day that exists;
  its instant is the midnight at which that day begins, and its text is the date of that instant.
  Any other text is an error that carries the text as it was given.
* Every day of the years 0 to 9999 has a text that is accepted.
* Instants are ordered as the texts are, without blanks around them.
* After the text of a day that of the next is accepted too, exactly 86400 seconds later. -/
theorem parseDate_exact :
    (∀ s t, parseDate s = .ok t ↔
      ∃ d : Date, d.WrittenAs (trim s.toList) ∧ d.Exists ∧ t = .midnight d) ∧
    (∀ s t, parseDate s = .ok t → t.clock = (0, 0, 0) ∧ t.fraction = 0 ∧
      Instant.dateText t.date = .ofList (trim s.toList)) ∧
    (∀ s e, parseDate s = .error e ↔
      (¬∃ d : Date, d.WrittenAs (trim s.toList) ∧ d.Exists) ∧ e = .invalidDate s) ∧
    (∀ d : Date, d.Exists → 0 ≤ d.year ∧ d.year ≤ 9999 →
      parseDate (Instant.dateText d) = .ok (.midnight d)) ∧
    (∀ s s' t t', parseDate s = .ok t → parseDate s' = .ok t' →
      (t < t' ↔ String.ofList (trim s.toList) < String.ofList (trim s'.toList)) ∧
      (t = t' ↔ String.ofList (trim s.toList) = String.ofList (trim s'.toList))) ∧
    (∀ s s' t (d : Date), parseDate s = .ok t →
      d.WrittenAs (trim s.toList) → d.next.WrittenAs (trim s'.toList) →
      ∃ t', parseDate s' = .ok t' ∧ t'.since t = (86400 * nanosPerSecond : Nat)) := by
  refine ⟨fun s t => parseDate_eq_ok_iff, ?_, fun s e => parseDate_eq_error_iff, ?_, ?_, ?_⟩
  · intro s t h
    obtain ⟨d, hwritten, hexists, rfl⟩ := parseDate_eq_ok_iff.mp h
    obtain ⟨hdate, hclock, hfraction⟩ := Instant.fields_midnight hexists
    refine ⟨hclock, hfraction, ?_⟩
    rw [hdate, ← hwritten.dateText, String.ofList_toList]
  · intro d hexists hyear
    have hwritten := Date.writtenAs_dateText hexists hyear
    exact parseDate_eq_ok_iff.mpr ⟨d, hwritten.trim_eq.symm ▸ hwritten, hexists, rfl⟩
  · intro s s' t t' h h'
    obtain ⟨d, hwritten, hexists, rfl⟩ := parseDate_eq_ok_iff.mp h
    obtain ⟨d', hwritten', hexists', rfl⟩ := parseDate_eq_ok_iff.mp h'
    constructor
    · rw [Instant.midnight_lt_iff hexists hexists', String.lt_iff, String.toList_ofList,
        String.toList_ofList, hwritten.lt_iff hwritten']
    · rw [Instant.midnight_inj hexists hexists', ← hwritten.inj hwritten', String.ofList_inj]
  · intro s s' t d h hwritten hnext
    obtain ⟨d₁, hwritten₁, hexists, rfl⟩ := parseDate_eq_ok_iff.mp h
    obtain rfl := (hwritten₁.inj hwritten).mp rfl
    exact ⟨.midnight d₁.next, parseDate_eq_ok_iff.mpr ⟨_, hnext, Date.exists_next hexists, rfl⟩,
      Instant.since_midnight_next hexists⟩

end TrafficDigest
