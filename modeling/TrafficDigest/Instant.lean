import TrafficDigest.Calendar
import TrafficDigest.Text

/-!
# Instants

Points in time with a resolution of one nanosecond, in UTC.

**Leap seconds.**  An instant is a count of calendar seconds since 1970 and a count of nanoseconds
within that second.  A leap second has no calendar second of its own: it is the second half of the
calendar second before it, so the nanoseconds of an instant run up to `2 * 10 ^ 9`.  The order of
instants is the order of `Instant.rank`, which leaves that room after every second.

**Range.**  The type holds more than a text can say: all seconds, so that no sum fails, and a leap
second after any of them.  What is read lies in the years that the calendar reaches and in no leap
second but one at the end of a minute, and what lies halfway between two such instants does so too.
Only results about texts need this; they take it as a condition.

**Arithmetic.**  `Instant.since` counts a leap second that lies between its two instants only if
one of the two is inside it, and `Instant.shift` leaves a leap second as soon as the sum does;
`Instant.midpoint` is built from the two and is what a time window is halved at.

**Text.**  `Instant.rfc3339` and `Instant.text` write the calendar fields.
-/

namespace TrafficDigest

/-- Nanoseconds in a second. -/
abbrev nanosPerSecond : Nat := 1000000000

/-- Seconds in a day of the calendar. -/
abbrev secondsPerDay : Nat := 86400

/-- A point in time, in UTC. -/
structure Instant where
  /-- Calendar seconds since 1970-01-01T00:00:00Z. -/
  second : Int
  /-- Nanoseconds within the second; from `10 ^ 9` on they lie in the leap second after it. -/
  nano : Nat
  nano_lt : nano < 2 * nanosPerSecond
  deriving DecidableEq, Repr

namespace Instant

/-! ## Order -/

/-- The place of an instant on a line with room for a leap second after every second. -/
def rank (t : Instant) : Int := t.second * (2 * nanosPerSecond : Nat) + t.nano

instance : LT Instant := ⟨fun a b => a.rank < b.rank⟩

instance : LE Instant := ⟨fun a b => a.rank ≤ b.rank⟩

instance (a b : Instant) : Decidable (a < b) := inferInstanceAs (Decidable (a.rank < b.rank))

instance (a b : Instant) : Decidable (a ≤ b) := inferInstanceAs (Decidable (a.rank ≤ b.rank))

theorem lt_iff {a b : Instant} : a < b ↔ a.rank < b.rank := Iff.rfl

theorem le_iff {a b : Instant} : a ≤ b ↔ a.rank ≤ b.rank := Iff.rfl

protected theorem le_refl (a : Instant) : a ≤ a := Int.le_refl _

protected theorem le_of_lt {a b : Instant} (h : a < b) : a ≤ b := Int.le_of_lt h

protected theorem le_trans {a b c : Instant} (h₁ : a ≤ b) (h₂ : b ≤ c) : a ≤ c :=
  Int.le_trans h₁ h₂

protected theorem lt_of_lt_of_le {a b c : Instant} (h₁ : a < b) (h₂ : b ≤ c) : a < c :=
  Int.lt_of_lt_of_le h₁ h₂

protected theorem lt_of_le_of_lt {a b c : Instant} (h₁ : a ≤ b) (h₂ : b < c) : a < c :=
  Int.lt_of_le_of_lt h₁ h₂

protected theorem not_lt {a b : Instant} : ¬a < b ↔ b ≤ a := Int.not_lt

/-- Instants of the same rank are the same. -/
theorem rank_inj {a b : Instant} : a.rank = b.rank ↔ a = b := by
  obtain ⟨s, n, hn⟩ := a
  obtain ⟨s', n', hn'⟩ := b
  simp only [nanosPerSecond] at hn hn'
  simp only [rank, nanosPerSecond, Instant.mk.injEq]
  omega

/-! ## Arithmetic -/

/-- The instant lies in a leap second. -/
def IsLeap (t : Instant) : Prop := nanosPerSecond ≤ t.nano

instance (t : Instant) : Decidable t.IsLeap := by unfold IsLeap; infer_instance

/-- The second of the day, 0 to 86399. -/
def secondOfDay (t : Instant) : Nat := (t.second % secondsPerDay).toNat

/-- The instant that lies the given nanoseconds after the start of 1970, leap seconds aside. -/
def ofNanos (n : Int) : Instant where
  second := n / nanosPerSecond
  nano := (n % nanosPerSecond).toNat
  nano_lt := by simp only [nanosPerSecond]; omega

/-- Nanoseconds since the start of 1970; the instants of a leap second fall on those of the second
after it. -/
def toNanos (t : Instant) : Int := t.second * nanosPerSecond + t.nano

/-- **Nanoseconds from `b` to `a`.**  When one of the two lies in a leap second and the other comes
later in the day (or earlier, for `a`), that leap second is counted in full. -/
def since (a b : Instant) : Int :=
  let counted : Int :=
    if b.secondOfDay < a.secondOfDay ∧ b.IsLeap then nanosPerSecond
    else if a.secondOfDay < b.secondOfDay ∧ a.IsLeap then -(nanosPerSecond : Int)
    else 0
  a.toNanos - b.toNanos + counted

/-- **The instant `n` nanoseconds later.**  From inside a leap second, a sum that stays below the
next second (and takes away less than one) only moves within the second and its leap second; a
later one comes out after the leap second, and an earlier one before it. -/
def shift (t : Instant) (n : Int) : Instant :=
  if t.IsLeap then
    if h : -(nanosPerSecond : Int) < n ∧ t.nano + n < 2 * nanosPerSecond then
      ⟨t.second, (t.nano + n).toNat, by simp only [nanosPerSecond] at h ⊢; omega⟩
    else if 0 < n then ofNanos (t.toNanos + n - nanosPerSecond)
    else ofNanos (t.toNanos + n)
  else ofNanos (t.toNanos + n)

/-- The instant halfway from `a` to `b`, the earlier of two when the distance is odd. -/
def midpoint (a b : Instant) : Instant := a.shift (b.since a / 2)

/-! ## Calendar fields -/

/-- Midnight UTC at the start of a date. -/
def midnight (d : Date) : Instant where
  second := d.dayNumber * secondsPerDay
  nano := 0
  nano_lt := by decide

/-- The date in UTC. -/
def date (t : Instant) : Date := Date.ofDayNumber (t.second / secondsPerDay)

/-- Hour, minute and second of the day; a leap second is second 60 of its minute. -/
def clock (t : Instant) : Nat × Nat × Nat :=
  let s := t.secondOfDay
  (s / 3600, s / 60 % 60, s % 60 + if t.IsLeap then 1 else 0)

/-- Nanoseconds within the second or leap second. -/
def fraction (t : Instant) : Nat := t.nano % nanosPerSecond

/-! ## Text -/

/-- How many digits of the fraction of a second are written. -/
inductive FractionDigits where
  /-- None, three, six or nine: the fewest that lose nothing. -/
  | fewest
  /-- Three, the rest cut off. -/
  | millis

/-- The point and the digits of a fraction given in nanoseconds. -/
def FractionDigits.write : FractionDigits → Nat → String
  | .millis, n => "." ++ Text.padZeros 3 (n / 1000000)
  | .fewest, n =>
    if n = 0 then ""
    else if n % 1000000 = 0 then "." ++ Text.padZeros 3 (n / 1000000)
    else if n % 1000 = 0 then "." ++ Text.padZeros 6 (n / 1000)
    else "." ++ Text.padZeros 9 n

/-- Four digits for the years 0 to 9999; any other year has a sign and at least four digits. -/
def yearText (year : Int) : String :=
  if 0 ≤ year ∧ year ≤ 9999 then Text.padZeros 4 year.toNat
  else (if year < 0 then "-" else "+") ++ Text.padZeros 4 year.natAbs

/-- The date as year, month and day. -/
def dateText (d : Date) : String :=
  yearText d.year ++ "-" ++ Text.padZeros 2 d.month ++ "-" ++ Text.padZeros 2 d.day

/-- Hours, minutes, seconds and the digits of the fraction. -/
def clockText (digits : FractionDigits) (t : Instant) : String :=
  let (hour, minute, second) := t.clock
  Text.padZeros 2 hour ++ ":" ++ Text.padZeros 2 minute ++ ":" ++ Text.padZeros 2 second ++
    digits.write t.fraction

/-- The form of RFC 3339, in UTC. -/
def rfc3339 (digits : FractionDigits) (t : Instant) : String :=
  dateText t.date ++ "T" ++ t.clockText digits ++ "Z"

/-- The form in which an instant is shown in messages. -/
def text (t : Instant) : String :=
  dateText t.date ++ " " ++ t.clockText .fewest ++ " UTC"

end Instant

end TrafficDigest
