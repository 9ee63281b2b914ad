import Mathlib.Tactic.Lemma
import Mathlib.Tactic.Common
import TrafficDigest.Instant

/-!
# Whole milliseconds

`Instant.floorMillis` cuts an instant to whole milliseconds.  Cutting keeps the order
(`floorMillis_mono`), so an interval that is cut never has its bounds in the wrong order.  They may
be the same, though: `floorMillis_lt_iff` says when they are not.

Apart from leap seconds an instant is its number of nanoseconds, and so is arithmetic with instants:
`toNanos_midpoint` for midpoints, `floorMillis_lt_of_gap` for instants that are at least a
millisecond apart.
-/

namespace TrafficDigest.Instant

/-! ## Apart from leap seconds -/

lemma not_isLeap_ofNanos (n : Int) : ¬(ofNanos n).IsLeap := by
  simp only [IsLeap, ofNanos, nanosPerSecond]
  omega

@[simp] lemma toNanos_ofNanos (n : Int) : (ofNanos n).toNanos = n := by
  simp only [toNanos, ofNanos, nanosPerSecond]
  omega

/-- Apart from leap seconds the order is that of the nanoseconds. -/
lemma lt_iff_toNanos {a b : Instant} (ha : ¬a.IsLeap) (hb : ¬b.IsLeap) :
    a < b ↔ a.toNanos < b.toNanos := by
  simp only [lt_iff, rank, toNanos, IsLeap, nanosPerSecond] at *
  omega

lemma since_eq {a b : Instant} (ha : ¬a.IsLeap) (hb : ¬b.IsLeap) :
    a.since b = a.toNanos - b.toNanos := by
  simp [since, ha, hb]

lemma midpoint_eq {a b : Instant} (ha : ¬a.IsLeap) (hb : ¬b.IsLeap) :
    a.midpoint b = ofNanos (a.toNanos + (b.toNanos - a.toNanos) / 2) := by
  rw [midpoint, since_eq hb ha, shift, if_neg ha]

/-! ## Cutting -/

/-- Nanoseconds in a millisecond. -/
abbrev nanosPerMilli : Nat := 1000000

/-- **The instant cut to whole milliseconds.** -/
def floorMillis (t : Instant) : Instant where
  second := t.second
  nano := t.nano / nanosPerMilli * nanosPerMilli
  nano_lt := Nat.lt_of_le_of_lt (Nat.div_mul_le_self _ _) t.nano_lt

lemma rank_floorMillis (t : Instant) :
    t.floorMillis.rank = t.rank / (nanosPerMilli : Nat) * (nanosPerMilli : Nat) := by
  simp only [rank, floorMillis, nanosPerMilli, nanosPerSecond]
  omega

lemma floorMillis_le (t : Instant) : t.floorMillis ≤ t := by
  rw [le_iff, rank_floorMillis]
  simp only [nanosPerMilli]
  omega

/-- Cutting keeps the order. -/
lemma floorMillis_mono {a b : Instant} (h : a ≤ b) : a.floorMillis ≤ b.floorMillis := by
  rw [le_iff] at *
  rw [rank_floorMillis, rank_floorMillis]
  simp only [nanosPerMilli]
  omega

lemma floorMillis_floorMillis (t : Instant) : t.floorMillis.floorMillis = t.floorMillis := by
  rw [← rank_inj, rank_floorMillis, rank_floorMillis]
  simp only [nanosPerMilli]
  omega

lemma floorMillis_midnight (d : Date) : (midnight d).floorMillis = midnight d := by
  simp [floorMillis, midnight]

/-- **Two instants are still apart once they are cut** exactly if a whole millisecond begins after
the first, and no later than the second. -/
theorem floorMillis_lt_iff {a b : Instant} :
    a.floorMillis < b.floorMillis ↔ ∃ t : Instant, t.floorMillis = t ∧ a < t ∧ t ≤ b := by
  constructor
  · intro h
    refine ⟨b.floorMillis, floorMillis_floorMillis b, ?_, floorMillis_le b⟩
    rw [lt_iff, rank_floorMillis, rank_floorMillis] at *
    simp only [nanosPerMilli] at *
    omega
  · rintro ⟨t, ht, hat, htb⟩
    have hcut := rank_floorMillis t
    rw [ht] at hcut
    rw [lt_iff, le_iff] at *
    rw [rank_floorMillis, rank_floorMillis]
    simp only [nanosPerMilli] at *
    omega

lemma not_isLeap_floorMillis {t : Instant} (h : ¬t.IsLeap) : ¬t.floorMillis.IsLeap := by
  simp only [IsLeap, floorMillis, nanosPerMilli, nanosPerSecond] at *
  omega

lemma toNanos_floorMillis (t : Instant) :
    t.floorMillis.toNanos = t.toNanos / (nanosPerMilli : Nat) * (nanosPerMilli : Nat) := by
  simp only [toNanos, floorMillis, nanosPerMilli, nanosPerSecond]
  omega

/-- **Instants that are a millisecond apart** stay apart. -/
lemma floorMillis_lt_of_gap {a b : Instant} (ha : ¬a.IsLeap) (hb : ¬b.IsLeap)
    (h : a.toNanos + (nanosPerMilli : Nat) ≤ b.toNanos) : a.floorMillis < b.floorMillis := by
  rw [lt_iff_toNanos (not_isLeap_floorMillis ha) (not_isLeap_floorMillis hb),
    toNanos_floorMillis, toNanos_floorMillis]
  simp only [nanosPerMilli] at *
  omega

end TrafficDigest.Instant
