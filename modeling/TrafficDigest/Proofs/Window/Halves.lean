import TrafficDigest.Instant.Reader
import TrafficDigest.Proofs.Instant.Millis
import TrafficDigest.Proofs.Window.Tiling

/-!
# How wide the halves of a window are

Apart from leap seconds a window is as wide as there are nanoseconds between its bounds.  Then it
has halves unless it is one nanosecond wide (`Plain.split?_eq_none_iff`), and the bounds of the
halves are no leap seconds either.  So windows that tile a plain window are at most as many as it is
nanoseconds wide (`Tiles.length_le`).

Instants and durations have a range that they can be represented in.  What is computed to halve a
window stays within it, if the bounds of the window do (`Plain.halvesInRange`).
-/

namespace TrafficDigest

namespace Window

variable {w left right : Window}

/-- The nanoseconds from the start of a window to its stop. -/
def nanos (w : Window) : Nat := (w.stop.since w.start).toNat

/-- Neither bound lies in a leap second. -/
structure Plain (w : Window) : Prop where
  start : ¬w.start.IsLeap
  stop : ¬w.stop.IsLeap

namespace Plain

lemma since_eq (h : w.Plain) : w.stop.since w.start = w.nanos := by
  have hlt := (Instant.lt_iff_toNanos h.start h.stop).mp w.start_lt_stop
  rw [nanos, Instant.since_eq h.stop h.start]
  omega

lemma stop_eq (h : w.Plain) : w.stop.toNanos = w.start.toNanos + w.nanos := by
  rw [← h.since_eq, Instant.since_eq h.stop h.start]
  omega

lemma nanos_pos (h : w.Plain) : 0 < w.nanos := by
  have hlt := (Instant.lt_iff_toNanos h.start h.stop).mp w.start_lt_stop
  have hstop := h.stop_eq
  omega

/-! ## Halves -/

lemma toNanos_midpoint (h : w.Plain) :
    ¬(w.start.midpoint w.stop).IsLeap ∧
      (w.start.midpoint w.stop).toNanos = w.start.toNanos + (w.nanos / 2 : Nat) := by
  have hstop := h.stop_eq
  rw [Instant.midpoint_eq h.start h.stop, Instant.toNanos_ofNanos]
  refine ⟨Instant.not_isLeap_ofNanos _, ?_⟩
  omega

/-- **A window has no halves exactly if it is one nanosecond wide.** -/
theorem split?_eq_none_iff (h : w.Plain) : w.split? = none ↔ w.nanos = 1 := by
  obtain ⟨hleap, hmid⟩ := h.toNanos_midpoint
  have hpos := h.nanos_pos
  have hstop := h.stop_eq
  have hinside : w.start < w.start.midpoint w.stop ∧ w.start.midpoint w.stop < w.stop ↔
      w.nanos ≠ 1 := by
    rw [Instant.lt_iff_toNanos h.start hleap, Instant.lt_iff_toNanos hleap h.stop]
    omega
  simp only [split?]
  split_ifs with hsplit
  · exact iff_of_false (by simp) (hinside.mp hsplit)
  · exact iff_of_true rfl (not_not.mp (mt hinside.mpr hsplit))

/-- The halves of a plain window are plain. -/
lemma halves (h : w.Plain) (hs : w.split? = some (left, right)) : left.Plain ∧ right.Plain := by
  have hmid := h.toNanos_midpoint.1
  simp only [split?] at hs
  split at hs
  · cases hs
    exact ⟨⟨h.start, hmid⟩, ⟨hmid, h.stop⟩⟩
  · cases hs

/-- Each half is half as wide, the later one by a nanosecond more if the width is odd. -/
lemma nanos_halves (h : w.Plain) (hs : w.split? = some (left, right)) :
    left.nanos = w.nanos / 2 ∧ right.nanos = w.nanos - w.nanos / 2 := by
  obtain ⟨hleft, hright⟩ := h.halves hs
  have hmid := h.toNanos_midpoint.2
  have hwidth := h.stop_eq
  have hfirst := hleft.stop_eq
  have hlast := hright.stop_eq
  simp only [split?] at hs
  split at hs
  · cases hs
    dsimp only at hfirst hlast
    omega
  · cases hs

end Plain

/-- **An instant lies in a window exactly if it lies in exactly one of its halves.** -/
lemma contains_halves (hs : w.split? = some (left, right)) (t : Instant) :
    w.contains t = (left.contains t ^^ right.contains t) := by
  obtain ⟨hfirst, hmid, hlast⟩ := bounds_split? hs
  have hleft := left.start_lt_stop
  have hright := right.start_lt_stop
  simp only [contains, ← hfirst, ← hlast, hmid, Instant.le_iff, Instant.lt_iff] at *
  by_cases ht : t.rank < right.start.rank
  · have hlate : ¬right.start.rank ≤ t.rank := by omega
    have hearly : t.rank < right.stop.rank := by omega
    simp [ht, hlate, hearly]
  · have hlate : right.start.rank ≤ t.rank := by omega
    have hstart : left.start.rank ≤ t.rank := by omega
    simp [ht, hlate, hstart]

/-! ## Tilings -/

/-- **A tiling by plain windows has at most as many of them as there are nanoseconds.** -/
lemma Tiles.length_le {a b : Instant} {ws : List Window} (h : Tiles a ws b)
    (hplain : ∀ w ∈ ws, w.Plain) : a.toNanos + ws.length ≤ b.toNanos := by
  induction ws generalizing a with
  | nil =>
      cases h
      simp
  | cons w ws ih =>
      obtain ⟨rfl, hrest⟩ := h
      obtain ⟨hw, hws⟩ := List.forall_mem_cons.mp hplain
      have hlater := ih hrest hws
      have hstop := hw.stop_eq
      have hpos := hw.nanos_pos
      rw [List.length_cons]
      omega

/-! ## Ranges -/

/-- The nanoseconds of the longest duration: as many milliseconds as a signed word of 64 bits
holds. -/
def longestDuration : Int := 9223372036854775807 * 1000000

/-- A duration of so many nanoseconds can be represented. -/
def DurationInRange (n : Int) : Prop := -longestDuration ≤ n ∧ n ≤ longestDuration

/-- **Whatever is computed to halve a window can be represented:** its bounds, how long it takes,
half of that, and the midpoint. -/
structure HalvesInRange (w : Window) : Prop where
  start : Instant.InRange w.start.second
  stop : Instant.InRange w.stop.second
  duration : DurationInRange (w.stop.since w.start)
  half : DurationInRange (w.stop.since w.start / 2)
  midpoint : Instant.InRange (w.start.midpoint w.stop).second

lemma seconds_inRange {t : Instant} :
    Instant.InRange t.second ↔ -8334601228800 ≤ t.second ∧ t.second ≤ 8210266876799 := by
  have hmin : Date.dayNumber ⟨Date.minYear, 1, 1⟩ = -96465292 := by decide
  have hmax : Date.dayNumber ⟨Date.maxYear, 12, 31⟩ = 95026236 := by decide
  rw [Instant.InRange, hmin, hmax]
  simp only [secondsPerDay]
  omega

/-- **Halving stays in range.** -/
theorem Plain.halvesInRange (h : w.Plain) (hstart : Instant.InRange w.start.second)
    (hstop : Instant.InRange w.stop.second) : w.HalvesInRange := by
  obtain ⟨hleap, hmid⟩ := h.toNanos_midpoint
  have hwidth := h.stop_eq
  have hlow := seconds_inRange.mp hstart
  have hhigh := seconds_inRange.mp hstop
  -- a plain instant is its second and less than a second more
  have hnano (t : Instant) (ht : ¬t.IsLeap) :
      t.second * 1000000000 ≤ t.toNanos ∧ t.toNanos < (t.second + 1) * 1000000000 := by
    simp only [Instant.IsLeap, Instant.toNanos, nanosPerSecond] at *
    omega
  have hfirst := hnano _ h.start
  have hlast := hnano _ h.stop
  have hmiddle := hnano _ hleap
  have hduration : DurationInRange (w.stop.since w.start) := by
    rw [DurationInRange, longestDuration, h.since_eq]
    omega
  refine ⟨hstart, hstop, hduration, ?_, seconds_inRange.mpr (by omega)⟩
  rw [h.since_eq] at hduration ⊢
  rw [DurationInRange, longestDuration] at *
  omega

/-- So does halving the halves. -/
lemma HalvesInRange.halves (h : w.HalvesInRange) (hplain : w.Plain)
    (hs : w.split? = some (left, right)) : left.HalvesInRange ∧ right.HalvesInRange := by
  obtain ⟨hleft, hright⟩ := hplain.halves hs
  simp only [split?] at hs
  split at hs
  · cases hs
    exact ⟨hleft.halvesInRange h.start h.midpoint, hright.halvesInRange h.midpoint h.stop⟩
  · cases hs

end Window

end TrafficDigest
