import TrafficDigest.Instant

/-!
# Time windows

A window holds the instants from its start up to, and without, its stop; it is never empty.
`Window.split?` halves a window at the midpoint of its bounds.  The halves of a window share that
midpoint, and their spans add up to the span of the window (`span_split?`), which bounds how often
windows can be halved.
-/

namespace TrafficDigest

/-- The instants from `start` up to, and without, `stop`. -/
structure Window where
  start : Instant
  stop : Instant
  start_lt_stop : start < stop
  deriving DecidableEq, Repr

namespace Window

/-- An instant lies in the window. -/
def contains (w : Window) (t : Instant) : Bool := w.start ≤ t && t < w.stop

/-- The room between the bounds, in nanoseconds with those of leap seconds. -/
def span (w : Window) : Nat := (w.stop.rank - w.start.rank).toNat

/-- **The two halves of a window**, unless its midpoint is one of its bounds. -/
def split? (w : Window) : Option (Window × Window) :=
  let mid := w.start.midpoint w.stop
  if h : w.start < mid ∧ mid < w.stop then some (⟨w.start, mid, h.1⟩, ⟨mid, w.stop, h.2⟩) else none

/-! ## The halves -/

theorem span_pos (w : Window) : 0 < w.span := by
  have := Instant.lt_iff.1 w.start_lt_stop
  unfold span
  omega

/-- The halves share the midpoint and keep the outer bounds. -/
theorem bounds_split? {w left right : Window} (h : w.split? = some (left, right)) :
    left.start = w.start ∧ left.stop = right.start ∧ right.stop = w.stop := by
  simp only [split?] at h
  split at h
  · cases h
    exact ⟨rfl, rfl, rfl⟩
  · cases h

/-- The spans of the halves add up. -/
theorem span_split? {w left right : Window} (h : w.split? = some (left, right)) :
    left.span + right.span = w.span := by
  obtain ⟨h₁, h₂, h₃⟩ := bounds_split? h
  have hl := Instant.lt_iff.1 left.start_lt_stop
  have hr := Instant.lt_iff.1 right.start_lt_stop
  rw [h₂] at hl
  unfold span
  rw [← h₁, ← h₃, h₂]
  omega

end Window

end TrafficDigest
