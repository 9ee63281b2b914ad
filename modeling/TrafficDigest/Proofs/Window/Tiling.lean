import Mathlib.Tactic.Lemma
import Mathlib.Tactic.Common
import TrafficDigest.Window

/-!
# Tilings

A list of windows *tiles* the time from one instant to another when its windows follow each other
without gaps and without overlaps.  Halving a window of a tiling gives a tiling again
(`tiles_halves`), so bisection never loses an instant and never looks at one twice.

* `Tiles.exists_contains` — every instant in between lies in one of the windows.
* `Tiles.stop_le_start` — of two windows the earlier one ends before the later one starts; so
  windows of a tiling are disjoint and their starts increase.
-/

namespace TrafficDigest

namespace Window

@[simp] lemma contains_iff {w : Window} {t : Instant} :
    w.contains t = true ↔ w.start ≤ t ∧ t < w.stop := by
  simp [contains]

/-- The windows follow each other from `a` to `b`. -/
def Tiles : Instant → List Window → Instant → Prop
  | a, [], b => a = b
  | a, w :: ws, b => a = w.start ∧ Tiles w.stop ws b

lemma tiles_append {a b : Instant} {us vs : List Window} :
    Tiles a (us ++ vs) b ↔ ∃ m, Tiles a us m ∧ Tiles m vs b := by
  induction us generalizing a with
  | nil => simp [Tiles]
  | cons u us ih =>
      simp only [List.cons_append, Tiles, ih]
      constructor
      · rintro ⟨ha, m, hus, hvs⟩
        exact ⟨m, ⟨ha, hus⟩, hvs⟩
      · rintro ⟨m, ⟨ha, hus⟩, hvs⟩
        exact ⟨ha, m, hus, hvs⟩

/-- One window tiles the time that it spans. -/
lemma tiles_singleton (w : Window) : Tiles w.start [w] w.stop := ⟨rfl, rfl⟩

/-- A window of a tiling may give way to its halves. -/
lemma tiles_halves {a b : Instant} {us vs : List Window} {w left right : Window}
    (hw : w.split? = some (left, right)) (h : Tiles a (us ++ w :: vs) b) :
    Tiles a (us ++ left :: right :: vs) b := by
  obtain ⟨hl, hm, hr⟩ := bounds_split? hw
  obtain ⟨m, hus, rfl, hvs⟩ := tiles_append.mp h
  refine tiles_append.mpr ⟨w.start, hus, hl.symm, hm, ?_⟩
  rw [hr]
  exact hvs

namespace Tiles

variable {a b : Instant} {ws : List Window}

lemma le (h : Tiles a ws b) : a ≤ b := by
  induction ws generalizing a with
  | nil =>
      cases h
      exact Instant.le_refl _
  | cons w ws ih =>
      obtain ⟨rfl, hws⟩ := h
      exact Instant.le_trans (Instant.le_of_lt w.start_lt_stop) (ih hws)

/-- No window of a tiling reaches out of it. -/
lemma bounds (h : Tiles a ws b) : ∀ w ∈ ws, a ≤ w.start ∧ w.stop ≤ b := by
  induction ws generalizing a with
  | nil => simp
  | cons v ws ih =>
      obtain ⟨rfl, hws⟩ := h
      intro w hw
      rcases List.mem_cons.mp hw with rfl | hw
      · exact ⟨Instant.le_refl _, hws.le⟩
      · obtain ⟨h₁, h₂⟩ := ih hws w hw
        exact ⟨Instant.le_trans (Instant.le_of_lt v.start_lt_stop) h₁, h₂⟩

/-- Of two windows of a tiling the earlier one ends before the later one starts. -/
lemma stop_le_start (h : Tiles a ws b) : ws.Pairwise fun v w => v.stop ≤ w.start := by
  induction ws generalizing a with
  | nil => exact .nil
  | cons v ws ih =>
      obtain ⟨rfl, hws⟩ := h
      exact List.pairwise_cons.mpr ⟨fun w hw => (hws.bounds w hw).1, ih hws⟩

/-- The starts of the windows of a tiling increase. -/
lemma start_lt_start (h : Tiles a ws b) : ws.Pairwise fun v w => v.start < w.start := by
  refine h.stop_le_start.imp fun {v w} hvw => ?_
  exact Instant.lt_of_lt_of_le v.start_lt_stop hvw

/-- Every instant between the ends of a tiling lies in one of its windows. -/
lemma exists_contains (h : Tiles a ws b) {t : Instant} (ha : a ≤ t) (hb : t < b) :
    ∃ w ∈ ws, w.contains t = true := by
  induction ws generalizing a with
  | nil =>
      cases h
      exact absurd hb (Instant.not_lt.mpr ha)
  | cons w ws ih =>
      obtain ⟨rfl, hws⟩ := h
      by_cases ht : t < w.stop
      · exact ⟨w, by simp, contains_iff.mpr ⟨ha, ht⟩⟩
      · obtain ⟨v, hv, hvt⟩ := ih hws (Instant.not_lt.mp ht)
        exact ⟨v, List.mem_cons_of_mem _ hv, hvt⟩

end Tiles

end Window

end TrafficDigest
