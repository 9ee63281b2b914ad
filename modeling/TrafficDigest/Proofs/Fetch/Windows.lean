import TrafficDigest.Proofs.Fetch.SplitTree

/-!
# The windows of a fetch

Whatever a source answers, inconsistently even, the windows of the leaves and of the queries in play
divide the window of the query among them (`Reachable.exists_tiling`), so any two of them are apart.

A window that was answered is either a leaf, and apart from all that is in play, or it was halved,
and is wider than what is in play below it.  In neither case does it lie within a window in play
(`History.not_within`), which is why no window is asked for twice (`History.nodup_windows`).

With that, leaves and answers belong to each other one to one: every leaf has the answer to its
window, and an answer that is not a leaf reached the threshold (`History.exists_exchange`,
`History.leaf_or_halved`).
-/

namespace TrafficDigest

/-! ## Windows apart and within -/

namespace Window

/-- One of the two windows ends before the other starts. -/
def Apart (v w : Window) : Prop := v.stop ≤ w.start ∨ w.stop ≤ v.start

/-- The first window lies in the second. -/
def Within (v w : Window) : Prop := w.start ≤ v.start ∧ v.stop ≤ w.stop

lemma Apart.symm {v w : Window} (h : v.Apart w) : w.Apart v := Or.symm h

lemma within_refl (w : Window) : w.Within w := ⟨Instant.le_refl _, Instant.le_refl _⟩

lemma Within.trans {u v w : Window} (h₁ : u.Within v) (h₂ : v.Within w) : u.Within w :=
  ⟨Instant.le_trans h₂.1 h₁.1, Instant.le_trans h₁.2 h₂.2⟩

/-- Windows are not empty, so of two that are apart neither lies in the other. -/
lemma Apart.not_within {v w : Window} (h : v.Apart w) : ¬v.Within w := by
  have hv := v.start_lt_stop
  have hw := w.start_lt_stop
  rintro ⟨h₁, h₂⟩
  rcases h with h | h <;> simp only [Instant.le_iff, Instant.lt_iff] at * <;> omega

lemma Apart.ne {v w : Window} (h : v.Apart w) : v ≠ w := by
  rintro rfl
  exact h.not_within (within_refl v)

/-- The halves of a window lie within it, and it does not lie within them. -/
lemma within_of_split? {w left right : Window} (h : w.split? = some (left, right)) :
    (left.Within w ∧ ¬w.Within left) ∧ right.Within w ∧ ¬w.Within right := by
  obtain ⟨hl, hm, hr⟩ := bounds_split? h
  have hleft := left.start_lt_stop
  have hright := right.start_lt_stop
  simp only [Within, ← hl, ← hr, hm, Instant.le_iff, Instant.lt_iff] at *
  omega

lemma Tiles.pairwise_apart {a b : Instant} {ws : List Window} (h : Tiles a ws b) :
    ws.Pairwise Apart :=
  h.stop_le_start.imp fun hvw => Or.inl hvw

end Window

namespace Fetch

/-! ## The windows of a state -/

/-- The windows of the leaves and of the queries in play. -/
def Progress.windows (p : Progress) : List Window :=
  p.leaves.map (·.window) ++ p.inPlay.map (·.window)

variable {settings : Settings} {q : FlowQuery} {p : Progress}

section Tiling

variable {answers : Answers}

/-- **The leaves and the queries in play divide the window of the query among them.** -/
theorem Reachable.exists_tiling (h : Reachable answers settings q p) :
    ∃ ws, Window.Tiles q.start ws q.stop ∧ ws.Perm p.windows := by
  induction h with
  | start => exact ⟨[q.window], Window.tiles_singleton _, List.Perm.refl _⟩
  | @step p p' _ hs ih =>
      obtain ⟨ws, htiles, hperm⟩ := ih
      obtain ⟨w, records, -, hs⟩ := hs.settles
      cases hs with
      | @split left right others _ halves before after leaves _ =>
          have hperm : ws.Perm
              (w.window :: (p.leaves.map (·.window) ++ others.map (·.window))) :=
            (hperm.trans ((before.map _).append_left _)).trans List.perm_middle
          obtain ⟨us, vs, rfl⟩ := List.append_of_mem (hperm.mem_iff.mpr (List.mem_cons_self ..))
          obtain ⟨u, v, huv, rfl, rfl⟩ := FlowQuery.split?_eq_some.mp halves
          refine ⟨us ++ u :: v :: vs, Window.tiles_halves huv htiles, ?_⟩
          have hrest := (List.perm_middle.symm.trans hperm).cons_inv
          have hhalves : (us ++ u :: v :: vs).Perm (u :: v :: (us ++ vs)) :=
            List.perm_middle.trans (List.perm_middle.cons _)
          refine hhalves.trans (((hrest.cons v).cons u).trans ?_)
          unfold Progress.windows
          rw [leaves]
          refine List.Perm.trans ?_ ((after.map _).symm.append_left _)
          exact (List.perm_middle.trans (List.perm_middle.cons _)).symm
      | leaf _ before after leaves _ =>
          refine ⟨ws, htiles, hperm.trans ?_⟩
          unfold Progress.windows
          rw [leaves, List.map_append, List.append_assoc]
          exact ((before.map _).trans ((after.map _).symm.cons _)).append_left _

lemma Reachable.pairwise_apart (h : Reachable answers settings q p) :
    p.windows.Pairwise Window.Apart := by
  obtain ⟨ws, htiles, hperm⟩ := h.exists_tiling
  exact (hperm.pairwise_iff fun h => h.symm).mp htiles.pairwise_apart

lemma Reachable.leaf_inj (h : Reachable answers settings q p) {l m : Leaf} (hl : l ∈ p.leaves)
    (hm : m ∈ p.leaves) (heq : l.window = m.window) : l = m := by
  have hapart := (List.pairwise_append.mp h.pairwise_apart).1
  have hnodup : (p.leaves.map (·.window)).Nodup := hapart.imp fun hvw => hvw.ne
  exact List.inj_on_of_nodup_map hnodup hl hm heq

lemma Reachable.apart_of_perm (h : Reachable answers settings q p) {w : FlowQuery}
    {others : List FlowQuery} (hperm : p.inPlay.Perm (w :: others)) :
    ∀ v ∈ others, w.window.Apart v.window := by
  have hapart := (List.pairwise_append.mp h.pairwise_apart).2.1
  have hapart := ((hperm.map (·.window)).pairwise_iff fun h => h.symm).mp hapart
  intro v hv
  exact (List.pairwise_cons.mp hapart).1 _ (List.mem_map_of_mem hv)

end Tiling

/-! ## The windows that were asked for -/

variable {ρ : Type} {read : Reading ρ} {log : List (Exchange ρ)}

/-- **No answered window lies within one in play.** -/
theorem History.not_within (h : History read settings q log p) :
    ∀ x ∈ log, ∀ v ∈ p.inPlay, ¬x.query.window.Within v.window := by
  induction h with
  | start => simp
  | @step log p rest w reply records h hw _ ih =>
      have hs := hw.settles records
      have hwplay := hs.mem_inPlay
      -- it is enough that `w` does not lie within `v`, and that `v` was in play or lies in `w`
      suffices hv : ∀ v ∈ (rest.settle settings.threshold w records).inPlay,
          ¬w.window.Within v.window ∧ (v ∈ p.inPlay ∨ v.window.Within w.window) by
        intro x hx v hvplay
        obtain ⟨hout, hold⟩ := hv v hvplay
        rcases List.mem_append.mp hx with hx | hx
        · rcases hold with hold | hold
          · exact ih x hx v hold
          · exact fun hin => ih x hx w hwplay (hin.trans hold)
        · rw [List.mem_singleton.mp hx]
          exact hout
      intro v hv
      cases hs with
      | split _ halves before after _ _ =>
          obtain ⟨u₁, u₂, hu, rfl, rfl⟩ := FlowQuery.split?_eq_some.mp halves
          obtain ⟨⟨hl, hl'⟩, hr, hr'⟩ := Window.within_of_split? hu
          rcases List.mem_cons.mp (after.mem_iff.mp hv) with rfl | hv
          · exact ⟨hl', Or.inr hl⟩
          rcases List.mem_cons.mp hv with rfl | hv
          · exact ⟨hr', Or.inr hr⟩
          · exact ⟨(h.reachable.apart_of_perm before v hv).not_within,
              Or.inl (before.mem_iff.mpr (List.mem_cons_of_mem _ hv))⟩
      | leaf _ before after _ _ =>
          have hv := after.mem_iff.mp hv
          exact ⟨(h.reachable.apart_of_perm before v hv).not_within,
            Or.inl (before.mem_iff.mpr (List.mem_cons_of_mem _ hv))⟩

/-- **No window is asked for twice.** -/
theorem History.nodup_windows (h : History read settings q log p) :
    (log.map (·.query.window)).Nodup := by
  induction h with
  | start => exact List.nodup_nil
  | @step log p rest w reply records h hw _ ih =>
      have hwplay := (hw.settles records).mem_inPlay
      rw [List.map_append, List.map_singleton]
      refine List.nodup_append.mpr ⟨ih, List.nodup_singleton _, ?_⟩
      intro v hv v' hv' heq
      obtain ⟨x, hx, rfl⟩ := List.mem_map.mp hv
      rw [List.mem_singleton.mp hv'] at heq
      have hwithin : x.query.window.Within w.window := heq ▸ Window.within_refl _
      exact h.not_within x hx w hwplay hwithin

lemma History.exchange_inj (h : History read settings q log p) {x y : Exchange ρ} (hx : x ∈ log)
    (hy : y ∈ log) (heq : x.query.window = y.query.window) : x = y :=
  List.inj_on_of_nodup_map h.nodup_windows hx hy heq

/-! ## Leaves and answers -/

/-- Every leaf has the answer to its window. -/
lemma History.exists_exchange (h : History read settings q log p) :
    ∀ l ∈ p.leaves, ∃ x ∈ log, x.query.window = l.window ∧
      read x.query x.reply = .ok l.records := by
  induction h with
  | start => simp [Progress.start]
  | @step log p rest w reply records h hw hr ih =>
      have old : ∀ l ∈ p.leaves, ∃ x ∈ log ++ [⟨w, reply⟩], x.query.window = l.window ∧
          read x.query x.reply = .ok l.records := by
        intro l hl
        obtain ⟨x, hx, hxl⟩ := ih l hl
        exact ⟨x, List.mem_append_left _ hx, hxl⟩
      intro l hl
      cases hw.settles records with
      | split _ _ _ _ leaves _ =>
          rw [leaves] at hl
          exact old l hl
      | leaf _ _ _ leaves _ =>
          rw [leaves] at hl
          rcases List.mem_append.mp hl with hl | hl
          · exact old l hl
          · rw [List.mem_singleton.mp hl]
            exact ⟨⟨w, reply⟩, by simp, rfl, hr⟩

/-- An answer that did not become a leaf reached the threshold, and its window has halves. -/
lemma History.leaf_or_halved (h : History read settings q log p) :
    ∀ x ∈ log, ∃ records, read x.query x.reply = .ok records ∧
      (⟨x.query.window, records⟩ ∈ p.leaves ∨
        settings.threshold ≤ records.length ∧ x.query.window.split? ≠ none) := by
  induction h with
  | start => simp
  | @step log p rest w reply records h hw hr ih =>
      intro x hx
      cases hw.settles records with
      | split full halves _ _ leaves _ =>
          rw [leaves]
          rcases List.mem_append.mp hx with hx | hx
          · exact ih x hx
          · rw [List.mem_singleton.mp hx]
            obtain ⟨u, v, huv, -, -⟩ := FlowQuery.split?_eq_some.mp halves
            exact ⟨records, hr, Or.inr ⟨full, by rw [huv]; exact Option.some_ne_none _⟩⟩
      | leaf _ _ _ leaves _ =>
          rw [leaves]
          rcases List.mem_append.mp hx with hx | hx
          · obtain ⟨records', hr', hleaf⟩ := ih x hx
            exact ⟨records', hr', hleaf.imp_left fun hl => List.mem_append_left _ hl⟩
          · rw [List.mem_singleton.mp hx]
            exact ⟨records, hr, Or.inl (by simp)⟩

lemma History.leaf_or_full (h : History read settings q log p) :
    ∀ x ∈ log, ∃ records, read x.query x.reply = .ok records ∧
      (⟨x.query.window, records⟩ ∈ p.leaves ∨ settings.threshold ≤ records.length) := by
  intro x hx
  obtain ⟨records, hr, hleaf⟩ := h.leaf_or_halved x hx
  exact ⟨records, hr, hleaf.imp_right And.left⟩

/-- A leaf that reached the threshold has no halves. -/
lemma Reachable.split?_of_full {answers : Answers} (h : Reachable answers settings q p) :
    ∀ l ∈ p.leaves, settings.threshold ≤ l.records.length → l.window.split? = none := by
  induction h with
  | start => simp [Progress.start]
  | step _ hs ih =>
      obtain ⟨w, records, -, hs⟩ := hs.settles
      cases hs with
      | split _ _ _ _ leaves _ =>
          rw [leaves]
          exact ih
      | leaf unsplit _ _ leaves _ =>
          intro l hl hfull
          rw [leaves] at hl
          rcases List.mem_append.mp hl with hl | hl
          · exact ih l hl hfull
          · rw [List.mem_singleton.mp hl] at hfull ⊢
            exact Option.map_eq_none_iff.mp (unsplit.resolve_left (Nat.not_lt.mpr hfull))

/-- **A leaf has no warning exactly if its answer stayed below the threshold.** -/
lemma Reachable.unwarned_iff {answers : Answers} (h : Reachable answers settings q p) {l : Leaf}
    (hl : l ∈ p.leaves) :
    (∀ t ∈ p.truncated, t.window ≠ l.window) ↔ l.records.length < settings.threshold := by
  rw [truncated_eq h]
  constructor
  · intro hnone
    by_contra hfull
    refine hnone l.warning (List.mem_map_of_mem (List.mem_filter.mpr ⟨hl, ?_⟩)) rfl
    simpa [Leaf.isFull] using hfull
  · intro hshort t ht heq
    obtain ⟨m, hm, rfl⟩ := List.mem_map.mp ht
    obtain ⟨hm, hfull⟩ := List.mem_filter.mp hm
    obtain rfl := h.leaf_inj hm hl heq
    simp only [Leaf.isFull, decide_eq_true_eq] at hfull
    omega

end Fetch

end TrafficDigest
