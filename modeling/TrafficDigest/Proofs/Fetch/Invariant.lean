import TrafficDigest.Proofs.Fetch.Confluence
import TrafficDigest.Proofs.Fetch.Windows

/-!
# What holds at every moment of a fetch

A fetch alternates between answers and sending.  After each answer it sends the queries that wait,
one at a time, until enough are in flight; so its moments are the states `p.fill n` for the states
`p` that histories lead to and the numbers `n` up to the limit.  `scheduler_invariant` says what
holds at each of them, under every schedule and whatever the source answers:

* the windows of the leaves and of the queries in play tile the window of the query;
* no more queries are in flight than the settings allow (`History.length_inFlight_le`);
* every query in play is the one that was asked for, over another window
  (`Reachable.forall_inPlay`);
* no window was sent twice, counting those that have no answer yet (`History.nodup_asked`).

The source is left open: `Reachable.exists_history_verbatim` gives a history to every state that a
fetch from any source may come to.
-/

namespace TrafficDigest.Fetch

variable {settings : Settings} {q : FlowQuery} {p : Progress}

/-! ## Any source -/

/-- Any answer may come, and it means itself. -/
def verbatim : Reading (Except FlowError (List FlowRecord)) := fun _ answer => answer

/-- **Every state that a fetch from any source may come to has a history.** -/
theorem Reachable.exists_history_verbatim {answers : Answers}
    (h : Reachable answers settings q p) : ∃ log, History verbatim settings q log p :=
  (h.mono fun _ a _ => ⟨a, rfl⟩ : Reachable (.ofReading verbatim) settings q p).exists_history

/-! ## What halves inherit -/

/-- What holds of all that is in play still does after an answer, if it holds of the halves of the
window where that is halved. -/
lemma Settles.forall_inPlay {threshold : Nat} {w : FlowQuery} {records : List FlowRecord}
    {p' : Progress} {P : FlowQuery → Prop} (h : Settles threshold w records p p')
    (hhalves : ∀ left right, threshold ≤ records.length → w.split? = some (left, right) →
      P left ∧ P right)
    (hp : ∀ v ∈ p.inPlay, P v) : ∀ v ∈ p'.inPlay, P v := by
  intro v hv
  cases h with
  | split full halves before after _ _ =>
      obtain ⟨hl, hr⟩ := hhalves _ _ full halves
      rcases List.mem_cons.mp (after.mem_iff.mp hv) with rfl | hv
      · exact hl
      rcases List.mem_cons.mp hv with rfl | hv
      · exact hr
      · exact hp v (before.mem_iff.mpr (List.mem_cons_of_mem _ hv))
  | leaf _ before after _ _ =>
      exact hp v (before.mem_iff.mpr (List.mem_cons_of_mem _ (after.mem_iff.mp hv)))

/-- **What passes to halves** holds of all that is in play. -/
theorem Reachable.forall_inPlay {answers : Answers} {P : FlowQuery → Prop}
    (h : Reachable answers settings q p) (hhalves : PassesToHalves P) (hq : P q) :
    ∀ w ∈ p.inPlay, P w := by
  induction h with
  | start => simpa using hq
  | step _ hs ih =>
      obtain ⟨w, _, -, hs⟩ := hs.settles
      exact hs.forall_inPlay
        (fun left right _ halves => hhalves w left right halves (ih w hs.mem_inPlay)) ih

/-- Nothing but the window tells a query in play from the one that was asked for. -/
lemma Reachable.eq_withWindow {answers : Answers} (h : Reachable answers settings q p) :
    ∀ w ∈ p.inPlay, w = q.withWindow w.window :=
  h.forall_inPlay (passesToHalves_eq_withWindow q) rfl

/-! ## In flight -/

lemma length_inFlight_fill (n : Nat) (p : Progress) :
    (p.fill n).inFlight.length ≤ max p.inFlight.length n := by
  simp only [Progress.fill, List.length_append, List.length_take]
  omega

lemma Takes.length_inFlight_le {rest : Progress} {w : FlowQuery}
    (h : Takes settings p w rest) (hp : p.inFlight.length ≤ settings.limit) :
    rest.inFlight.length ≤ settings.limit := by
  obtain ⟨h⟩ := h
  have hfill := length_inFlight_fill settings.limit p
  rw [h] at hfill
  simp only [List.length_append, List.length_cons] at hfill ⊢
  omega

lemma inFlight_settle (threshold : Nat) (w : FlowQuery) (records : List FlowRecord)
    (p : Progress) : (p.settle threshold w records).inFlight = p.inFlight := by
  unfold Progress.settle
  simp only
  split
  · split <;> rfl
  · rfl

section History

variable {ρ : Type} {read : Reading ρ} {log : List (Exchange ρ)}

/-- **No more queries are in flight than may be.** -/
theorem History.length_inFlight_le (h : History read settings q log p) :
    p.inFlight.length ≤ settings.limit := by
  induction h with
  | start => exact Nat.zero_le _
  | step _ hw _ ih =>
      rw [inFlight_settle]
      exact hw.length_inFlight_le ih

/-! ## Queries that were sent -/

/-- **The queries that were sent:** those that were answered and those in flight. -/
def asked (log : List (Exchange ρ)) (p : Progress) : List FlowQuery :=
  log.map (·.query) ++ p.inFlight

lemma mem_inPlay_of_sent {n : Nat} : ∀ w ∈ (p.fill n).inFlight, w ∈ p.inPlay := by
  intro w hw
  rw [← Progress.inPlay_fill n p]
  exact List.mem_append_left _ hw

/-- What passes from a query to its halves holds of all that was answered. -/
lemma History.forall_log {P : FlowQuery → Prop} (h : History read settings q log p)
    (hhalves : PassesToHalves P) (hq : P q) : ∀ x ∈ log, P x.query := by
  induction h with
  | start => simp
  | @step log p rest w reply _ h hw _ ih =>
      intro x hx
      rcases List.mem_append.mp hx with hx | hx
      · exact ih x hx
      · rw [List.mem_singleton.mp hx]
        exact h.reachable.forall_inPlay hhalves hq w hw.mem_inPlay

/-- What passes from a query to its halves holds of all that was sent. -/
lemma History.forall_asked {P : FlowQuery → Prop} (h : History read settings q log p)
    (hhalves : PassesToHalves P) (hq : P q) (n : Nat) : ∀ w ∈ asked log (p.fill n), P w := by
  intro w hw
  rcases List.mem_append.mp hw with hw | hw
  · obtain ⟨x, hx, rfl⟩ := List.mem_map.mp hw
    exact h.forall_log hhalves hq x hx
  · exact h.reachable.forall_inPlay hhalves hq w (mem_inPlay_of_sent w hw)

/-- **No window was sent twice.** -/
theorem History.nodup_asked (h : History read settings q log p) (n : Nat) :
    ((asked log (p.fill n)).map (·.window)).Nodup := by
  have hinPlay : (p.inPlay.map (·.window)).Nodup :=
    (List.pairwise_append.mp h.reachable.pairwise_apart).2.1.imp fun hvw => hvw.ne
  have hsub : ((p.fill n).inFlight.map (·.window)).Sublist ((p.fill n).inPlay.map (·.window)) :=
    (List.sublist_append_left _ _).map _
  rw [Progress.inPlay_fill] at hsub
  unfold asked
  rw [List.map_append, List.map_map]
  refine List.nodup_append.mpr ⟨h.nodup_windows, hinPlay.sublist hsub, ?_⟩
  intro v hv v' hv' heq
  obtain ⟨x, hx, rfl⟩ := List.mem_map.mp hv
  obtain ⟨w, hw, rfl⟩ := List.mem_map.mp hv'
  have hwithin : x.query.window.Within w.window := heq ▸ Window.within_refl _
  exact h.not_within x hx w (mem_inPlay_of_sent w hw) hwithin

/-! ## Every moment -/

lemma windows_fill (n : Nat) (p : Progress) : (p.fill n).windows = p.windows := by
  unfold Progress.windows
  rw [Progress.inPlay_fill]
  rfl

/-- An instant lies in the window of the query exactly if it lies in one of the windows. -/
lemma Reachable.contains_iff {answers : Answers} (h : Reachable answers settings q p)
    (t : Instant) :
    q.window.contains t = true ↔ ∃ w ∈ p.windows, w.contains t = true := by
  obtain ⟨ws, htiles, hperm⟩ := h.exists_tiling
  rw [Window.contains_iff]
  constructor
  · rintro ⟨hstart, hstop⟩
    obtain ⟨w, hw, ht⟩ := htiles.exists_contains hstart hstop
    exact ⟨w, hperm.mem_iff.mp hw, ht⟩
  · rintro ⟨w, hw, ht⟩
    obtain ⟨hstart, hstop⟩ := htiles.bounds w (hperm.mem_iff.mpr hw)
    obtain ⟨ht₁, ht₂⟩ := Window.contains_iff.mp ht
    exact ⟨Instant.le_trans hstart ht₁, Instant.lt_of_lt_of_le ht₂ hstop⟩

/-- **The scheduler invariant.**  Take any moment of any fetch, whatever its source has answered so
far and in whichever order: after some answers, with some of the waiting queries sent.  The windows
of the leaves, of the queries in flight and of those that wait are not empty, are apart from each
other, and hold exactly the instants of the query's window; the number in flight is within the
limit; a query in play differs from the one asked for in its window only; and no window was sent
twice. -/
theorem scheduler_invariant (h : History read settings q log p) {n : Nat}
    (hn : n ≤ settings.limit) :
    let now := p.fill n
    (∀ w ∈ now.windows, w.start < w.stop) ∧
    now.windows.Pairwise Window.Apart ∧
    (∀ t, q.window.contains t = true ↔ ∃ w ∈ now.windows, w.contains t = true) ∧
    now.inFlight.length ≤ max settings.concurrency 1 ∧
    (∀ w ∈ now.inFlight ++ now.pending, w.verdicts = q.verdicts ∧ w.group = q.group ∧
      w.excluded = q.excluded ∧ w.maxRecords = q.maxRecords) ∧
    ((asked log now).map (·.window)).Nodup := by
  intro now
  have hwindows : now.windows = p.windows := windows_fill n p
  refine ⟨fun w _ => w.start_lt_stop, ?_, ?_, ?_, ?_, h.nodup_asked n⟩
  · rw [hwindows]
    exact h.reachable.pairwise_apart
  · rw [hwindows]
    exact h.reachable.contains_iff
  · calc now.inFlight.length
        ≤ max p.inFlight.length n := length_inFlight_fill n p
      _ ≤ settings.limit := Nat.max_le.mpr ⟨h.length_inFlight_le, hn⟩
  · intro w hw
    have hplay : w ∈ p.inPlay := by
      rw [← Progress.inPlay_fill n p]
      exact hw
    rw [h.reachable.eq_withWindow w hplay]
    exact ⟨rfl, rfl, rfl, rfl⟩

/-- After a full answer to the first four nanoseconds both halves are in flight, next to each
other. -/
theorem scheduler_invariant_fourNanos :
    ∃ log p, History verbatim ⟨2, 2⟩ fourNanos log p ∧ log.length = 1 ∧
      (p.fill 2).inFlight.length = 2 ∧ (p.fill 2).windows.Pairwise Window.Apart ∧
      ((asked log (p.fill 2)).map (·.window)).Nodup := by
  have hw : Takes ⟨2, 2⟩ (.start fourNanos) fourNanos ⟨[], [], [], []⟩ :=
    @Takes.mk _ (.start fourNanos) [] [] fourNanos rfl
  have hr : verbatim fourNanos (.ok [flowAt 0, flowAt 1]) = .ok [flowAt 0, flowAt 1] := rfl
  have h := History.step .start hw hr
  obtain ⟨-, hapart, -, -, -, hnodup⟩ :=
    scheduler_invariant h (show 2 ≤ Settings.limit ⟨2, 2⟩ by decide)
  exact ⟨_, _, h, rfl, by decide, hapart, hnodup⟩

end History

end TrafficDigest.Fetch
