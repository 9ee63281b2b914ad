import TrafficDigest.Fetch.Trace
import TrafficDigest.Proofs.Fetch.Invariant
import TrafficDigest.Proofs.Fetch.Summary

/-!
# All or nothing

A fetch that observes a failing answer stops there, and nothing that it had so far comes out.  This
is a statement about the whole course of a fetch, so it is proved from the way in which a course may
end: `Traced.ends` for a run, `TracedFetch.ends` for a query, and `TracedAll.ends` for a list of
queries.  Each says that the answers before the last event were no failures, and that the last event
is a failing answer exactly if the outcome is its error; the one other error is that of a threshold
of zero, which comes before any query is started.

`all_or_nothing` puts this together for fetches and for summaries.
-/

namespace TrafficDigest.Fetch

variable {answers : Answers} {settings : Settings} {q : FlowQuery} {qs : List FlowQuery}
  {p : Progress} {events : List Event} {attempts : List Attempt}

/-! ## Courses without failures -/

/-- No answer among the events is a failure. -/
def Quiet (events : List Event) : Prop := ∀ w e, Event.answered w (.error e) ∉ events

lemma quiet_starting (limit : Nat) (p : Progress) : Quiet (p.starting limit) := by
  intro w e h
  obtain ⟨v, -, hv⟩ := List.mem_map.mp h
  cases hv

lemma quiet_append {before after : List Event} (hb : Quiet before) (ha : Quiet after) :
    Quiet (before ++ after) := by
  intro w e h
  rcases List.mem_append.mp h with h | h
  · exact hb w e h
  · exact ha w e h

lemma quiet_answered {w : FlowQuery} {records : List FlowRecord} (h : Quiet events) :
    Quiet (.answered w (.ok records) :: events) := by
  intro v e hv
  rcases List.mem_cons.mp hv with hv | hv
  · cases hv
  · exact h v e hv

/-- In a list with no marked member before its end, a marked member stands at the end. -/
lemma eq_last_of_marked {α : Type} {marked : α → Prop} {before first after : List α} {x y : α}
    (hbefore : ∀ z ∈ before, ¬marked z) (hy : marked y)
    (h : before ++ [x] = first ++ y :: after) : x = y ∧ after = [] := by
  rcases List.append_eq_append_iff.mp h with ⟨rest, rfl, hrest⟩ | ⟨rest, rfl, hrest⟩
  · cases rest with
    | nil =>
        cases hrest
        exact ⟨rfl, rfl⟩
    | cons z rest => simp at hrest
  · cases rest with
    | nil =>
        cases hrest
        exact ⟨rfl, rfl⟩
    | cons z rest =>
        cases hrest
        exact absurd hy (hbefore y (by simp))

/-! ## How a course ends -/

/-- **A run ends with the first failing answer**, or without one. -/
theorem Traced.ends {r : Except FlowError Progress} (h : Traced answers settings p events r) :
    (∃ last, r = .ok last ∧ Quiet events) ∨
      ∃ before w e, r = .error e ∧ events = before ++ [.answered w (.error e)] ∧
        Quiet before := by
  induction h with
  | @done p _ => exact Or.inl ⟨_, rfl, quiet_starting _ p⟩
  | @fail p _ w e _ _ => exact Or.inr ⟨_, w, e, rfl, rfl, quiet_starting _ p⟩
  | @step p _ v records events r _ _ _ ih =>
      have hstart : Quiet (p.starting settings.limit) := quiet_starting _ p
      rcases ih with ⟨last, rfl, hquiet⟩ | ⟨before, w, e, rfl, rfl, hquiet⟩
      · exact Or.inl ⟨last, rfl, quiet_append hstart (quiet_answered hquiet)⟩
      · refine Or.inr ⟨p.starting settings.limit ++ .answered v (.ok records) :: before, w, e, rfl,
          ?_, quiet_append hstart (quiet_answered hquiet)⟩
        simp

/-- The ends of the fetch of one query. -/
inductive Ends (settings : Settings) (events : List Event) (r : Except FlowError Outcome) : Prop
  | refused (zero : settings.threshold = 0) (unseen : events = [])
      (result : r = .error .invalidThreshold)
  | complete {o : Outcome} (pos : 0 < settings.threshold) (result : r = .ok o)
      (quiet : Quiet events)
  | failed {before : List Event} {w : FlowQuery} {e : FlowError} (pos : 0 < settings.threshold)
      (last : events = before ++ [.answered w (.error e)]) (result : r = .error e)
      (quiet : Quiet before)

lemma Settings.check_cases (s : Settings) :
    (s.threshold = 0 ∧ s.check = .error .invalidThreshold) ∨
      (0 < s.threshold ∧ s.check = .ok ()) := by
  unfold Settings.check
  by_cases h : s.threshold = 0
  · exact Or.inl ⟨h, if_pos h⟩
  · exact Or.inr ⟨Nat.pos_of_ne_zero h, if_neg h⟩

theorem TracedFetch.ends {r : Except FlowError Outcome}
    (h : TracedFetch answers settings q events r) : Ends settings events r := by
  rcases settings.check_cases with ⟨hzero, hcheck⟩ | ⟨hpos, hcheck⟩
  · cases h with
    | refused h =>
        cases h.symm.trans hcheck
        exact .refused hzero rfl rfl
    | ended h _ => cases h.symm.trans hcheck
  · cases h with
    | refused h => cases h.symm.trans hcheck
    | ended _ hr =>
        rcases hr.ends with ⟨last, rfl, hquiet⟩ | ⟨before, w, e, rfl, hlast, hquiet⟩
        · exact .complete hpos rfl hquiet
        · exact .failed hpos hlast rfl hquiet

/-- The ends of the fetch of a list of queries. -/
inductive EndsAll (settings : Settings) (qs : List FlowQuery) (attempts : List Attempt)
    (r : Except FlowError Outcome) : Prop
  | refused {q : FlowQuery} (zero : settings.threshold = 0) (first : qs.head? = some q)
      (unseen : attempts = [⟨q, []⟩]) (result : r = .error .invalidThreshold)
  | complete {o : Outcome} (pos : qs = [] ∨ 0 < settings.threshold)
      (all : attempts.map (·.query) = qs) (result : r = .ok o)
      (quiet : ∀ a ∈ attempts, Quiet a.events)
  | failed {earlier : List Attempt} {q : FlowQuery} {before : List Event} {w : FlowQuery}
      {e : FlowError} (pos : 0 < settings.threshold)
      (last : attempts = earlier ++ [⟨q, before ++ [.answered w (.error e)]⟩])
      (result : r = .error e)
      (quietEarlier : ∀ a ∈ earlier, Quiet a.events) (quiet : Quiet before)

/-- **A list of queries ends with the first failing answer to any of them**, or without one. -/
theorem TracedAll.ends {r : Except FlowError Outcome}
    (h : TracedAll answers settings qs attempts r) : EndsAll settings qs attempts r := by
  induction h with
  | nil => exact .complete (Or.inl rfl) rfl rfl (by simp)
  | @fail q qs events e h =>
      cases h.ends with
      | refused zero unseen result =>
          cases result
          exact .refused zero rfl (by rw [unseen]) rfl
      | complete _ result _ => cases result
      | failed pos last result quiet =>
          cases result
          subst last
          exact .failed pos (List.nil_append _).symm rfl (by simp) quiet
  | @cons q qs events attempts first r h _ ih =>
      cases h.ends with
      | refused _ _ result => cases result
      | failed _ _ result _ => cases result
      | complete pos _ hquiet =>
          cases ih with
          | refused zero _ _ _ => omega
          | complete _ all result quiet =>
              cases result
              refine .complete (Or.inr pos) (congrArg (q :: ·) all) rfl ?_
              exact List.forall_mem_cons.mpr ⟨hquiet, quiet⟩
          | @failed earlier _ _ _ _ _ last result quietEarlier quiet =>
              cases result
              subst last
              exact .failed pos (List.cons_append ..).symm rfl
                (List.forall_mem_cons.mpr ⟨hquiet, quietEarlier⟩) quiet

/-! ## Events belong to their query -/

lemma query_of_starting {limit : Nat} :
    ∀ event ∈ p.starting limit, event.query ∈ p.inPlay := by
  intro event h
  obtain ⟨w, hw, rfl⟩ := List.mem_map.mp h
  exact List.mem_append_right _ (List.mem_of_mem_take hw)

/-- What passes to halves holds of all queries that the events are about. -/
lemma Traced.forall_query {P : FlowQuery → Prop} {r : Except FlowError Progress}
    (h : Traced answers settings p events r) (hhalves : PassesToHalves P)
    (hp : ∀ w ∈ p.inPlay, P w) : ∀ event ∈ events, P event.query := by
  induction h with
  | done _ => exact fun event h => hp _ (query_of_starting event h)
  | fail hw _ =>
      intro event h
      rcases List.mem_append.mp h with h | h
      · exact hp _ (query_of_starting event h)
      · rw [List.mem_singleton.mp h]
        exact hp _ hw.mem_inPlay
  | step hw _ _ ih =>
      intro event h
      rcases List.mem_append.mp h with h | h
      · exact hp _ (query_of_starting event h)
      rcases List.mem_cons.mp h with rfl | h
      · exact hp _ hw.mem_inPlay
      · refine ih ((hw.settles _).forall_inPlay (fun left right _ halves => ?_) hp) event h
        exact hhalves _ left right halves (hp _ hw.mem_inPlay)

lemma TracedFetch.eq_withWindow {r : Except FlowError Outcome}
    (h : TracedFetch answers settings q events r) :
    ∀ event ∈ events, event.query = q.withWindow event.query.window := by
  cases h with
  | refused _ => simp
  | ended _ hr =>
      refine hr.forall_query (passesToHalves_eq_withWindow q) ?_
      simp [FlowQuery.withWindow]

/-- The events of an attempt are about its query, over one window or another. -/
lemma TracedAll.eq_withWindow {r : Except FlowError Outcome}
    (h : TracedAll answers settings qs attempts r) :
    ∀ a ∈ attempts, ∀ event ∈ a.events, event.query = a.query.withWindow event.query.window := by
  induction h with
  | nil => simp
  | fail h => simpa using h.eq_withWindow
  | cons h _ ih => exact List.forall_mem_cons.mpr ⟨h.eq_withWindow, ih⟩

/-! ## All or nothing -/

/-- An answer that was taken is a failure. -/
def Observed (attempts : List Attempt) : Prop :=
  ∃ a ∈ attempts, ∃ w e, Event.answered w (.error e) ∈ a.events

lemma not_observed (h : ∀ a ∈ attempts, Quiet a.events) : ¬Observed attempts := by
  rintro ⟨a, ha, w, e, he⟩
  exact h a ha w e he

/-- A fetch is an error exactly if there is a reason for one. -/
lemma TracedAll.eq_error_iff {r : Except FlowError Outcome}
    (h : TracedAll answers settings qs attempts r) :
    (∃ e, r = .error e) ↔ (settings.threshold = 0 ∧ qs ≠ []) ∨ Observed attempts := by
  cases h.ends with
  | refused zero first _ result =>
      have hne : qs ≠ [] := by
        rintro rfl
        cases first
      exact iff_of_true ⟨_, result⟩ (Or.inl ⟨zero, hne⟩)
  | complete pos _ result quiet =>
      refine iff_of_false ?_ ?_
      · rintro ⟨e, he⟩
        cases result.symm.trans he
      · rintro (⟨hzero, hne⟩ | hobserved)
        · exact pos.elim hne (by omega)
        · exact not_observed quiet hobserved
  | @failed _ q before w e _ last result _ _ =>
      have hlast : ⟨q, before ++ [.answered w (.error e)]⟩ ∈ attempts := by simp [last]
      exact iff_of_true ⟨e, result⟩ (Or.inr ⟨_, hlast, w, e, by simp⟩)

/-- A failing answer is the last event of all, and the outcome is its error. -/
lemma TracedAll.of_failure {r : Except FlowError Outcome}
    (h : TracedAll answers settings qs attempts r) {earlier later : List Attempt} {a : Attempt}
    {before after : List Event} {w : FlowQuery} {e : FlowError}
    (hattempts : attempts = earlier ++ a :: later)
    (hevents : a.events = before ++ .answered w (.error e) :: after) :
    r = .error e ∧ after = [] ∧ later = [] := by
  have hmem : a ∈ attempts := by simp [hattempts]
  have hfailed : Event.answered w (.error e) ∈ a.events := by simp [hevents]
  cases h.ends with
  | refused _ _ unseen _ =>
      rw [unseen, List.mem_singleton] at hmem
      rw [hmem] at hfailed
      cases hfailed
  | complete _ _ _ quiet => exact absurd hfailed (quiet a hmem w e)
  | @failed others _ answered _ _ _ last result quietOthers quiet =>
      -- of the attempts only the last has a failing answer, and of its events only the last is one
      have hothers : ∀ b ∈ others, ¬∃ w e, Event.answered w (.error e) ∈ b.events :=
        fun b hb ⟨w, e, he⟩ => quietOthers b hb w e he
      obtain ⟨rfl, hlater⟩ := eq_last_of_marked hothers ⟨w, e, hfailed⟩ (last.symm.trans hattempts)
      have hanswered : ∀ x ∈ answered, ¬∃ w e, x = Event.answered w (.error e) :=
        fun x hx ⟨w, e, he⟩ => quiet w e (he ▸ hx)
      obtain ⟨heq, hafter⟩ := eq_last_of_marked hanswered ⟨w, e, rfl⟩ hevents
      cases heq
      exact ⟨result, hafter, hlater⟩

lemma TracedAll.unseen_of_zero {r : Except FlowError Outcome}
    (h : TracedAll answers settings qs attempts r) (hzero : settings.threshold = 0) :
    ∀ a ∈ attempts, a.events = [] := by
  cases h.ends with
  | refused _ _ unseen _ => simp [unseen]
  | complete pos all _ _ =>
      have hqs : qs = [] := pos.resolve_right (by omega)
      rw [hqs, List.map_eq_nil_iff] at all
      simp [all]
  | failed pos _ _ _ _ => omega

lemma TracedAll.queries_prefix {r : Except FlowError Outcome}
    (h : TracedAll answers settings qs attempts r) : attempts.map (·.query) <+: qs := by
  induction h with
  | nil => exact List.prefix_refl _
  | fail _ => exact ⟨_, rfl⟩
  | cons _ _ ih => exact (List.prefix_cons_inj _).mpr ih

/-- **Fetching is all or nothing.**  Take the whole course of fetching a list of queries, from any
source and under any schedule.  The fetch, and the summary made of it, is an error exactly if the
threshold is zero and there was something to ask for, or an answer that was taken is a failure.
After a failing answer nothing more is started or taken, no later query is taken up, and the outcome
is that failure and nothing else, whatever was fetched before.  With a threshold of zero nothing is
started. -/
theorem all_or_nothing (resolve : Resolver) {r : Except FlowError Outcome}
    (h : TracedAll answers settings qs attempts r) :
    let summary := r.map (FlowSummary.ofOutcome resolve)
    let reason := (settings.threshold = 0 ∧ qs ≠ []) ∨ Observed attempts
    ((∃ e, r = .error e) ↔ reason) ∧
    ((∃ e, summary = .error e) ↔ reason) ∧
    (∀ (earlier later : List Attempt) (a : Attempt) (before after : List Event) (w : FlowQuery)
      (e : FlowError), attempts = earlier ++ a :: later →
      a.events = before ++ .answered w (.error e) :: after →
      r = .error e ∧ summary = .error e ∧ after = [] ∧ later = []) ∧
    (settings.threshold = 0 → ∀ a ∈ attempts, a.events = []) ∧
    attempts.map (·.query) <+: qs ∧
    ∀ a ∈ attempts, ∀ event ∈ a.events, event.query = a.query.withWindow event.query.window := by
  intro summary reason
  have hsummary : ∀ e, summary = .error e ↔ r = .error e := fun e => map_eq_error
  refine ⟨h.eq_error_iff, ?_, ?_, h.unseen_of_zero, h.queries_prefix, h.eq_withWindow⟩
  · simp only [hsummary]
    exact h.eq_error_iff
  · intro earlier later a before after w e hattempts hevents
    obtain ⟨hr, hafter, hlater⟩ := h.of_failure hattempts hevents
    exact ⟨hr, (hsummary e).mpr hr, hafter, hlater⟩

/-- The left half of the first four nanoseconds fails: that is the outcome, the right half was not
started, and the query that comes next in the list was not taken up. -/
theorem all_or_nothing_fourNanos :
    ∃ a : Attempt, ∃ e, TracedAll (fun _ _ => True) ⟨2, 1⟩ [fourNanos, fourNanos] [a] (.error e) ∧
      a.events.map (·.query.window.stop) = [4, 4, 2, 2].map .ofNanos ∧ Observed [a] ∧
      [a].map (·.query) <+: [fourNanos, fourNanos] := by
  let left : FlowQuery := fourNanos.withWindow ⟨.ofNanos 0, .ofNanos 2, by decide⟩
  let right : FlowQuery := fourNanos.withWindow ⟨.ofNanos 2, .ofNanos 4, by decide⟩
  have hwhole : Takes ⟨2, 1⟩ (.start fourNanos) fourNanos ⟨[], [], [], []⟩ :=
    @Takes.mk _ (.start fourNanos) [] [] fourNanos rfl
  have hleft : Takes ⟨2, 1⟩ ⟨[left, right], [], [], []⟩ left ⟨[right], [], [], []⟩ :=
    @Takes.mk _ ⟨[left, right], [], [], []⟩ [] [] left rfl
  let answers : Answers := fun _ _ => True
  have hfailed : Traced answers ⟨2, 1⟩ _ _ (.error (.sourceFailure "late")) :=
    .fail hleft trivial
  have hrun := @Traced.step answers _ _ _ _ [flowAt 0, flowAt 1] _ _ hwhole trivial hfailed
  have h : TracedAll answers ⟨2, 1⟩ [fourNanos, fourNanos] _ _ := .fail (.ended rfl hrun)
  obtain ⟨hreason, -, -, -, hprefix, -⟩ := all_or_nothing (·.ip) h
  exact ⟨_, _, h, by decide, (hreason.mp ⟨_, rfl⟩).resolve_left (by decide), hprefix⟩

end TrafficDigest.Fetch
