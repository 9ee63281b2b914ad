import TrafficDigest.Proofs.Fetch.Failure
import TrafficDigest.Proofs.Window.Halves

/-!
# What a fetch costs

A fetch from any source, however it answers, comes to an end, and how often it asks is known from
the width of the window.  Two counts say so, which hold after every answer under every schedule:

* every answer makes one leaf of one query in play or two queries of one, so the answers are one
  less than twice the leaves and once the queries in play (`History.length_log`);
* leaves and queries in play tile the window, so there are no more of them than the window has
  nanoseconds (`Reachable.length_windows_le`).

A fetch that succeeds has nothing in play at its end, so the first count gives the exact number of
questions.  `Traced.exists_moment` goes from the events of a fetch to the history that they make.
-/

namespace TrafficDigest.Fetch

variable {settings : Settings} {q : FlowQuery} {p : Progress}

/-! ## Plain windows -/

lemma passesToHalves_plain : PassesToHalves fun w => w.window.Plain := by
  intro w left right hs hw
  obtain ⟨u, v, huv, rfl, rfl⟩ := FlowQuery.split?_eq_some.mp hs
  exact hw.halves huv

lemma passesToHalves_inRange :
    PassesToHalves fun w => w.window.Plain ∧ w.window.HalvesInRange := by
  intro w left right hs hw
  obtain ⟨u, v, huv, rfl, rfl⟩ := FlowQuery.split?_eq_some.mp hs
  obtain ⟨hu, hv⟩ := hw.1.halves huv
  obtain ⟨hu', hv'⟩ := hw.2.halves hw.1 huv
  exact ⟨⟨hu, hu'⟩, hv, hv'⟩

section History

variable {ρ : Type} {read : Reading ρ} {log : List (Exchange ρ)}

/-- The windows of the leaves and of the queries in play are plain. -/
lemma History.plain_windows (h : History read settings q log p) (hq : q.window.Plain) :
    ∀ w ∈ p.windows, w.Plain := by
  intro w hw
  rcases List.mem_append.mp hw with hw | hw
  · obtain ⟨l, hl, rfl⟩ := List.mem_map.mp hw
    obtain ⟨x, hx, heq, -⟩ := h.exists_exchange l hl
    exact heq ▸ h.forall_log passesToHalves_plain hq x hx
  · obtain ⟨v, hv, rfl⟩ := List.mem_map.mp hw
    exact h.reachable.forall_inPlay passesToHalves_plain hq v hv

/-! ## Two counts -/

/-- **There are no more windows than nanoseconds.** -/
lemma History.length_windows_le (h : History read settings q log p) (hq : q.window.Plain) :
    p.leaves.length + p.inPlay.length ≤ q.window.nanos := by
  obtain ⟨ws, htiles, hperm⟩ := h.reachable.exists_tiling
  have hlength := htiles.length_le fun w hw => h.plain_windows hq w (hperm.mem_iff.mp hw)
  have hstop : q.stop.toNanos = q.start.toNanos + q.window.nanos := hq.stop_eq
  rw [hperm.length_eq, Progress.windows, List.length_append, List.length_map, List.length_map]
    at hlength
  omega

/-- **Every answer makes one leaf of one query in play, or two queries of one.** -/
lemma History.length_log (h : History read settings q log p) :
    log.length + 1 = 2 * p.leaves.length + p.inPlay.length := by
  induction h with
  | start => rfl
  | @step log p rest w reply records h hw _ ih =>
      rw [List.length_append, List.length_singleton]
      cases hw.settles records with
      | split _ _ before after leaves _ =>
          rw [before.length_eq, List.length_cons] at ih
          rw [leaves, after.length_eq, List.length_cons, List.length_cons]
          omega
      | leaf _ before after leaves _ =>
          rw [before.length_eq, List.length_cons] at ih
          rw [leaves, after.length_eq, List.length_append, List.length_singleton]
          omega

/-- **At no moment have there been more questions** than one less than twice the width. -/
theorem History.length_asked_le (h : History read settings q log p) (hq : q.window.Plain)
    (n : Nat) : (asked log (p.fill n)).length ≤ 2 * q.window.nanos - 1 := by
  have hwindows := h.length_windows_le hq
  have hlog := h.length_log
  have hsent : (p.fill n).inFlight.length ≤ p.inPlay.length := by
    rw [← Progress.inPlay_fill n p]
    exact (List.sublist_append_left _ _).length_le
  rw [asked, List.length_append, List.length_map]
  omega

/-- The same once nothing is in play, exactly. -/
lemma History.length_asked (h : History read settings q log p) (hp : p.inPlay = []) (n : Nat) :
    (asked log (p.fill n)).length = 2 * p.leaves.length - 1 := by
  have hlog := h.length_log
  have hsent : (p.fill n).inFlight = [] :=
    (List.append_eq_nil_iff.mp ((Progress.inPlay_fill n p).trans hp)).1
  rw [asked, hsent, List.append_nil, List.length_map]
  rw [hp, List.length_nil] at hlog
  omega

end History

/-! ## Events -/

/-- The queries that were started, in their order. -/
def startedOf (events : List Event) : List FlowQuery :=
  events.filterMap fun
    | .started w => some w
    | .answered .. => none

/-- The answers that were taken and were no failures, in their order. -/
def answeredOf (events : List Event) : List (Exchange (Except FlowError (List FlowRecord))) :=
  events.filterMap fun
    | .answered w (.ok records) => some ⟨w, .ok records⟩
    | _ => none

lemma startedOf_starting (limit : Nat) (p : Progress) :
    startedOf (p.starting limit) = p.pending.take (limit - p.inFlight.length) := by
  rw [startedOf, Progress.starting, List.filterMap_map]
  exact List.filterMap_some

lemma answeredOf_starting (limit : Nat) (p : Progress) : answeredOf (p.starting limit) = [] := by
  rw [answeredOf, Progress.starting, List.filterMap_map]
  exact List.filterMap_eq_nil_iff.mpr fun _ _ => rfl

lemma answeredOf_step (limit : Nat) (p : Progress) (w : FlowQuery) (records : List FlowRecord)
    (events : List Event) :
    answeredOf (p.starting limit ++ .answered w (.ok records) :: events)
      = ⟨w, .ok records⟩ :: answeredOf events := by
  rw [answeredOf, List.filterMap_append, ← answeredOf, answeredOf_starting]
  rfl

lemma mem_of_mem_answeredOf {events : List Event}
    {x : Exchange (Except FlowError (List FlowRecord))} (h : x ∈ answeredOf events) :
    Event.answered x.query x.reply ∈ events := by
  obtain ⟨event, hevent, hx⟩ := List.mem_filterMap.mp h
  rcases event with w | ⟨w, _ | records⟩ <;> cases hx
  exact hevent

variable {log : List (Exchange (Except FlowError (List FlowRecord)))} {events : List Event}

lemma asked_fill (log : List (Exchange (Except FlowError (List FlowRecord)))) (limit : Nat)
    (p : Progress) :
    asked log (p.fill limit) = asked log p ++ startedOf (p.starting limit) := by
  rw [startedOf_starting, asked, asked, List.append_assoc]
  rfl

/-- What was asked for does not change when a query is answered. -/
lemma Takes.asked_perm {rest : Progress} {w : FlowQuery} (h : Takes settings p w rest)
    (log : List (Exchange (Except FlowError (List FlowRecord)))) (records : List FlowRecord) :
    (asked (log ++ [⟨w, .ok records⟩]) (rest.settle settings.threshold w records)).Perm
      (asked log (p.fill settings.limit)) := by
  obtain ⟨h⟩ := h
  rw [asked, asked, inFlight_settle, h, List.map_append, List.map_singleton, List.append_assoc,
    List.singleton_append]
  exact List.perm_middle.symm.append_left _

/-- **The events of a fetch make a history.**  At its end its answers have been taken, and all has
been asked for that the events started. -/
theorem Traced.exists_moment {answers : Answers} {r : Except FlowError Progress}
    (h : Traced answers settings p events r) (hlog : History verbatim settings q log p) :
    ∃ last, History verbatim settings q (log ++ answeredOf events) last ∧
      (asked (log ++ answeredOf events) (last.fill settings.limit)).Perm
        (asked log p ++ startedOf events) ∧
      ∀ p', r = .ok p' → p' = last.fill settings.limit ∧ last.inPlay = [] := by
  induction h generalizing log with
  | @done p h =>
      rw [answeredOf_starting, List.append_nil, ← asked_fill]
      refine ⟨p, hlog, List.Perm.refl _, ?_⟩
      rintro p' ⟨⟩
      exact ⟨rfl, inPlay_eq_nil h⟩
  | @fail p rest w e hw _ =>
      have hevents : answeredOf (p.starting settings.limit ++ [.answered w (.error e)]) = [] := by
        rw [answeredOf, List.filterMap_append, ← answeredOf, answeredOf_starting]
        rfl
      have hstarted : startedOf (p.starting settings.limit ++ [.answered w (.error e)])
          = startedOf (p.starting settings.limit) := by
        rw [startedOf, List.filterMap_append, ← startedOf]
        exact List.append_nil _
      rw [hevents, hstarted, List.append_nil, ← asked_fill]
      exact ⟨p, hlog, List.Perm.refl _, fun _ hr => nomatch hr⟩
  | @step p rest w records events r hw _ _ ih =>
      have hstarted : startedOf (p.starting settings.limit ++ .answered w (.ok records) :: events)
          = startedOf (p.starting settings.limit) ++ startedOf events := by
        rw [startedOf, List.filterMap_append, ← startedOf]
        rfl
      obtain ⟨last, hlast, hasked, hok⟩ :=
        ih (.step hlog hw (show verbatim w (.ok records) = .ok records from rfl))
      rw [answeredOf_step, List.append_cons, hstarted, ← List.append_assoc, ← asked_fill]
      exact ⟨last, hlast, hasked.trans ((hw.asked_perm log records).append_right _), hok⟩

/-! ## What is known of the cost -/

/-- **The leaves behind an outcome:** the answers that stayed below the threshold or came for a
single nanosecond.  They have the records, and those that reached the threshold have warnings. -/
structure Outcome.ComesFrom (o : Outcome) (threshold : Nat) (events : List Event)
    (leaves : List Leaf) : Prop where
  answered : ∀ l ∈ leaves,
    ∃ w, w.window = l.window ∧ Event.answered w (.ok l.records) ∈ events
  leaf_iff : ∀ w records, Event.answered w (.ok records) ∈ events →
    (⟨w.window, records⟩ ∈ leaves ↔ records.length < threshold ∨ w.window.nanos = 1)
  windows : o.windows = leaves.length
  records : o.records.Perm (leaves.flatMap (·.records))
  truncated : o.truncated = warnings threshold leaves
  narrow : ∀ t ∈ o.truncated, t.window.nanos = 1 ∧ threshold ≤ t.returned

/-- **What a fetch costs**, by its events and its outcome. -/
structure Costs (threshold : Nat) (q : FlowQuery) (events : List Event)
    (r : Except FlowError Outcome) : Prop where
  bounded : (startedOf events).length ≤ 2 * q.window.nanos - 1
  different : ((startedOf events).map (·.window)).Nodup
  exactly : ∀ o, r = .ok o → (startedOf events).length = 2 * o.windows - 1 ∧
    ∃ leaves, o.ComesFrom threshold events leaves

/-- What is left when nothing is in play any more. -/
lemma History.comesFrom (h : History verbatim settings q (answeredOf events) p)
    (hq : q.window.Plain) : p.outcome.ComesFrom settings.threshold events p.leaves := by
  have hreachable := h.reachable
  have hplain {l : Leaf} (hl : l ∈ p.leaves) : l.window.Plain :=
    h.plain_windows hq l.window (List.mem_append_left _ (List.mem_map_of_mem hl))
  have hnarrow {l : Leaf} (hl : l ∈ p.leaves) (hfull : settings.threshold ≤ l.records.length) :
      l.window.nanos = 1 :=
    (hplain hl).split?_eq_none_iff.mp (hreachable.split?_of_full l hl hfull)
  refine ⟨?_, ?_, rfl, (List.mergeSort_perm _ _).flatMap_right _, truncated_eq hreachable, ?_⟩
  · intro l hl
    obtain ⟨x, hx, hwindow, hreply⟩ := h.exists_exchange l hl
    refine ⟨x.query, hwindow, ?_⟩
    rw [← show x.reply = .ok l.records from hreply]
    exact mem_of_mem_answeredOf hx
  · intro w records hevent
    have hmem : ⟨w, .ok records⟩ ∈ answeredOf events :=
      List.mem_filterMap.mpr ⟨_, hevent, rfl⟩
    obtain ⟨records', hr, hleaf⟩ := h.leaf_or_halved _ hmem
    obtain rfl : records = records' := Except.ok.inj hr
    constructor
    · intro hl
      exact (Nat.lt_or_ge records.length settings.threshold).imp_right (hnarrow hl)
    · intro hunsplit
      refine hleaf.resolve_right ?_
      rintro ⟨hfull, hhalves⟩
      have hw : w.window.Plain := h.forall_log passesToHalves_plain hq _ hmem
      exact hhalves (hw.split?_eq_none_iff.mpr (hunsplit.resolve_left (Nat.not_lt.mpr hfull)))
  · intro t ht
    rw [show p.outcome.truncated = p.truncated from rfl, truncated_eq hreachable] at ht
    obtain ⟨l, hl, rfl⟩ := List.mem_map.mp ht
    obtain ⟨hl, hfull⟩ := List.mem_filter.mp hl
    have hfull : settings.threshold ≤ l.records.length := by simpa [Leaf.isFull] using hfull
    exact ⟨hnarrow hl hfull, hfull⟩

lemma TracedFetch.costs {answers : Answers} {r : Except FlowError Outcome}
    (h : TracedFetch answers settings q events r) (hq : q.window.Plain) :
    Costs settings.threshold q events r := by
  cases h with
  | refused _ => exact ⟨Nat.zero_le _, List.nodup_nil, fun _ hr => nomatch hr⟩
  | ended _ hrun =>
      obtain ⟨last, hlast, hstarted, hok⟩ := hrun.exists_moment .start
      rw [List.nil_append] at hlast hstarted
      have hstarted : (asked (answeredOf events) (last.fill settings.limit)).Perm
          (startedOf events) := hstarted
      refine ⟨?_, ?_, ?_⟩
      · rw [← hstarted.length_eq]
        exact hlast.length_asked_le hq settings.limit
      · exact (hstarted.map _).nodup_iff.mp (hlast.nodup_asked settings.limit)
      · intro o ho
        obtain ⟨p', rfl, rfl⟩ := map_eq_ok.mp ho
        obtain ⟨rfl, hnone⟩ := hok p' rfl
        refine ⟨?_, last.leaves, hlast.comesFrom hq⟩
        rw [← hstarted.length_eq]
        exact hlast.length_asked hnone settings.limit

/-- Whatever is computed to halve the windows of a fetch can be represented. -/
lemma TracedFetch.halvesInRange {answers : Answers} {r : Except FlowError Outcome}
    (h : TracedFetch answers settings q events r) (hq : q.window.Plain)
    (hstart : Instant.InRange q.start.second) (hstop : Instant.InRange q.stop.second) :
    ∀ event ∈ events, event.query.window.HalvesInRange := by
  cases h with
  | refused _ => simp
  | ended _ hrun =>
      have hinPlay : ∀ w ∈ (Progress.start q).inPlay,
          w.window.Plain ∧ w.window.HalvesInRange := by
        simpa using ⟨hq, hq.halvesInRange hstart hstop⟩
      intro event hevent
      exact (hrun.forall_query passesToHalves_inRange hinPlay event hevent).2

/-- **Bisection ends at a known cost.**  Take any source, whatever it answers, and a query whose
bounds lie in no leap second.  No schedule goes on forever; if the source always answers, a fetch
can be brought to an end from wherever it has come to.  At no moment has it asked for more windows
than one less than twice the nanoseconds of the query, and no window twice.  A fetch that succeeds
has asked for one less than twice as many windows as its records come from, and its warnings are
those of the leaves that reached the threshold, which are one nanosecond wide.  All that is computed
to halve the windows can be represented if the bounds of the query can. -/
theorem bisection_cost (answers : Answers) (settings : Settings) {q : FlowQuery}
    (hq : q.window.Plain) :
    (WellFounded fun p' p => Step answers settings p p') ∧
    ((∀ w, ∃ answer, answers w answer) → ∀ p, ∃ r, Run answers settings p r) ∧
    (∀ log p n, History verbatim settings q log p →
      (asked log (p.fill n)).length ≤ 2 * q.window.nanos - 1) ∧
    ∀ events r, TracedFetch answers settings q events r →
      Costs settings.threshold q events r ∧
      (Instant.InRange q.start.second → Instant.InRange q.stop.second →
        ∀ event ∈ events, event.query.window.HalvesInRange) := by
  refine ⟨wellFounded_step answers settings, exists_run settings, ?_, fun events r h => ⟨?_, ?_⟩⟩
  · intro log p n h
    exact h.length_asked_le hq n
  · exact h.costs hq
  · exact h.halvesInRange hq

/-- The same whatever the answer: two flows. -/
def alwaysFull : Answers := fun _ answer => answer = .ok [flowAt 0, flowAt 1]

lemma Traced.step_full {rest next : Progress} {w : FlowQuery} {r : Except FlowError Progress}
    (hw : Takes ⟨2, 1⟩ p w rest) (hnext : rest.settle 2 w [flowAt 0, flowAt 1] = next)
    (hr : Traced alwaysFull ⟨2, 1⟩ next events r) :
    Traced alwaysFull ⟨2, 1⟩ p
      (p.starting 1 ++ .answered w (.ok [flowAt 0, flowAt 1]) :: events) r := by
  subst hnext
  exact .step hw rfl hr

/-- **A source that always answers with two flows**, asked for two nanoseconds with a threshold of
two, is asked three times, and there are warnings for both nanoseconds. -/
theorem bisection_cost_alwaysFull :
    ∃ events o, TracedFetch alwaysFull ⟨2, 1⟩
        (fourNanos.withWindow ⟨.ofNanos 0, .ofNanos 2, by decide⟩) events (.ok o) ∧
      (startedOf events).length = 2 * o.windows - 1 ∧ o.windows = 2 ∧ o.truncated.length = 2 ∧
      (∀ t ∈ o.truncated, t.window.nanos = 1) ∧
      ∀ event ∈ events, event.query.window.HalvesInRange := by
  let whole : FlowQuery := fourNanos.withWindow ⟨.ofNanos 0, .ofNanos 2, by decide⟩
  let left : FlowQuery := fourNanos.withWindow ⟨.ofNanos 0, .ofNanos 1, by decide⟩
  let right : FlowQuery := fourNanos.withWindow ⟨.ofNanos 1, .ofNanos 2, by decide⟩
  let first : Leaf := ⟨left.window, [flowAt 0, flowAt 1]⟩
  let second : Leaf := ⟨right.window, [flowAt 0, flowAt 1]⟩
  have hwhole : Takes ⟨2, 1⟩ (.start whole) whole ⟨[], [], [], []⟩ :=
    @Takes.mk _ (.start whole) [] [] whole rfl
  have hleft : Takes ⟨2, 1⟩ ⟨[left, right], [], [], []⟩ left ⟨[right], [], [], []⟩ :=
    @Takes.mk _ ⟨[left, right], [], [], []⟩ [] [] left rfl
  have hright : Takes ⟨2, 1⟩ ⟨[right], [], [first], [first.warning]⟩ right
      ⟨[], [], [first], [first.warning]⟩ :=
    @Takes.mk _ ⟨[right], [], [first], [first.warning]⟩ [] [] right rfl
  have hdone : Traced alwaysFull ⟨2, 1⟩
      ⟨[], [], [first, second], [first.warning, second.warning]⟩ _ _ := .done rfl
  have hrun := Traced.step_full hwhole (by decide)
    (Traced.step_full hleft (by decide) (Traced.step_full hright (by decide) hdone))
  have h : TracedFetch alwaysFull ⟨2, 1⟩ whole _ _ := .ended rfl hrun
  obtain ⟨-, -, -, hcost⟩ := bisection_cost alwaysFull ⟨2, 1⟩ (q := whole) ⟨by decide, by decide⟩
  obtain ⟨hcosts, hrange⟩ := hcost _ _ h
  obtain ⟨hexact, _, hleaves⟩ := hcosts.exactly _ rfl
  exact ⟨_, _, h, hexact, rfl, rfl, fun t ht => (hleaves.narrow t ht).1,
    hrange (by decide) (by decide)⟩

end TrafficDigest.Fetch
