import TrafficDigest.Proofs.Fetch.Invariant
import TrafficDigest.Proofs.Pce.Ask

/-!
# The intervals that are asked for

A query's window is never empty.  Its bounds are written in whole milliseconds, though, and windows
are halved down to single nanoseconds; so the interval in a posted body may be empty.

* `posts_intervals_iff` — which bodies of a run ask for an empty interval: those for windows in
  which no whole millisecond begins after the start.  There are none as long as no window under
  two milliseconds has a full answer.
* `posts_empty_interval` — a run in which there is one.
-/

namespace TrafficDigest.Pce

open Http (Reply Response Session)
open Fetch
open Instant (nanosPerMilli)

/-! ## Intervals in bodies -/

/-- **The body asks for an interval** that is not empty. -/
def AsksInterval (body : Json) : Prop := ∃ a, ask.decode body = some a ∧ a.start < a.stop

lemma asksInterval_queryBody {q : FlowQuery} (h : OnCalendar q) :
    AsksInterval (queryBody q) ↔ q.start.floorMillis < q.stop.floorMillis := by
  simp only [AsksInterval, decode_queryBody h, Option.some.injEq, exists_eq_left', Ask.ofQuery]

/-- What is said of the bodies that are posted for a query is said of its own. -/
lemma forall_posts_iff {c : Config} {q : FlowQuery} {P : Json → Prop} :
    (∀ s body, Posts c q s body → P body) ↔ P (queryBody q) := by
  simp only [posts_iff, forall_eq]
  exact ⟨fun h => h ⟨[], #[], 0⟩, fun h _ => h⟩

/-! ## Halves -/

lemma passesToHalves_onCalendar : PassesToHalves OnCalendar := by
  rintro w left right hs ⟨hstart, hstop⟩
  obtain ⟨⟨hlow, hhigh⟩, ⟨hl, hl'⟩, hr, hr'⟩ := FlowQuery.bounds_split? hs
  have hmid := hstart.midpoint hstop hlow hhigh
  unfold OnCalendar
  rw [hl, hl', hr, hr']
  exact ⟨⟨hstart, hmid⟩, hmid, hstop⟩

/-- Outside leap seconds, with bounds that are still apart once they are cut. -/
structure IsWide (w : FlowQuery) : Prop where
  start : ¬w.start.IsLeap
  stop : ¬w.stop.IsLeap
  apart : w.start.floorMillis < w.stop.floorMillis

/-- **Two milliseconds are enough** for both halves. -/
lemma IsWide.halves {w left right : FlowQuery} (h : IsWide w)
    (hs : w.split? = some (left, right))
    (hspan : (2 * nanosPerMilli : Nat) ≤ w.stop.since w.start) : IsWide left ∧ IsWide right := by
  obtain ⟨-, ⟨hl, hl'⟩, hr, hr'⟩ := FlowQuery.bounds_split? hs
  rw [Instant.midpoint_eq h.start h.stop] at hl' hr
  rw [Instant.since_eq h.stop h.start] at hspan
  have hmid := Instant.not_isLeap_ofNanos
    (w.start.toNanos + (w.stop.toNanos - w.start.toNanos) / 2)
  constructor
  · refine ⟨hl ▸ h.start, hl' ▸ hmid, ?_⟩
    rw [hl, hl']
    refine Instant.floorMillis_lt_of_gap h.start hmid ?_
    rw [Instant.toNanos_ofNanos]
    omega
  · refine ⟨hr ▸ hmid, hr' ▸ h.stop, ?_⟩
    rw [hr, hr']
    refine Instant.floorMillis_lt_of_gap hmid h.stop ?_
    rw [Instant.toNanos_ofNanos]
    omega

/-! ## Runs -/

variable {c : Config} {settings : Settings} {q : FlowQuery} {log : List (Exchange Reply)}
  {p : Progress}

/-- Every full answer came for a window of two milliseconds or more. -/
def FullOnlyWide (c : Config) (threshold : Nat) (log : List (Exchange Reply)) : Prop :=
  ∀ x ∈ log, ∀ records, reading c x.query x.reply = .ok records → threshold ≤ records.length →
    (2 * nanosPerMilli : Nat) ≤ x.query.stop.since x.query.start

lemma isWide_of_history (h : History (reading c) settings q log p) (hq : IsWide q)
    (hfull : FullOnlyWide c settings.threshold log) :
    (∀ x ∈ log, IsWide x.query) ∧ ∀ w ∈ p.inPlay, IsWide w := by
  induction h with
  | start => simpa using hq
  | @step log p rest w reply records h hw hr ih =>
      -- what is known of full answers is known of those that came before
      obtain ⟨hlog, hplay⟩ := ih fun x hx => hfull x (List.mem_append_left _ hx)
      have hs := hw.settles records
      have hwide := hplay w hs.mem_inPlay
      constructor
      · intro x hx
        rcases List.mem_append.mp hx with hx | hx
        · exact hlog x hx
        · rw [List.mem_singleton.mp hx]
          exact hwide
      · refine hs.forall_inPlay (fun left right full halves => hwide.halves halves ?_) hplay
        exact hfull ⟨w, reply⟩ (by simp) records hr full

/-- **Which bodies of a run ask for an interval.**  The bounds in a posted body are those of the
window cut to whole milliseconds, in their order.  All bodies of a run ask for an interval exactly
if in every window that was sent a whole millisecond begins after the start and no later than the
stop.  So they do if every full answer came for a window of at least two milliseconds.

Left out are bounds that cannot be written (`OnCalendar`): those beyond the years that the calendar
reaches, and those in a leap second that does not end a minute. -/
theorem posts_intervals_iff (h : History (reading c) settings q log p) (n : Nat)
    (hq : OnCalendar q)
    (hwhole : q.start.floorMillis = q.start ∧ q.stop.floorMillis = q.stop) :
    let sent := asked log (p.fill n)
    (∀ w ∈ sent, ∀ s body, Posts c w s body → ∃ a, ask.decode body = some a ∧
      a.start = w.start.floorMillis ∧ a.stop = w.stop.floorMillis ∧ a.start ≤ a.stop) ∧
    ((∀ w ∈ sent, ∀ s body, Posts c w s body → AsksInterval body) ↔
      ∀ w ∈ sent, ∃ t : Instant, t.floorMillis = t ∧ w.start < t ∧ t ≤ w.stop) ∧
    (¬q.start.IsLeap → ¬q.stop.IsLeap → FullOnlyWide c settings.threshold log →
      ∀ w ∈ sent, ∀ s body, Posts c w s body → AsksInterval body) := by
  intro sent
  have hcalendar : ∀ w ∈ sent, OnCalendar w :=
    h.forall_asked passesToHalves_onCalendar hq n
  refine ⟨?_, ?_, ?_⟩
  · intro w hw
    refine forall_posts_iff.mpr ⟨_, decode_queryBody (hcalendar w hw), rfl, rfl, ?_⟩
    exact Instant.floorMillis_mono (Instant.le_of_lt w.window.start_lt_stop)
  · refine forall₂_congr fun w hw => ?_
    rw [forall_posts_iff, asksInterval_queryBody (hcalendar w hw), Instant.floorMillis_lt_iff]
  · intro hstart hstop hfull w hw
    have hroot : IsWide q := by
      refine ⟨hstart, hstop, ?_⟩
      rw [hwhole.1, hwhole.2]
      exact q.window.start_lt_stop
    obtain ⟨hlog, hplay⟩ := isWide_of_history h hroot hfull
    rw [forall_posts_iff, asksInterval_queryBody (hcalendar w hw)]
    rcases List.mem_append.mp hw with hw | hw
    · obtain ⟨x, hx, rfl⟩ := List.mem_map.mp hw
      exact (hlog x hx).apart
    · exact (hplay w (mem_inPlay_of_sent w hw)).apart

/-! ### One millisecond with a full answer -/

/-- A query for the first millisecond of 2024. -/
def oneMilli : FlowQuery :=
  fourNanos.withWindow ⟨hourOf2024 0, .ofNanos (1704067200 * 1000000000 + 1000000), by decide⟩

/-- **A run that asks for an empty interval:** one flow fills the page for the millisecond, and the
first half of it is sent next. -/
theorem posts_empty_interval :
    ∃ log p, History (reading samplePce) ⟨1, 1⟩ oneMilli log p ∧
      oneMilli.start.floorMillis = oneMilli.start ∧ oneMilli.stop.floorMillis = oneMilli.stop ∧
      ∃ w ∈ asked log (p.fill 1), ∀ s body, Posts samplePce w s body →
        ∃ a, ask.decode body = some a ∧ a.start = a.stop := by
  let mid : Instant := oneMilli.start.midpoint oneMilli.stop
  let left : FlowQuery := oneMilli.withWindow ⟨oneMilli.start, mid, by decide⟩
  let right : FlowQuery := oneMilli.withWindow ⟨mid, oneMilli.stop, by decide⟩
  have hw : Takes ⟨1, 1⟩ (.start oneMilli) oneMilli ⟨[], [], [], []⟩ :=
    @Takes.mk _ (.start oneMilli) [] [] oneMilli rfl
  have hr := reading_response samplePce oneMilli (show Http.isSuccess 200 = true by decide)
    flows_mixedPage
  have hfull : 1 ≤ (recordsOf mixedFlows).length := by decide
  have hs : oneMilli.split? = some (left, right) := by decide
  have hstep := History.step .start hw hr
  simp only [Progress.settle, hfull, if_true, hs, List.nil_append] at hstep
  refine ⟨_, _, hstep, by decide, by decide, left, ?_, ?_⟩
  · exact List.mem_append_right _ (List.mem_cons_self ..)
  · rw [forall_posts_iff, decode_queryBody (by decide)]
    exact ⟨_, rfl, by decide⟩

/-- Two days with a page below the threshold are asked for as one interval. -/
theorem posts_intervals_twoDays :
    ∃ log p, History (reading samplePce) ⟨2, 1⟩ twoDays log p ∧
      ∀ w ∈ asked log (p.fill 1), ∀ s body, Posts samplePce w s body → AsksInterval body := by
  have h := history_mixedPage (show 1 < 2 by decide)
  obtain ⟨-, -, hall⟩ := posts_intervals_iff h 1 (by decide) (by decide)
  refine ⟨_, _, h, hall (by decide) (by decide) fun x hx _ _ _ => ?_⟩
  rw [List.mem_singleton.mp hx]
  decide

end TrafficDigest.Pce
