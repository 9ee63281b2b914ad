import TrafficDigest.Fetch.Schedule

/-!
# The course of a fetch

`Fetch.Run` says how a fetch may end.  This file adds what happens on the way: the queries that were
started and the answers that were taken, in their order.

* `Fetch.Traced` is a run with its events, and `Fetch.TracedFetch` the fetch of one query with them.
* `Fetch.TracedAll` is the fetch of a list of queries.  Its events come as `Fetch.Attempt`s, one for
  each query that was taken up.

Forgetting the events leads back to the outcomes under all schedules (`run_iff_traced`,
`fetches_iff_traced`, `fetchesAll_iff_traced`), so nothing is added and nothing is left out.
-/

namespace TrafficDigest.Fetch

/-- What happens between a fetch and its source. -/
inductive Event where
  /-- The query was put in flight. -/
  | started (q : FlowQuery)
  /-- The answer to the query was taken. -/
  | answered (q : FlowQuery) (answer : Except FlowError (List FlowRecord))

/-- The query that an event is about. -/
def Event.query : Event → FlowQuery
  | started q => q
  | answered q _ => q

/-- What waits is started as long as fewer than `limit` queries are in flight. -/
def Progress.starting (limit : Nat) (p : Progress) : List Event :=
  (p.pending.take (limit - p.inFlight.length)).map .started

variable {answers : Answers} {settings : Settings} {q : FlowQuery} {qs : List FlowQuery}

/-! ## Runs -/

/-- **The results that a fetch may end with, each with the events before the end.** -/
inductive Traced (answers : Answers) (settings : Settings) :
    Progress → List Event → Except FlowError Progress → Prop
  | done {p : Progress} (h : (p.fill settings.limit).inFlight = []) :
      Traced answers settings p (p.starting settings.limit) (.ok (p.fill settings.limit))
  | fail {p rest : Progress} {q : FlowQuery} {e : FlowError} (hq : Takes settings p q rest)
      (ha : answers q (.error e)) :
      Traced answers settings p (p.starting settings.limit ++ [.answered q (.error e)]) (.error e)
  | step {p rest : Progress} {q : FlowQuery} {records : List FlowRecord} {events : List Event}
      {r : Except FlowError Progress} (hq : Takes settings p q rest) (ha : answers q (.ok records))
      (hr : Traced answers settings (rest.settle settings.threshold q records) events r) :
      Traced answers settings p
        (p.starting settings.limit ++ .answered q (.ok records) :: events) r

theorem run_iff_traced {p : Progress} {r : Except FlowError Progress} :
    Run answers settings p r ↔ ∃ events, Traced answers settings p events r := by
  constructor
  · intro h
    induction h with
    | done h => exact ⟨_, .done h⟩
    | fail hq ha => exact ⟨_, .fail hq ha⟩
    | step hs _ ih =>
      obtain ⟨events, hr⟩ := ih
      cases hs with
      | settle hq ha => exact ⟨_, .step hq ha hr⟩
  · rintro ⟨events, h⟩
    induction h with
    | done h => exact .done h
    | fail hq ha => exact .fail hq ha
    | step hq ha _ ih => exact .step (.settle hq ha) ih

/-! ## One query -/

/-- **The outcomes that fetching a query may have, each with its events.**  There are none if the
settings do not pass their check. -/
inductive TracedFetch (answers : Answers) (settings : Settings) (q : FlowQuery) :
    List Event → Except FlowError Outcome → Prop
  | refused {e : FlowError} (h : settings.check = .error e) :
      TracedFetch answers settings q [] (.error e)
  | ended {events : List Event} {r : Except FlowError Progress} (h : settings.check = .ok ())
      (hr : Traced answers settings (.start q) events r) :
      TracedFetch answers settings q events (r.map Progress.outcome)

theorem fetches_iff_traced {r : Except FlowError Outcome} :
    Fetches answers settings q r ↔ ∃ events, TracedFetch answers settings q events r := by
  constructor
  · rintro (h | ⟨h, hr⟩)
    · exact ⟨[], .refused h⟩
    · obtain ⟨events, hr⟩ := run_iff_traced.1 hr
      exact ⟨events, .ended h hr⟩
  · rintro ⟨events, h | ⟨h, hr⟩⟩
    · exact .refused h
    · exact .ended h (run_iff_traced.2 ⟨events, hr⟩)

/-! ## Lists of queries -/

/-- A query of a list that was taken up, with the events of its fetch. -/
structure Attempt where
  query : FlowQuery
  events : List Event

/-- **The outcomes that fetching a list of queries may have, each with its attempts:** one query
after the other up to the first that fails. -/
inductive TracedAll (answers : Answers) (settings : Settings) :
    List FlowQuery → List Attempt → Except FlowError Outcome → Prop
  | nil : TracedAll answers settings [] [] (.ok {})
  | fail {q : FlowQuery} {qs : List FlowQuery} {events : List Event} {e : FlowError}
      (h : TracedFetch answers settings q events (.error e)) :
      TracedAll answers settings (q :: qs) [⟨q, events⟩] (.error e)
  | cons {q : FlowQuery} {qs : List FlowQuery} {events : List Event} {attempts : List Attempt}
      {first : Outcome} {r : Except FlowError Outcome}
      (h : TracedFetch answers settings q events (.ok first))
      (hr : TracedAll answers settings qs attempts r) :
      TracedAll answers settings (q :: qs) (⟨q, events⟩ :: attempts) (r.map (first ++ ·))

theorem fetchesAll_iff_traced {r : Except FlowError Outcome} :
    FetchesAll answers settings qs r ↔ ∃ attempts, TracedAll answers settings qs attempts r := by
  constructor
  · intro h
    induction h with
    | nil => exact ⟨[], .nil⟩
    | fail h =>
      obtain ⟨events, h⟩ := fetches_iff_traced.1 h
      exact ⟨_, .fail h⟩
    | cons h _ ih =>
      obtain ⟨events, h⟩ := fetches_iff_traced.1 h
      obtain ⟨attempts, hr⟩ := ih
      exact ⟨_, .cons h hr⟩
  · rintro ⟨attempts, h⟩
    induction h with
    | nil => exact .nil
    | fail h => exact .fail (fetches_iff_traced.2 ⟨_, h⟩)
    | cons h _ ih => exact .cons (fetches_iff_traced.2 ⟨_, h⟩) ih

/-- Fetching in the order of sending has such attempts. -/
theorem exists_attempts_fetchAll {σ : Type} (source : Source σ) (settings : Settings)
    (qs : List FlowQuery) (s : σ) :
    ∃ attempts, TracedAll (Answers.ofSource source) settings qs attempts
      ((fetchAll source settings qs).run.run s).1 :=
  fetchesAll_iff_traced.1 (fetchesAll_fetchAll source settings qs s)

end TrafficDigest.Fetch
