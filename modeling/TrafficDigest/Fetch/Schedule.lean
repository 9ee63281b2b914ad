import TrafficDigest.Fetch

/-!
# Schedules of a fetch

`Fetch.drain` settles windows in the order in which they were sent.  A source that answers several
windows at a time may answer them in any order, and a fetch has to come out the same for each.

* `Fetch.Step` is what may happen next: whichever window is in flight may be answered.
* `Fetch.Reachable` are the states that a fetch may come to, and `Fetch.Run` the results that it may
  end with.
* `Fetch.Fetches` and `Fetch.FetchesAll` are the outcomes that one query and a list of queries may
  have.

`run_drain` says that the order of `Fetch.drain` is one of these schedules; so the outcomes of
`Fetch.fetch` and `Fetch.fetchAll` are among those that schedules have (`fetches_fetch`,
`fetchesAll_fetchAll`).
-/

namespace TrafficDigest.Fetch

/-- Which answers a source may give to a query. -/
abbrev Answers := FlowQuery → Except FlowError (List FlowRecord) → Prop

/-- The answers of a source, in whatever state it is. -/
def Answers.ofSource {σ : Type} (source : Source σ) : Answers :=
  fun q answer => ∃ s, ((source q).run.run s).1 = answer

/-- The answers of a source that depend on the query alone. -/
def Answers.ofFunction (answer : FlowQuery → Except FlowError (List FlowRecord)) : Answers :=
  fun q a => a = answer q

/-! ## Steps -/

/-- What waits is sent; then `q` is one of the queries in flight, and the second state is the one
without it. -/
inductive Takes (settings : Settings) : Progress → FlowQuery → Progress → Prop
  | mk {p : Progress} {before after : List FlowQuery} {q : FlowQuery}
      (h : (p.fill settings.limit).inFlight = before ++ q :: after) :
      Takes settings p q { p.fill settings.limit with inFlight := before ++ after }

/-- **A query in flight is answered**, any of them. -/
inductive Step (answers : Answers) (settings : Settings) : Progress → Progress → Prop
  | settle {p rest : Progress} {q : FlowQuery} {records : List FlowRecord}
      (hq : Takes settings p q rest) (ha : answers q (.ok records)) :
      Step answers settings p (rest.settle settings.threshold q records)

/-- The states that a fetch may come to before a failure. -/
inductive Reachable (answers : Answers) (settings : Settings) (q : FlowQuery) : Progress → Prop
  | start : Reachable answers settings q (.start q)
  | step {p p' : Progress} (hp : Reachable answers settings q p)
      (hs : Step answers settings p p') : Reachable answers settings q p'

/-! ## Runs -/

/-- **The results that a fetch may end with:** the state in which nothing is in flight and nothing
waits, or the first failing answer. -/
inductive Run (answers : Answers) (settings : Settings) :
    Progress → Except FlowError Progress → Prop
  | done {p : Progress} (h : (p.fill settings.limit).inFlight = []) :
      Run answers settings p (.ok (p.fill settings.limit))
  | fail {p rest : Progress} {q : FlowQuery} {e : FlowError} (hq : Takes settings p q rest)
      (ha : answers q (.error e)) : Run answers settings p (.error e)
  | step {p p' : Progress} {r : Except FlowError Progress} (hs : Step answers settings p p')
      (hr : Run answers settings p' r) : Run answers settings p r

/-- A query is answered and what follows comes after it, unless the answer is a failure. -/
theorem fst_run_bind {ε σ α β : Type} (x : ExceptT ε (StateM σ) α)
    (f : α → ExceptT ε (StateM σ) β) (s : σ) :
    ((x >>= f).run.run s).1 =
      match x.run.run s with
      | (.ok a, s') => ((f a).run.run s').1
      | (.error e, _) => .error e := by
  simp only [ExceptT.run_bind, StateT.run_bind]
  rcases x.run.run s with ⟨r | a, s'⟩ <;> rfl

/-- Settling in the order of sending is one of the schedules. -/
theorem run_drain {σ : Type} (source : Source σ) (settings : Settings) (p : Progress) (s : σ) :
    Run (Answers.ofSource source) settings p ((drain source settings p).run.run s).1 := by
  fun_induction drain source settings p generalizing s with
  | case1 p h => exact .done h
  | case2 p q rest h ih =>
    have hq : Takes settings p q { p.fill settings.limit with inFlight := rest } :=
      @Takes.mk settings p [] rest q h
    rw [fst_run_bind]
    rcases hx : (source q).run.run s with ⟨e | records, s'⟩
    · exact .fail hq ⟨s, by rw [hx]⟩
    · exact .step (.settle hq ⟨s, by rw [hx]⟩) (ih records s')

/-! ## Outcomes -/

/-- **The outcomes that fetching a query may have.**  Settings that do not pass their check are
refused before any query is sent. -/
inductive Fetches (answers : Answers) (settings : Settings) (q : FlowQuery) :
    Except FlowError Outcome → Prop
  | refused {e : FlowError} (h : settings.check = .error e) :
      Fetches answers settings q (.error e)
  | ended {r : Except FlowError Progress} (h : settings.check = .ok ())
      (hr : Run answers settings (.start q) r) :
      Fetches answers settings q (r.map Progress.outcome)

/-- **The outcomes that fetching a list of queries may have**, one query after the other up to the
first that fails. -/
inductive FetchesAll (answers : Answers) (settings : Settings) :
    List FlowQuery → Except FlowError Outcome → Prop
  | nil : FetchesAll answers settings [] (.ok {})
  | fail {q : FlowQuery} {qs : List FlowQuery} {e : FlowError}
      (h : Fetches answers settings q (.error e)) : FetchesAll answers settings (q :: qs) (.error e)
  | cons {q : FlowQuery} {qs : List FlowQuery} {first : Outcome} {r : Except FlowError Outcome}
      (h : Fetches answers settings q (.ok first)) (hr : FetchesAll answers settings qs r) :
      FetchesAll answers settings (q :: qs) (r.map (first ++ ·))

/-- Fetching in the order of sending has one of the outcomes. -/
theorem fetches_fetch {σ : Type} (source : Source σ) (settings : Settings) (q : FlowQuery) (s : σ) :
    Fetches (Answers.ofSource source) settings q ((fetch source settings q).run.run s).1 := by
  have hrun := run_drain source settings (.start q) s
  unfold fetch fetch.liftExcept
  rw [fst_run_bind]
  cases hc : settings.check with
  | error e => exact .refused hc
  | ok =>
    have h := Fetches.ended hc hrun
    change Fetches _ _ _ ((drain source settings (.start q) >>= _).run.run s).1
    rw [fst_run_bind]
    rcases hd : (drain source settings (.start q)).run.run s with ⟨e | p, s'⟩ <;>
      rw [hd] at h <;> exact h

/-- The same for a list of queries. -/
theorem fetchesAll_fetchAll {σ : Type} (source : Source σ) (settings : Settings)
    (qs : List FlowQuery) (s : σ) :
    FetchesAll (Answers.ofSource source) settings qs
      ((fetchAll source settings qs).run.run s).1 := by
  induction qs generalizing s with
  | nil => exact .nil
  | cons q qs ih =>
    have hq := fetches_fetch source settings q s
    unfold fetchAll
    rw [fst_run_bind]
    rcases hf : (fetch source settings q).run.run s with ⟨e | first, s'⟩ <;> rw [hf] at hq
    · exact .fail hq
    · have h := FetchesAll.cons hq (ih s')
      change FetchesAll _ _ _ ((fetchAll source settings qs >>= _).run.run s').1
      rw [fst_run_bind]
      rcases ha : (fetchAll source settings qs).run.run s' with ⟨e | others, s''⟩ <;>
        rw [ha] at h <;> exact h

end TrafficDigest.Fetch
