import TrafficDigest.Query
import TrafficDigest.Sum

/-!
# Fetching by bisection

A source of flows answers a query with at most as many records as the query asks for, so an answer
that reaches the *threshold* may be cut short.  Fetching asks for the whole window first, and for
the two halves of every window whose answer reached the threshold, until the answers stay below it
or the window cannot be halved; in the latter case the answer is kept with a warning.

* `Fetch.Progress` is the state in between: windows that wait, windows that were asked for and are
  in flight, and the leaves, which are windows with the records they were answered with.
* `Fetch.Progress.settle` takes the answer for one window in flight.
* `Fetch.fetch` runs one query to its end and `Fetch.fetchAll` a list of them.

Windows are started in the order in which they came to wait and settled in the order in which they
were started.  The recursion ends because halving a window takes from `Fetch.Progress.work`, a
bound on the number of answers that are still needed.
-/

namespace TrafficDigest

/-! ## Sources -/

/-- **A source of flows**, with a state `σ` that its answers may change. -/
abbrev Source (σ : Type) := FlowQuery → ExceptT FlowError (StateM σ) (List FlowRecord)

namespace Fetch

/-! ## Settings and outcomes -/

/-- How windows are fetched. -/
structure Settings where
  /-- The number of records from which on an answer counts as cut short. -/
  threshold : Nat := 90000
  /-- How many windows may be in flight at once; zero counts as one. -/
  concurrency : Nat := 4
  deriving DecidableEq, Repr

/-- The number of windows in flight at once. -/
def Settings.limit (s : Settings) : Nat := max s.concurrency 1

/-- With a threshold of zero even empty windows would be halved. -/
def Settings.check (s : Settings) : Except FlowError Unit :=
  if s.threshold = 0 then .error .invalidThreshold else .ok ()

/-- A window that could not be halved although its answer reached the threshold. -/
structure Truncation where
  window : Window
  returned : Nat
  deriving DecidableEq, Repr

/-- What was fetched. -/
structure Outcome where
  records : List FlowRecord := []
  /-- How many windows the records come from. -/
  windows : Nat := 0
  truncated : List Truncation := []
  deriving DecidableEq, Repr

/-- Two outcomes one after the other. -/
def Outcome.append (a b : Outcome) : Outcome where
  records := a.records ++ b.records
  windows := a.windows + b.windows
  truncated := a.truncated ++ b.truncated

instance : Append Outcome := ⟨Outcome.append⟩

/-! ## Progress -/

/-- A window with the records it was answered with. -/
structure Leaf where
  window : Window
  records : List FlowRecord
  deriving DecidableEq, Repr

/-- A fetch that is under way. -/
structure Progress where
  /-- Queries that wait, the next one first. -/
  pending : List FlowQuery
  /-- Queries that were sent, the first one first. -/
  inFlight : List FlowQuery
  /-- Answers that were kept, in the order in which they came. -/
  leaves : List Leaf
  truncated : List Truncation
  deriving DecidableEq, Repr

namespace Progress

/-- Nothing was done yet. -/
def start (q : FlowQuery) : Progress := ⟨[q], [], [], []⟩

/-- Waiting queries are sent as long as fewer than `limit` are in flight. -/
def fill (limit : Nat) (p : Progress) : Progress :=
  let room := limit - p.inFlight.length
  { p with pending := p.pending.drop room, inFlight := p.inFlight ++ p.pending.take room }

/-- **The answer to a query that is no longer in flight.**  An answer that reaches the threshold is
dropped for the two halves of the window, if there are any. -/
def settle (threshold : Nat) (q : FlowQuery) (records : List FlowRecord) (p : Progress) :
    Progress :=
  let kept := { p with leaves := p.leaves ++ [⟨q.window, records⟩] }
  if threshold ≤ records.length then
    match q.split? with
    | some (left, right) => { p with pending := p.pending ++ [left, right] }
    | none => { kept with truncated := p.truncated ++ [⟨q.window, records.length⟩] }
  else kept

/-! ### The bound on what is left to do -/

/-- How many answers a query may need: a window that spans `n` is halved at most `n - 1` times. -/
def workOf (q : FlowQuery) : Nat := 2 * q.window.span - 1

/-- How many answers may be needed until the end. -/
def work (p : Progress) : Nat := sumOf workOf (p.inFlight ++ p.pending)

/-- Sending what waits adds no work. -/
theorem work_fill (limit : Nat) (p : Progress) : (p.fill limit).work = p.work := by
  simp only [work, fill, List.append_assoc, List.take_append_drop]

/-- Two halves need less work than the whole. -/
theorem workOf_split {q left right : FlowQuery} (h : q.split? = some (left, right)) :
    workOf left + workOf right < workOf q := by
  simp only [FlowQuery.split?, Option.map_eq_some_iff, Prod.exists, Prod.mk.injEq] at h
  obtain ⟨l, r, hw, rfl, rfl⟩ := h
  have := Window.span_split? hw
  have := l.span_pos
  have := r.span_pos
  simp only [workOf, FlowQuery.withWindow]
  omega

/-- Every answer takes from the work that is left. -/
theorem work_settle {threshold : Nat} {q : FlowQuery} {rest : List FlowQuery}
    {records : List FlowRecord} {p : Progress} (h : p.inFlight = q :: rest) :
    (settle threshold q records { p with inFlight := rest }).work < p.work := by
  have hq := q.window.span_pos
  simp only [settle, work, h]
  split
  · split
    · rename_i hs
      have := workOf_split hs
      simp only [sumOf, List.map_append, List.map_cons, List.map_nil, List.sum_append,
        List.sum_cons, List.sum_nil]
      omega
    · simp only [sumOf, List.map_append, List.map_cons, List.sum_append, List.sum_cons, workOf]
      omega
  · simp only [sumOf, List.map_append, List.map_cons, List.sum_append, List.sum_cons, workOf]
    omega

/-- What was fetched when nothing is left to do: the records of the leaves in window order. -/
def outcome (p : Progress) : Outcome where
  records := (p.leaves.mergeSort fun a b => a.window.start ≤ b.window.start).flatMap (·.records)
  windows := p.leaves.length
  truncated := p.truncated

end Progress

/-! ## Runs -/

/-- Sends and settles until nothing is in flight and nothing waits. -/
def drain {σ : Type} (source : Source σ) (settings : Settings) (p : Progress) :
    ExceptT FlowError (StateM σ) Progress :=
  match _h : (p.fill settings.limit).inFlight with
  | [] => pure (p.fill settings.limit)
  | q :: rest => do
    let records ← source q
    drain source settings
      (({ p.fill settings.limit with inFlight := rest } : Progress).settle
        settings.threshold q records)
termination_by p.work
decreasing_by
  rw [← Progress.work_fill settings.limit p]
  exact Progress.work_settle _h

variable {σ : Type}

/-- **Everything that a query asks for.**  The first failing answer ends the fetch. -/
def fetch (source : Source σ) (settings : Settings) (q : FlowQuery) :
    ExceptT FlowError (StateM σ) Outcome := do
  liftExcept settings.check
  let p ← drain source settings (Progress.start q)
  return p.outcome
where
  liftExcept {α : Type} (e : Except FlowError α) : ExceptT FlowError (StateM σ) α :=
    ExceptT.mk (pure e)

/-- **Everything that the queries of a list ask for**, one query after the other. -/
def fetchAll (source : Source σ) (settings : Settings) :
    List FlowQuery → ExceptT FlowError (StateM σ) Outcome
  | [] => return {}
  | q :: qs => do
    let first ← fetch source settings q
    let others ← fetchAll source settings qs
    return first ++ others

end Fetch

end TrafficDigest
