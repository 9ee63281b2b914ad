import TrafficDigest.Exclusions
import TrafficDigest.Window

/-!
# Queries

A query asks for the flows that were first seen in a time window, with filters on verdict, service
and group.  Its window is not empty, it keeps at least one verdict, it asks for at least one record
and restricts at most one side to a group: those are parts of the type, so that whatever is made
from a query, such as its halves, keeps them.  `FlowQuery.make` says which error a query without
them is; the errors are `FlowError`, with the other causes that stop a query from being built or
answered.
-/

namespace TrafficDigest

/-! ## Errors -/

/-- Why flows cannot be queried, fetched or digested. -/
inductive FlowError where
  /-- A text that names no day. -/
  | invalidDate (input : String)
  | invalidRange (start stop : Instant)
  | invalidMaxRecords
  | invalidThreshold
  | noVerdicts
  | unknownGroup (name : String)
  | malformedExclusions (fault : ExclusionFault)
  /-- The source of flows could not answer. -/
  | sourceFailure (text : String)
  deriving DecidableEq, Repr

namespace FlowError

/-- What is reported about an error. -/
def message : FlowError → String
  | invalidDate input => "invalid date '" ++ input ++ "': expected yyyy-mm-dd"
  | invalidRange start stop => "start " ++ start.text ++ " must be before end " ++ stop.text
  | invalidMaxRecords => "max records must be greater than zero"
  | invalidThreshold => "split threshold must be greater than zero"
  | noVerdicts => "every policy decision is excluded; nothing to query"
  | unknownGroup name => name ++ " does not exist as an app label"
  | malformedExclusions fault =>
    "malformed service exclusion input at line " ++ toString fault.row ++ ": " ++
      fault.cause.message
  | sourceFailure text => "flow source request failed: " ++ text

end FlowError

/-! ## Queries -/

/-- The two sides of a flow. -/
inductive Side where
  | source
  | destination
  deriving DecidableEq, Repr

/-- Only flows whose given side carries the label with this href. -/
structure GroupFilter where
  side : Side
  href : String
  deriving DecidableEq, Repr

/-- What is asked of a source of flows. -/
structure FlowQuery where
  window : Window
  verdicts : VerdictSet
  group : Option GroupFilter
  /-- Services whose flows are left out. -/
  excluded : List ServicePort
  /-- How many records an answer may have. -/
  maxRecords : Nat
  maxRecords_pos : 0 < maxRecords
  verdicts_nonempty : verdicts.isEmpty = false
  deriving DecidableEq, Repr

namespace FlowQuery

/-! ## Making queries -/

/-- **A query without filters on group and service.** -/
def make (start stop : Instant) (verdicts : VerdictSet) (maxRecords : Nat) :
    Except FlowError FlowQuery :=
  if hw : start < stop then
    if hm : 0 < maxRecords then
      if hv : verdicts.isEmpty = false then
        .ok ⟨⟨start, stop, hw⟩, verdicts, none, [], maxRecords, hm, hv⟩
      else .error .noVerdicts
    else .error .invalidMaxRecords
  else .error (.invalidRange start stop)

/-- The query for flows with a group on one side, in place of any group asked for before. -/
def restrictedTo (q : FlowQuery) (side : Side) (href : String) : FlowQuery :=
  { q with group := some ⟨side, href⟩ }

/-- The query that leaves out these services, in place of any left out before. -/
def excluding (q : FlowQuery) (services : List ServicePort) : FlowQuery :=
  { q with excluded := services }

/-- The same query over another window. -/
def withWindow (q : FlowQuery) (w : Window) : FlowQuery := { q with window := w }

/-- **The query over the two halves of its window.** -/
def split? (q : FlowQuery) : Option (FlowQuery × FlowQuery) :=
  q.window.split?.map fun (left, right) => (q.withWindow left, q.withWindow right)

/-! ## Views -/

/-- The first instant of the window. -/
def start (q : FlowQuery) : Instant := q.window.start

/-- The instant that ends the window. -/
def stop (q : FlowQuery) : Instant := q.window.stop

/-- The href of the group that one side is restricted to. -/
def groupOn? (q : FlowQuery) (side : Side) : Option String :=
  (q.group.filter (·.side = side)).map (·.href)

end FlowQuery

/-! ## What a query admits -/

/-- The endpoint of a flow on one side. -/
def FlowRecord.endpoint (r : FlowRecord) : Side → Endpoint
  | .source => r.src
  | .destination => r.dst

/-- A flow has the group on the side. -/
def GroupFilter.admits (g : GroupFilter) (r : FlowRecord) : Bool :=
  (r.endpoint g.side).carries g.href

/-- The flow is one that the query asks for. -/
def FlowQuery.admits (q : FlowQuery) (r : FlowRecord) : Bool :=
  q.window.contains r.firstSeen && q.verdicts.contains r.verdict &&
    q.group.all (·.admits r) && !q.excluded.contains r.service

end TrafficDigest
