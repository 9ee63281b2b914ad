import TrafficDigest.Fetch

/-!
# Flows in memory

A source that answers from a list of records and keeps a log of what it was asked.  Calls are
numbered from zero, and a call can be made to fail by its number.
-/

namespace TrafficDigest

/-- Records to answer from, and the numbers of the calls that fail, with the text of the failure. -/
structure FlowStore where
  records : List FlowRecord
  failures : List (Nat × String) := []

namespace FlowStore

/-- A call that was made. -/
structure Call where
  window : Window
  /-- The number of records in the answer; none for a call that failed. -/
  returned : Option Nat
  deriving DecidableEq, Repr

/-- **The answer to a query:** the records it admits, in their order, as many as it asks for. -/
def select (s : FlowStore) (q : FlowQuery) : List FlowRecord :=
  (s.records.filter q.admits).take q.maxRecords

/-- The source that answers from the store and logs its calls. -/
def source (s : FlowStore) : Source (Array Call) := fun q => do
  let calls ← get
  match s.failures.lookup calls.size with
  | some text =>
    set (calls.push ⟨q.window, none⟩)
    throw (.sourceFailure text)
  | none =>
    let records := s.select q
    set (calls.push ⟨q.window, some records.length⟩)
    return records

end FlowStore

end TrafficDigest
