import TrafficDigest.Digest
import TrafficDigest.Fetch

/-!
# Summaries

The rows of a summary: one for each key of a digest, in the order of the keys, with the services
ranked by their connections in the column of the key's verdict.

`FlowSummary.fetch` makes the summary of what queries ask for: fetching, digesting and ranking in
one go.  Nothing comes out unless every part of the fetch succeeded.
-/

namespace TrafficDigest

/-! ## Ranking -/

/-- A service with its connections goes before another: more connections first, then the smaller
signature. -/
def rankedBefore (a b : String × UInt64) : Bool := b.2 < a.2 || (a.2 == b.2 && a.1 ≤ b.1)

namespace Tally

/-- **The services by their connections**, most first. -/
def ranked (t : Tally) : List (String × UInt64) := t.entries.mergeSort rankedBefore

/-- The text of one ranked service. -/
def entryText (entry : String × UInt64) : String :=
  entry.1 ++ " (" ++ toString entry.2.toNat ++ " flows)"

/-- The ranked services in one line, with semicolons between them. -/
def text (t : Tally) : String := ";".intercalate (t.ranked.map entryText)

end Tally

/-! ## Rows -/

/-- The names of the columns. -/
def summaryHeaders : List String :=
  ["src_app_group", "dst_app_group", "allowed_flow_summary", "potentially_blocked_flow_summary",
    "blocked_flow_summary"]

/-- A row of a summary; two of its three last columns are empty. -/
structure SummaryRow where
  source : String
  destination : String
  allowed : String := ""
  potentiallyBlocked : String := ""
  blocked : String := ""
  deriving DecidableEq, Repr

namespace SummaryRow

/-- The row for a key, with the text in the column of its verdict. -/
def make (key : GroupKey) (text : String) : SummaryRow :=
  let row : SummaryRow := { source := key.source, destination := key.destination }
  match key.verdict with
  | .allowed => { row with allowed := text }
  | .potentiallyBlocked => { row with potentiallyBlocked := text }
  | .blocked => { row with blocked := text }

/-- The columns in their order. -/
def columns (r : SummaryRow) : List String :=
  [r.source, r.destination, r.allowed, r.potentiallyBlocked, r.blocked]

end SummaryRow

/-- **The rows of a digest.** -/
def Digest.summary (d : Digest) : List SummaryRow :=
  d.entries.map fun (key, tally) => SummaryRow.make key tally.text

/-! ## From queries to summaries -/

/-- The flows that queries asked for, digested. -/
structure FlowSummary where
  rows : List SummaryRow
  digest : Digest
  recordsFetched : Nat
  truncated : List Fetch.Truncation

namespace FlowSummary

/-- The summary of what was fetched, given its digest. -/
def ofDigest (digest : Digest) (o : Fetch.Outcome) : FlowSummary :=
  ⟨digest.summary, digest, o.records.length, o.truncated⟩

/-- The summary of what was fetched, in an unchecked build. -/
def ofOutcome (resolve : Resolver) (o : Fetch.Outcome) : FlowSummary :=
  ofDigest (.ofRecords resolve o.records) o

/-- **The summary of all flows that the queries ask for**, in an unchecked build. -/
def fetch {σ : Type} (source : Source σ) (settings : Fetch.Settings) (queries : List FlowQuery)
    (resolve : Resolver) : ExceptT FlowError (StateM σ) FlowSummary := do
  let outcome ← Fetch.fetchAll source settings queries
  return ofOutcome resolve outcome

end FlowSummary

end TrafficDigest
