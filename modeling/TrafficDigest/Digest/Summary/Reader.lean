import TrafficDigest.Digest.Summary
import TrafficDigest.Text

/-!
# Reading a summary

The way back from the rows of a summary to the digest.  A service is read only in the form in which
it is written; the order in which the services of a row come is of no account.
-/

namespace TrafficDigest

namespace Tally

/-- The ranked service that has this text: its signature ends before the parenthesis, and its number
is what follows, up to the next space. -/
def readRanked? (cs : List Char) : Option (String × UInt64) := do
  let signature := (cs.takeWhile (· ≠ '(')).dropLast
  let digits := (cs.drop (signature.length + 2)).takeWhile (· ≠ ' ')
  let entry := (String.ofList signature, .ofNat (← Text.readDigits digits))
  if cs = (entryText entry).toList then some entry else none

/-- **The tally of a text** of services with semicolons between them. -/
def read? (text : String) : Option Tally :=
  ((text.toList.splitOn ';').mapM readRanked?).map .ofList

end Tally

namespace SummaryRow

/-- The column for a verdict. -/
def column (r : SummaryRow) : Verdict → String
  | .allowed => r.allowed
  | .potentiallyBlocked => r.potentiallyBlocked
  | .blocked => r.blocked

/-- The verdict whose column is filled, the first if there are several. -/
def verdict? (r : SummaryRow) : Option Verdict := Verdict.all.find? (r.column · ≠ "")

/-- The key of a row with the tally in its filled column. -/
def read? (r : SummaryRow) : Option (GroupKey × Tally) := do
  let verdict ← r.verdict?
  let tally ← Tally.read? (r.column verdict)
  return (⟨r.source, r.destination, verdict⟩, tally)

end SummaryRow

/-- **The digest of the rows of a summary.** -/
def Digest.ofSummary? (rows : List SummaryRow) : Option Digest :=
  (rows.mapM SummaryRow.read?).map .ofList

end TrafficDigest
