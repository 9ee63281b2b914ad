import TrafficDigest.Label
import TrafficDigest.Query

/-!
# Intents

What a user asks for, before any of it is checked: dates as text, an application by its name.
`parseDate` reads a date; `Intent.queries` checks an intent and turns it into queries.  A group is
asked for in two queries, one for either side, because one query restricts one side only.
-/

namespace TrafficDigest

/-! ## Dates -/

/-- The date written as four digits, two digits and two digits with hyphens between them. -/
def readDay : List Char → Option Date
  | [y₁, y₂, y₃, y₄, '-', m₁, m₂, '-', d₁, d₂] => do
    let year ← Text.readDigits [y₁, y₂, y₃, y₄]
    let month ← Text.readDigits [m₁, m₂]
    let day ← Text.readDigits [d₁, d₂]
    Date.ofFields? year month day
  | _ => none

/-- **Midnight UTC of a day**, written zero-padded as year, month and day.  There may be blanks
around it. -/
def parseDate (input : String) : Except FlowError Instant :=
  match readDay (Text.trim input.toList) with
  | some date => .ok (Instant.midnight date)
  | none => .error (.invalidDate input)

/-! ## Intents -/

/-- The most records that an answer has unless another number is asked for. -/
def defaultMaxRecords : Nat := 100000

/-- What a user asks for. -/
structure Intent where
  start : String
  stop : String
  /-- The verdicts whose flows are wanted. -/
  verdicts : VerdictSet := ⟨true, true, true⟩
  /-- The name of an application. -/
  group : Option String := none
  excluded : List ServicePort := []
  maxRecords : Nat := defaultMaxRecords
  deriving DecidableEq, Repr

namespace Intent

/-- The application that is asked for; an empty name asks for none. -/
def groupName? (i : Intent) : Option String := i.group.filter (· ≠ "")

/-- The query for everything that is asked for, but for the group. -/
def baseQuery (i : Intent) : Except FlowError FlowQuery := do
  let start ← parseDate i.start
  let stop ← parseDate i.stop
  let q ← FlowQuery.make start stop i.verdicts i.maxRecords
  return q.excluding i.excluded

/-- **The queries for an intent**: one, or one for either side of the group asked for. -/
def queries (i : Intent) (labels : LabelDirectory) : Except FlowError (List FlowQuery) := do
  let base ← i.baseQuery
  match i.groupName? with
  | none => return [base]
  | some name =>
    match labels.findGroup? name with
    | none => throw (.unknownGroup name)
    | some href => return [base.restrictedTo .source href, base.restrictedTo .destination href]

end Intent

end TrafficDigest
