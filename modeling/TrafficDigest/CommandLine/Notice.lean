import TrafficDigest.CommandLine.Setting
import TrafficDigest.Fetch
import TrafficDigest.Report
import TrafficDigest.Table

/-!
# Notices

What a command says while it runs, each notice with its wording.  How long the command took is
known to the caller only, who gives it for the wording of the last notice.
-/

namespace TrafficDigest.CommandLine

/-- A notice to the user. -/
inductive Notice where
  /-- Labels are loaded and, by the explorer, workloads. -/
  | loading (command : Command) (pce : String)
  | fetching (queries : Nat) (start stop : String)
  | truncated (t : Fetch.Truncation)
  | folded (records pairs : Nat)
  | fetched (records windows : Nat)
  | nothing (command : Command)
  | writing (command : Command)
  | table (report : Report)
  /-- Flows were exported to a file. -/
  | exportedFlows (path : String)
  /-- Summaries were exported, perhaps to a file. -/
  | exportedSummaries (path : Option String) (rows : Nat)
  deriving DecidableEq, Repr

/-- Seconds with one digit after the point, from milliseconds. -/
def secondsText (millis : Nat) : String :=
  let tenths := (millis + 50) / 100
  toString (tenths / 10) ++ "." ++ toString (tenths % 10) ++ "s"

namespace Notice

/-- **The wording**, with the line break at its end. -/
def text (elapsed : String) : Notice → String
  | loading .flowSummary pce => "  [1/3] loading labels from " ++ pce ++ "\n"
  | loading .explorer pce => "  [1/3] loading labels and workloads from " ++ pce ++ "\n"
  | fetching queries start stop =>
    "  [2/3] fetching traffic " ++ toString queries ++ " query(s), " ++ start ++ " to " ++ stop ++
      "\n"
  | truncated t =>
    "  warning: " ++ t.window.start.text ++ " to " ++ t.window.stop.text ++ " returned " ++
      toString t.returned ++ " records and could not be split further\n"
  | folded records pairs =>
    "        " ++ toString records ++ " flows folded into " ++ toString pairs ++
      " app group pairs\n"
  | fetched records windows =>
    "        " ++ toString records ++ " flows across " ++ toString windows ++ " windows\n"
  | nothing .flowSummary => "\n  note: no explorer data to summarize\n"
  | nothing .explorer => "\n  note: no explorer data to export\n"
  | writing .flowSummary => "  [3/3] writing summaries\n"
  | writing .explorer => "  [3/3] writing flows\n"
  | table report => Table.render report.headers report.rows ++ "\n"
  | exportedFlows path => "\n  explorer -> " ++ path ++ "\n"
  | exportedSummaries path rows =>
    "\n" ++ (path.elim "" fun path => "  summary -> " ++ path ++ "\n") ++
      "  done: " ++ toString rows ++ " summaries exported in " ++ elapsed ++ "\n"

end Notice

end TrafficDigest.CommandLine
