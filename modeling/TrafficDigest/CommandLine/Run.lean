import TrafficDigest.CommandLine
import TrafficDigest.CommandLine.Notice
import TrafficDigest.Digest.Summary
import TrafficDigest.Explorer
import TrafficDigest.Pce.Client
import TrafficDigest.Pce.Config

/-!
# Running a command

A command checks what it was asked for, loads what it needs from the policy engine, fetches flows,
and writes its report.  All that it does shows in its state: the exchange with the policy engine,
the files, and the notices.  The digest is the one of an unchecked build.  Nothing is sent before
the dates, the list of services, the settings and the configuration were found good, each by itself
(whether the dates are in order comes out when the queries are made), and nothing is written before
everything was fetched.
-/

namespace TrafficDigest.CommandLine

/-! ## Surroundings and state -/

/-- What a command finds when it starts. -/
structure Surroundings where
  environment : Pce.Environment
  today : Date
  /-- The time for the name of a file. -/
  stamp : String

/-- The name of a file tells the time to the second. -/
def fileStamp (now : Instant) : String :=
  let (hour, minute, second) := now.clock
  let d := now.date
  Text.padZeros 4 d.year.toNat ++ Text.padZeros 2 d.month ++ Text.padZeros 2 d.day ++ "_" ++
    Text.padZeros 2 hour ++ Text.padZeros 2 minute ++ Text.padZeros 2 second

/-- What a command finds when it starts at an instant. -/
def Surroundings.at (environment : Pce.Environment) (now : Instant) : Surroundings :=
  ⟨environment, now.date, fileStamp now⟩

/-- The paths of the files that a command may read. -/
def Arguments.inputs (a : Arguments) (environment : Pce.Environment) : List String :=
  Pce.Config.locate environment a.configFile :: a.exclusionFile.toList

/-- What a command changes. -/
structure RunState where
  session : Http.Session
  files : FileSystem
  notices : Array Notice := #[]

/-- Why a command failed. -/
inductive RunError where
  | flow (e : FlowError)
  | config (e : Pce.ConfigError)
  | client (e : Pce.ClientError)
  | report (e : ReportError)
  deriving DecidableEq, Repr

/-- What is reported about an error. -/
def RunError.message : RunError → String
  | flow e => e.message
  | config e => e.message
  | client e => e.message
  | report e => e.message

/-- What a command does. -/
abbrev RunM := ExceptT RunError (StateM RunState)

/-! ## Steps -/

/-- A notice. -/
def say (n : Notice) : RunM Unit := modify fun s => { s with notices := s.notices.push n }

/-- The outcome of a check. -/
def check {ε α : Type} (wrap : ε → RunError) (e : Except ε α) : RunM α :=
  ExceptT.mk (pure (e.mapError wrap))

/-- What is done in the exchange with the policy engine. -/
def inSession {ε α : Type} (wrap : ε → RunError) (m : ExceptT ε (StateM Http.Session) α) :
    RunM α := do
  let s ← get
  let (result, session) := m.run s.session
  set { s with session }
  check wrap result

/-- Warnings about windows that may lack flows. -/
def warn (truncated : List Fetch.Truncation) : RunM Unit :=
  truncated.forM fun t => say (.truncated t)

/-- The name of the file for a report that was not given another. -/
def defaultFileName (command : Command) (stamp : String) : String :=
  "flowscope-" ++ command.name ++ "-" ++ stamp ++ ".csv"

/-- The path of the file for the report. -/
def Arguments.output (a : Arguments) (around : Surroundings) : String :=
  a.outputFile.getD (defaultFileName a.command around.stamp)

/-- **Shows and writes a report** as the arguments ask for.  The path is given if a file was
written. -/
def emit (a : Arguments) (around : Surroundings) (report : Report) : RunM (Option String) := do
  let path := a.output around
  if a.out.showsTable then say (.table report)
  if a.out.writesFile then
    let s ← get
    let files ← check .report (report.write s.files path)
    set { s with files }
    return some path
  else return none

/-! ## Commands -/

/-- What is checked before anything is sent. -/
structure Checked where
  intent : Intent
  settings : Fetch.Settings
  config : Pce.Config

/-- **The checks before anything is sent.** -/
def checkAll (a : Arguments) (around : Surroundings) : RunM Checked := do
  let s ← get
  let intent ← check .flow (a.intent s.files around.today)
  let settings ← check .flow a.settings
  let config ← check .config (Pce.Config.load s.files around.environment a.configFile)
  return { intent, settings, config }

/-- The labels and the queries that they give. -/
def loadQueries (a : Arguments) (c : Checked) : RunM (LabelDirectory × List FlowQuery) := do
  say (.loading a.command c.config.displayName)
  let labels ← inSession .client (Pce.labels c.config)
  let queries ← check .flow (c.intent.queries labels)
  return (labels, queries)

/-- **Summarises flows** by group and service. -/
def runFlowSummary (a : Arguments) (around : Surroundings) : RunM Unit := do
  let c ← checkAll a around
  let (labels, queries) ← loadQueries a c
  say (.fetching queries.length c.intent.start c.intent.stop)
  let summary ← inSession .flow
    (FlowSummary.fetch (Pce.source c.config) c.settings queries (labels.identity a.withLocation))
  warn summary.truncated
  say (.folded summary.recordsFetched summary.rows.length)
  if summary.rows.isEmpty then say (.nothing a.command)
  else
    say (.writing a.command)
    let path ← emit a around ⟨summaryHeaders, summary.rows.map (·.columns)⟩
    say (.exportedSummaries path summary.rows.length)

/-- **Exports flows**, one row each. -/
def runExplorer (a : Arguments) (around : Surroundings) : RunM Unit := do
  let c ← checkAll a around
  let (labels, queries) ← loadQueries a c
  let workloads ← inSession .client (Pce.workloads c.config)
  say (.fetching queries.length c.intent.start c.intent.stop)
  let outcome ← inSession .flow (Fetch.fetchAll (Pce.source c.config) c.settings queries)
  warn outcome.truncated
  say (.fetched outcome.records.length outcome.windows)
  if outcome.records.isEmpty then say (.nothing a.command)
  else
    say (.writing a.command)
    let rows := outcome.records.map fun r => (ExplorerRow.ofRecord labels workloads r).columns
    let path ← emit a around ⟨explorerHeaders, rows⟩
    path.forM fun path => say (.exportedFlows path)

/-- **Runs the command** that the arguments ask for.  Its requests are answered one after the other,
in the order of sending, so the concurrency that the arguments give makes no difference here. -/
def run (a : Arguments) (around : Surroundings) : RunM Unit :=
  match a.command with
  | .flowSummary => runFlowSummary a around
  | .explorer => runExplorer a around

end TrafficDigest.CommandLine
