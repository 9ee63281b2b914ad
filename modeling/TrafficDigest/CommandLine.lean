import TrafficDigest.CommandLine.Scan
import TrafficDigest.Fetch
import TrafficDigest.Query.Intent

/-!
# The command line

The arguments of a command, as they come out of the words of a command line, and what they ask for:
an intent and the settings of the fetch.
-/

namespace TrafficDigest.CommandLine

/-- What a command line asks for. -/
structure Arguments where
  command : Command
  configFile : Option String
  out : OutputFormat
  debug : Bool
  /-- The name of an application. -/
  app : Option String
  start : Option String
  stop : Option String
  verdicts : VerdictSet
  /-- The file that lists services to leave out. -/
  exclusionFile : Option String
  maxRecords : Nat
  threshold : Nat
  concurrency : Nat
  outputFile : Option String
  /-- Groups have the location in their names. -/
  withLocation : Bool
  deriving DecidableEq, Repr

/-! ## Settings with their values -/

/-- Settings with the values they were given. -/
abbrev Given := List (Setting × Value)

namespace Given

/-- The setting is on. -/
def isOn (g : Given) (setting : Setting) : Bool := (g.lookup setting).isSome

/-- The text that a setting was given. -/
def text? (g : Given) (setting : Setting) : Option String :=
  match g.lookup setting with
  | some (.text s) => some s
  | _ => none

/-- The number that a setting was given, or its default. -/
def number (g : Given) (setting : Setting) (default : Nat) : Nat :=
  match g.lookup setting with
  | some (.number n) => n
  | _ => default

/-- The format that a setting was given, or its default. -/
def format (g : Given) (setting : Setting) (default : OutputFormat) : OutputFormat :=
  match g.lookup setting with
  | some (.format f) => f
  | _ => default

end Given

/-- **The arguments in the words of a command line.** -/
def parse (words : List String) : Except UsageError Arguments := do
  let (command, given) ← scan words
  let given : Given := given
  let defaults : Fetch.Settings := {}
  return {
    command
    configFile := given.text? .configFile
    out := given.format .out .csv
    debug := given.isOn .debug
    app := given.text? .app
    start := given.text? .start
    stop := given.text? .stop
    verdicts := ⟨!given.isOn .excludeAllowed, !given.isOn .excludePotentiallyBlocked,
      !given.isOn .excludeBlocked⟩
    exclusionFile := given.text? .exclusionFile
    maxRecords := given.number .maxRecords defaultMaxRecords
    threshold := given.number .threshold defaults.threshold
    concurrency := given.number .concurrency defaults.concurrency
    outputFile := given.text? .outputFile
    withLocation := given.isOn .withLocation }

/-! ## Default dates -/

/-- The day five years before a day; of a leap day, the day 1825 days before. -/
def defaultStart (today : Date) : Date :=
  let d : Date := { today with year := today.year - 5 }
  if d.Exists then d else .ofDayNumber (today.dayNumber - 5 * 365)

/-- The day after a day. -/
def defaultStop (today : Date) : Date := .ofDayNumber (today.dayNumber + 1)

/-! ## What is asked for -/

namespace Arguments

/-- **The intent.**  Dates and the list of services are checked here, before anything is sent; the
group is checked later, against the labels. -/
def intent (a : Arguments) (fs : FileSystem) (today : Date) : Except FlowError Intent := do
  let start := a.start.getD (Instant.dateText (defaultStart today))
  let stop := a.stop.getD (Instant.dateText (defaultStop today))
  discard (parseDate start)
  discard (parseDate stop)
  let excluded ← match a.exclusionFile with
    | none => pure []
    | some path => (loadExclusions fs path).mapError .malformedExclusions
  return { start, stop, verdicts := a.verdicts, group := a.app, excluded,
           maxRecords := a.maxRecords }

/-- **The settings of the fetch.**  No answer has more than the most records asked for, so a higher
threshold would never be reached. -/
def settings (a : Arguments) : Except FlowError Fetch.Settings := do
  let s : Fetch.Settings := ⟨min a.threshold a.maxRecords, a.concurrency⟩
  s.check
  return s

end Arguments

end TrafficDigest.CommandLine
