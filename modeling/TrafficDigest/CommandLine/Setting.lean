import TrafficDigest.Text

/-!
# Settings of the command line

What can be set on the command line, how each setting is written, what values it takes, and the
ways in which a command line can be at fault.
-/

namespace TrafficDigest.CommandLine

/-! ## Errors -/

/-- Why a command line is not carried out. -/
inductive UsageError where
  | unknownArgument
  /-- A value that is no number. -/
  | valueValidation
  /-- A value that is missing, empty where it must not be, or not one of those possible. -/
  | invalidValue
  | invalidSubcommand
  | missingSubcommand
  /-- A setting that is given twice. -/
  | argumentConflict
  /-- A value for a setting that takes none. -/
  | tooManyValues
  | displayHelp
  | displayVersion
  /-- Nothing was asked for. -/
  | displayHelpOnMissing
  deriving DecidableEq, Repr

/-! ## Commands and output -/

/-- The commands. -/
inductive Command where
  | flowSummary
  | explorer
  deriving DecidableEq, Repr

namespace Command

/-- All commands. -/
def all : List Command := [flowSummary, explorer]

/-- The word for a command. -/
def name : Command → String
  | flowSummary => "flow-summary"
  | explorer => "explorer"

/-- The command with this word. -/
def ofName? (word : String) : Option Command := all.find? (·.name == word)

end Command

/-- Where a report goes. -/
inductive OutputFormat where
  | csv
  | stdout
  | both
  deriving DecidableEq, Repr

namespace OutputFormat

/-- The report is written to a file. -/
def writesFile (f : OutputFormat) : Bool := f != stdout

/-- The report is shown as a table. -/
def showsTable (f : OutputFormat) : Bool := f != csv

/-- The word for a format. -/
def ofName? (word : String) : Option OutputFormat :=
  [("csv", csv), ("stdout", stdout), ("both", both)].lookup word

end OutputFormat

/-! ## Settings -/

/-- What can be set. -/
inductive Setting where
  | configFile
  | out
  | debug
  | app
  | start
  | stop
  | excludeAllowed
  | excludePotentiallyBlocked
  | excludeBlocked
  | exclusionFile
  | maxRecords
  | threshold
  | concurrency
  | outputFile
  | withLocation
  | help
  | version
  deriving DecidableEq, Repr

/-- What values a setting takes. -/
inductive ValueKind where
  /-- None: the setting is off unless it is given. -/
  | switch
  | text
  /-- A path, which is not empty. -/
  | path
  | number
  | format
  deriving DecidableEq, Repr

namespace Setting

/-- The settings that every command has. -/
def common : List Setting := [configFile, out, debug, help, version]

/-- The settings of a command. -/
def ofCommand (c : Command) : List Setting :=
  common ++ [app, start, stop, excludeAllowed, excludePotentiallyBlocked, excludeBlocked,
    exclusionFile, maxRecords, threshold, concurrency, outputFile] ++
    if c = .flowSummary then [withLocation] else []

/-- The name after two hyphens. -/
def longName : Setting → String
  | configFile => "config-file"
  | out => "out"
  | debug => "debug"
  | app => "app"
  | start => "start"
  | stop => "end"
  | excludeAllowed => "exclude-allowed"
  | excludePotentiallyBlocked => "exclude-potentially-blocked"
  | excludeBlocked => "exclude-blocked"
  | exclusionFile => "exclude-service-csv"
  | maxRecords => "max-records"
  | threshold => "threshold"
  | concurrency => "concurrency"
  | outputFile => "output-file"
  | withLocation => "app-group-loc"
  | help => "help"
  | version => "version"

/-- The letter after one hyphen. -/
def letter? : Setting → Option Char
  | app => some 'a'
  | start => some 's'
  | stop => some 'e'
  | exclusionFile => some 'x'
  | help => some 'h'
  | version => some 'V'
  | _ => none

/-- The values that a setting takes. -/
def kind : Setting → ValueKind
  | configFile | exclusionFile | outputFile => .path
  | out => .format
  | app | start | stop => .text
  | maxRecords | threshold | concurrency => .number
  | _ => .switch

end Setting

/-! ## Values -/

/-- The value of a setting. -/
inductive Value where
  | on
  | text (s : String)
  | number (n : Nat)
  | format (f : OutputFormat)
  deriving DecidableEq, Repr

/-- The largest number. -/
def maxNumber : Nat := UInt64.size - 1

/-- **The value that a text stands for.** -/
def ValueKind.read (kind : ValueKind) (text : String) : Except UsageError Value :=
  match kind with
  | .switch => .ok .on
  | .text => .ok (.text text)
  | .path => if text = "" then .error .invalidValue else .ok (.text text)
  | .number =>
    match Text.readUnsigned maxNumber text.toList with
    | some n => .ok (.number n)
    | none => .error .valueValidation
  | .format =>
    match OutputFormat.ofName? text with
    | some f => .ok (.format f)
    | none => .error .invalidValue

end TrafficDigest.CommandLine
