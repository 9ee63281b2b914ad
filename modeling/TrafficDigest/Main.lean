import Std.Time.DateTime.Timestamp
import TrafficDigest.CommandLine.Run
import TrafficDigest.CommandLine.Usage
import TrafficDigest.Http.Recording

/-!
# The program

Looks up what a command depends on (the clock, the environment, the files it may read, and the
recorded replies of the policy engine), runs it, writes the files that it made and says what it has
to say.  Whatever is decided is decided by `CommandLine.parse` and `CommandLine.run`.
-/

namespace TrafficDigest.Program

/-- The variable that names the file with the recording of the replies. -/
def recordingVariable : String := "FLOWSCOPE_RECORDING"

/-- The text of a file, if there is one that can be read. -/
def readFile? (path : String) : IO (Option String) := do
  try
    return some (← IO.FS.readFile path)
  catch _ =>
    return none

/-- The variables of the environment that are set. -/
def readEnvironment : IO Pce.Environment :=
  Pce.variableNames.filterMapM fun name => return (← IO.getEnv name).map (name, ·)

/-- The files that a command may read, with the directory that it may write to. -/
def readFiles (a : CommandLine.Arguments) (around : CommandLine.Surroundings) :
    IO FileSystem := do
  let files ← (a.inputs around.environment).filterMapM fun path =>
    return (← readFile? path).map (path, ·)
  let directory := (FileSystem.location (a.output around)).dropLast
  return { FileSystem.ofFiles files with directories := [directory] }

/-- The recorded replies; none without a recording. -/
def readReplies : IO (List Http.Reply) := do
  let text ← match ← IO.getEnv recordingVariable with
    | some path => readFile? path
    | none => pure none
  return (text.bind Http.Recording.read?).getD []

/-- The instant it is now, to the second. -/
def now : IO Instant := do
  let t ← Std.Time.Timestamp.now
  return .ofNanos (t.toSecondsSinceUnixEpoch.val * nanosPerSecond)

/-- Runs a command and gives the code to exit with. -/
def run (a : CommandLine.Arguments) : IO UInt32 := do
  let started ← IO.monoMsNow
  let around := CommandLine.Surroundings.at (← readEnvironment) (← now)
  let files ← readFiles a around
  let session : Http.Session := { replies := ← readReplies }
  let (result, after) := (CommandLine.run a around).run.run { session, files }
  for (location, text) in files.changedFiles after.files do
    IO.FS.writeFile ("/".intercalate location) text
  let elapsed := CommandLine.secondsText ((← IO.monoMsNow) - started)
  for notice in after.notices do
    IO.print (notice.text elapsed)
  match result with
  | .ok () => return 0
  | .error e =>
    IO.eprintln ("error: " ++ e.message)
    return 1

end TrafficDigest.Program

/-- The program. -/
def main (words : List String) : IO UInt32 :=
  match TrafficDigest.CommandLine.parse words with
  | .ok a => TrafficDigest.Program.run a
  | .error e => do
    if e.isAnswer then
      IO.println e.message
      return 0
    else
      IO.eprintln ("error: " ++ e.message)
      return 2
