import TrafficDigest.CommandLine.Setting

/-!
# Help on the command line

What is shown to someone who asks for help, and to someone whose words could not be carried out.
-/

namespace TrafficDigest.CommandLine

/-- How a setting is written. -/
def Setting.synopsis (s : Setting) : String :=
  (s.letter?.elim "    " fun c => "-" ++ c.toString ++ ", ") ++ "--" ++ s.longName ++
    match s.kind with
    | .switch => ""
    | .text => " TEXT"
    | .path => " PATH"
    | .number => " NUMBER"
    | .format => " csv|stdout|both"

/-- The commands and their settings. -/
def helpText : String :=
  "Usage: COMMAND [SETTINGS]\n" ++ String.join (Command.all.map fun c =>
    "\n" ++ c.name ++ "\n" ++ String.join ((Setting.ofCommand c).map fun s =>
      "  " ++ s.synopsis ++ "\n"))

namespace UsageError

/-- What is reported about an error. -/
def message : UsageError → String
  | unknownArgument => "unexpected argument"
  | valueValidation => "a value is no number"
  | invalidValue => "a value is missing or is not a possible one"
  | invalidSubcommand => "unrecognized command"
  | missingSubcommand => "a command is required"
  | argumentConflict => "a setting is given twice"
  | tooManyValues => "a setting takes no value"
  | displayHelp | displayHelpOnMissing => helpText
  | displayVersion => "0.1.0"

/-- The user was not at fault. -/
def isAnswer : UsageError → Bool
  | displayHelp | displayVersion => true
  | _ => false

end UsageError

end TrafficDigest.CommandLine
