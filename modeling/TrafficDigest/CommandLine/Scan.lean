import TrafficDigest.CommandLine.Setting

/-!
# Scanning a command line

The words of a command line are scanned from left to right.  A setting that takes a value *waits*
for it: the next word is its value unless it looks like a setting.  What waits is looked at when the
next setting comes or the words end, and not before; of several faults the first that is looked at
decides.  A word that is an unknown setting ends the scan at once.
-/

namespace TrafficDigest.CommandLine

/-- What was found so far. -/
structure Scan where
  given : List (Setting × Value) := []
  /-- The last setting, with its value if that came. -/
  waiting : Option (Setting × Option String) := none
  deriving DecidableEq, Repr

namespace Scan

/-! ## Taking settings -/

/-- The next word may be a value. -/
def expectsValue (s : Scan) : Bool := s.waiting.any (·.2.isNone)

/-- A setting with its value; no setting is given twice. -/
def give (s : Scan) (setting : Setting) (text : String) : Except UsageError Scan :=
  if s.given.any (·.1 == setting) then .error .argumentConflict
  else do
    let value ← setting.kind.read text
    return { s with given := s.given ++ [(setting, value)] }

/-- **Looks at what waits.** -/
def settle (s : Scan) : Except UsageError Scan :=
  match s.waiting with
  | none => .ok s
  | some (_, none) => .error .invalidValue
  | some (setting, some text) => { s with waiting := none }.give setting text

/-- A setting without a value. -/
def turnOn (s : Scan) (setting : Setting) : Except UsageError Scan := do
  let s ← s.settle
  match setting with
  | .help => throw .displayHelp
  | .version => throw .displayVersion
  | _ => s.give setting ""

/-- A setting with a value in the same word. -/
def attach (s : Scan) (setting : Setting) (text : String) : Except UsageError Scan := do
  let s ← s.settle
  s.give setting text

/-- A setting whose value is another word. -/
def await (s : Scan) (setting : Setting) : Except UsageError Scan := do
  let s ← s.settle
  return { s with waiting := some (setting, none) }

/-! ## Words -/

/-- A word with two hyphens: the name of a setting and, after an equals sign, its value. -/
def takeLong (settings : List Setting) (s : Scan) (word : List Char) : Except UsageError Scan :=
  let name := String.ofList (word.takeWhile (· != '='))
  match settings.find? (·.longName == name), word.dropWhile (· != '=') with
  | none, _ => .error .unknownArgument
  | some setting, [] => if setting.kind = .switch then s.turnOn setting else s.await setting
  | some setting, _ :: text =>
    if setting.kind = .switch then .error .tooManyValues
    else s.attach setting (String.ofList text)

/-- A word with one hyphen: letters of settings.  What follows the letter of a setting with a value
is that value, with or without an equals sign before it. -/
def takeLetters (settings : List Setting) (s : Scan) : List Char → Except UsageError Scan
  | [] => .ok s
  | c :: rest =>
    match settings.find? (·.letter? == some c) with
    | none => .error .unknownArgument
    | some setting =>
      if setting.kind = .switch then do
        let s ← s.turnOn setting
        takeLetters settings s rest
      else match rest with
        | [] => s.await setting
        | '=' :: text => s.attach setting (String.ofList text)
        | text => s.attach setting (String.ofList text)

end Scan

/-! ## Command lines -/

/-- What the words of a command line may be. -/
structure Level where
  settings : List Setting
  /-- The words for commands, whose own words follow. -/
  commands : List String

/-- A word that is no setting, no value and no command. -/
def Level.stray (level : Level) (afterEscape : Bool) (word : String) : UsageError :=
  if level.commands.isEmpty || (afterEscape && level.commands.contains word) then .unknownArgument
  else .invalidSubcommand

/-- **Scans words** up to the end or the first command.  After a word of two hyphens, no word is a
setting or a command. -/
def Level.scan (level : Level) (afterEscape : Bool) (s : Scan) :
    List String → Except UsageError (Scan × Option (String × List String))
  | [] => .ok (s, none)
  | word :: words =>
    if afterEscape then .error (level.stray true word)
    else if !s.expectsValue && level.commands.contains word then .ok (s, some (word, words))
    else match word.toList with
      | ['-', '-'] => level.scan true s words
      | '-' :: '-' :: name => do
        let s ← s.takeLong level.settings name
        level.scan false s words
      | '-' :: c :: letters => do
        let s ← s.takeLetters level.settings (c :: letters)
        level.scan false s words
      | _ =>
        match s.waiting with
        | some (setting, none) =>
          level.scan false { s with waiting := some (setting, some word) } words
        | _ => .error (level.stray false word)

/-- The words of one command. -/
def Command.level (c : Command) : Level := ⟨Setting.ofCommand c, []⟩

/-- The word that asks for help on a command. -/
def helpWord : String := "help"

/-- The words before the command. -/
def mainLevel : Level := ⟨Setting.common, Command.all.map (·.name) ++ [helpWord]⟩

/-- What comes of asking for help on a command. -/
def helpOn (words : List String) : UsageError :=
  match words with
  | [] => .displayHelp
  | [word] => if mainLevel.commands.contains word then .displayHelp else .invalidSubcommand
  | _ => .invalidSubcommand

/-- **The command and the settings that are given**, those after the command first.  A setting
before the command that still waits is looked at last. -/
def scan (words : List String) : Except UsageError (Command × List (Setting × Value)) := do
  let (before, found) ← mainLevel.scan false {} words
  match found with
  | none => do
    let before ← before.settle
    throw (if before.given.isEmpty then .displayHelpOnMissing else .missingSubcommand)
  | some (word, rest) =>
    match Command.ofName? word with
    | none => throw (helpOn rest)
    | some command => do
      let (after, _) ← command.level.scan false {} rest
      let after ← after.settle
      let before ← before.settle
      return (command, after.given ++ before.given)

end TrafficDigest.CommandLine
