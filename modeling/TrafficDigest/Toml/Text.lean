import TrafficDigest.Json.Token

/-!
# Strings, keys and line ends of TOML documents

Each reader takes something from the front of a text and gives what follows it.  Strings come in
four forms: in double or single quotes, on one line or, with three quotes, over several lines.
-/

namespace TrafficDigest.Toml

/-! ## Characters -/

/-- White space within a line. -/
def isSpace (c : Char) : Bool := c == ' ' || c == '\t'

/-- A character that may stand in a comment: any but control characters, and the tab. -/
def isPlain (c : Char) : Bool := c == '\t' || (' ' ≤ c && c != '\u007f')

/-- A character of a key without quotes. -/
def isBareKeyChar (c : Char) : Bool := c.isAlphanum || c == '_' || c == '-'

/-! ## Lines -/

/-- The rest after a line break: a line feed, with or without a carriage return before it. -/
def afterNewline? : List Char → Option (List Char)
  | '\n' :: rest => some rest
  | '\r' :: '\n' :: rest => some rest
  | _ => none

/-- The rest after a comment, if there is one. -/
def afterComment : List Char → List Char
  | '#' :: rest => rest.dropWhile isPlain
  | cs => cs

/-- The rest after the end of a line, with white space and a comment before it. -/
def afterLineEnd? (cs : List Char) : Option (List Char) :=
  match afterComment (cs.dropWhile isSpace) with
  | [] => some []
  | cs => afterNewline? cs

/-- The rest after white space and line breaks. -/
def afterBlank : List Char → List Char
  | ' ' :: rest => afterBlank rest
  | '\t' :: rest => afterBlank rest
  | '\n' :: rest => afterBlank rest
  | '\r' :: '\n' :: rest => afterBlank rest
  | cs => cs

/-- The rest after white space, line breaks, and comments that a line break ends.  Only a comment
without one is left to be read. -/
def afterFiller (cs : List Char) : List Char :=
  match afterBlank cs with
  | '#' :: rest =>
    match afterNewline? (rest.dropWhile isPlain) with
    | some next => if _h : next.length < cs.length then afterFiller next else '#' :: rest
    | none => '#' :: rest
  | cs => cs
termination_by cs.length

/-! ## Escapes -/

/-- The character that one letter after a backslash stands for. -/
def escaped? (c : Char) : Option Char :=
  ['b', 'f', 'n', 'r', 't', '\\', '"'].zip ['\u0008', '\u000c', '\n', '\r', '\t', '\\', '"']
    |>.lookup c

/-- The character with a code point written in digits to the base 16. -/
def codePoint? (digits : List Char) : Option Char := do
  let code ← Json.hexNumber? digits
  if h : code.isValidChar then some (Char.ofNatAux code h) else none

/-- The character that an escape stands for; the backslash has been read. -/
def readEscape : List Char → Option (Char × List Char)
  | 'u' :: rest => if 4 ≤ rest.length then (codePoint? (rest.take 4)).map (·, rest.drop 4) else none
  | 'U' :: rest => if 8 ≤ rest.length then (codePoint? (rest.take 8)).map (·, rest.drop 8) else none
  | c :: rest => (escaped? c).map (·, rest)
  | [] => none

/-! ## Strings on one line -/

/-- The text up to the closing double quote. -/
def readBasic (cs : List Char) : Option (List Char × List Char) :=
  match cs with
  | [] => none
  | c :: rest =>
    if c = '"' then some ([], rest)
    else if c = '\\' then
      match readEscape rest with
      | none => none
      | some (d, next) =>
        if _h : next.length ≤ rest.length then
          (readBasic next).map fun (text, rest) => (d :: text, rest)
        else none
    else if isPlain c then (readBasic rest).map fun (text, rest) => (c :: text, rest)
    else none
termination_by cs.length
decreasing_by
  · simp only [List.length_cons]
    omega
  · simp

/-- The text up to the closing single quote. -/
def readLiteral (cs : List Char) : Option (List Char × List Char) :=
  let p (c : Char) : Bool := isPlain c && c != '\''
  match cs.dropWhile p with
  | '\'' :: rest => some (cs.takeWhile p, rest)
  | _ => none

/-! ## Strings over several lines -/

/-- What a run of quotes in a string over several lines means: fewer than three are text, three to
five end the string, those before the last three being text. -/
def endOfRun? (quotes : Nat) : Option (Nat × Bool) :=
  if quotes < 3 then some (quotes, false)
  else if quotes ≤ 5 then some (quotes - 3, true)
  else none

/-- **The text of a string over several lines**, up to the three quotes that close it.  Line
breaks become line feeds.  If there are escapes, one at the end of a line takes away what is blank
up to the next character. -/
def readLines (quote : Char) (escapes : Bool) (cs : List Char) : Option (List Char × List Char) :=
  let after (text : List Char) (next : List Char) : Option (List Char × List Char) :=
    if _h : next.length < cs.length then
      (readLines quote escapes next).map fun (more, rest) => (text ++ more, rest)
    else none
  match cs with
  | [] => none
  | c :: rest =>
    if c = quote then
      let next := cs.dropWhile (· = quote)
      match endOfRun? (cs.length - next.length) with
      | none => none
      | some (quotes, true) => some (List.replicate quotes quote, next)
      | some (quotes, false) => after (List.replicate quotes quote) next
    else if c = '\\' ∧ escapes then
      match afterNewline? (rest.dropWhile isSpace) with
      | some next => after [] (afterBlank next)
      | none =>
        match readEscape rest with
        | some (d, next) => after [d] next
        | none => none
    else
      match afterNewline? cs with
      | some next => after ['\n'] next
      | none => if isPlain c then after [c] rest else none
termination_by cs.length

/-- A string of any form; the first quote is still to be read. -/
def readString (cs : List Char) : Option (List Char × List Char) :=
  let lines (quote : Char) (rest : List Char) :=
    readLines quote (quote = '"') ((afterNewline? rest).getD rest)
  match cs with
  | '"' :: '"' :: '"' :: rest => lines '"' rest
  | '"' :: rest => readBasic rest
  | '\'' :: '\'' :: '\'' :: rest => lines '\'' rest
  | '\'' :: rest => readLiteral rest
  | _ => none

/-! ## Keys -/

/-- One part of a key: in quotes, or letters, digits, underscores and hyphens. -/
def readKeyPart (cs : List Char) : Option (List Char × List Char) :=
  match cs with
  | '"' :: rest => readBasic rest
  | '\'' :: rest => readLiteral rest
  | _ =>
    let name := cs.takeWhile isBareKeyChar
    if name.isEmpty then none else some (name, cs.dropWhile isBareKeyChar)

/-- **A dotted key:** parts with points between them and white space around them. -/
def readKey (cs : List Char) : Option (List String × List Char) :=
  match readKeyPart (cs.dropWhile isSpace) with
  | none => none
  | some (part, rest) =>
    match rest.dropWhile isSpace with
    | '.' :: next =>
      if _h : next.length < cs.length then
        (readKey next).map fun (parts, rest) => (String.ofList part :: parts, rest)
      else none
    | rest => some ([String.ofList part], rest)
termination_by cs.length

/-- The nesting from which on a document is refused. -/
def nestingLimit : Nat := 80

/-- The path and the name of a dotted key that is not too long. -/
def readPath (cs : List Char) : Option ((List String × String) × List Char) := do
  let (parts, rest) ← readKey cs
  let name ← parts.getLast?
  if parts.length < nestingLimit then return ((parts.dropLast, name), rest) else none

end TrafficDigest.Toml
