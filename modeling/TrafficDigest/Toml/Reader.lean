import TrafficDigest.Toml.Number
import TrafficDigest.Toml.Text

/-!
# Reading TOML documents

A value is read in steps, between which the reader knows the arrays and inline tables that are
open, the innermost first, and what may come next.  A document is a sequence of lines: each is
blank, a comment, a header, or a key with a value.  Every step takes something from the text, or
the reading ends.
-/

namespace TrafficDigest.Toml

/-! ## Values -/

/-- An array or inline table that is still open, with its contents so far. -/
inductive Container where
  | array (latestFirst : List Toml)
  /-- The path and name are those of the value that comes next. -/
  | inline (entries : Table) (path : List String) (name : String)

/-- What may come next. -/
inductive Expected where
  | value
  /-- An item of the innermost array or its end. -/
  | item
  /-- A key of an inline table, or its end if it is the first. -/
  | key (entries : Table)
  /-- This value has just ended. -/
  | afterValue (value : Toml)

/-- The reader of a value between two steps. -/
structure ValueState where
  containers : List Container
  expected : Expected

/-- A value that is no array or table. -/
def readScalar (cs : List Char) : Option (Toml × List Char) :=
  match cs.head? with
  | none => none
  | some c =>
    if c = '"' ∨ c = '\'' then
      (readString cs).map fun (text, rest) => (.string (String.ofList text), rest)
    else if ['t', 'r', 'u', 'e'].isPrefixOf cs then some (.boolean true, cs.drop 4)
    else if ['f', 'a', 'l', 's', 'e'].isPrefixOf cs then some (.boolean false, cs.drop 5)
    else readMoment cs <|> readFloat cs <|> readInteger cs

namespace ValueState

/-- The first step of a value. -/
def beginValue (containers : List Container) (cs : List Char) :
    Option (ValueState × List Char) :=
  let room := containers.length + 1 < nestingLimit
  match cs with
  | '[' :: rest => if room then some (⟨.array [] :: containers, .item⟩, rest) else none
  | '\x7b' :: rest => if room then some (⟨containers, .key []⟩, rest) else none
  | _ => (readScalar cs).map fun (v, rest) => (⟨containers, .afterValue v⟩, rest)

/-- A key of an inline table. -/
def readInlineKey (containers : List Container) (entries : Table) (cs : List Char) :
    Option (ValueState × List Char) := do
  let ((path, name), rest) ← readPath cs
  match rest with
  | '=' :: rest => return (⟨.inline entries path name :: containers, .value⟩, rest)
  | _ => none

/-- What comes after a value inside a container. -/
def endItem (v : Toml) (cs : List Char) : List Container → Option (ValueState × List Char)
  | .array items :: outer =>
    match afterFiller cs with
    | ',' :: rest => some (⟨.array (v :: items) :: outer, .item⟩, rest)
    | ']' :: rest => some (⟨outer, .afterValue (.array (v :: items).reverse)⟩, rest)
    | _ => none
  | .inline entries path name :: outer => do
    let entries ← entries.insert? path name v
    match cs.dropWhile isSpace with
    | ',' :: rest => readInlineKey outer entries rest
    | '\x7d' :: rest => return (⟨outer, .afterValue (.table .inline entries)⟩, rest)
    | _ => none
  | [] => none

/-- **One step**, with what is left of the text. -/
def step (s : ValueState) (cs : List Char) : Option (ValueState × List Char) :=
  match s.expected, s.containers with
  | .value, containers => beginValue containers (cs.dropWhile isSpace)
  | .item, .array items :: outer =>
    match afterFiller cs with
    | ']' :: rest => some (⟨outer, .afterValue (.array items.reverse)⟩, rest)
    | cs => beginValue s.containers cs
  | .item, _ => none
  | .key entries, containers =>
    match cs.dropWhile isSpace with
    | '\x7d' :: rest => some (⟨containers, .afterValue (.table .inline entries)⟩, rest)
    | cs => readInlineKey containers entries cs
  | .afterValue v, containers => endItem v cs containers

/-- Steps until the value is complete. -/
def run (s : ValueState) (cs : List Char) : Option (Toml × List Char) :=
  match s with
  | ⟨[], .afterValue v⟩ => some (v, cs)
  | s =>
    match s.step cs with
    | none => none
    | some (s, rest) => if _h : rest.length < cs.length then run s rest else none
termination_by cs.length

end ValueState

/-- **A value**, with what follows it. -/
def readValue (cs : List Char) : Option (Toml × List Char) := ValueState.run ⟨[], .value⟩ cs

/-! ## Documents -/

/-- The reader of a document between two lines. -/
structure DocumentState where
  root : Table
  /-- The path from the root to the table that keys are added to. -/
  current : List String

namespace DocumentState

/-- A key with a value. -/
def readPair (s : DocumentState) (cs : List Char) : Option (DocumentState × List Char) := do
  let ((path, name), rest) ← readPath cs
  let rest ← after? ['='] rest
  let (value, rest) ← readValue rest
  let rest ← afterLineEnd? rest
  let root ← s.root.modifyAtHeader? s.current fun _ t => t.insert? path name value
  return ({ s with root }, rest)

/-- A header; its opening brackets have been read. -/
def readHeader (s : DocumentState) (isArray : Bool) (cs : List Char) :
    Option (DocumentState × List Char) := do
  let ((path, name), rest) ← readPath cs
  let rest ← after? [']'] rest
  let rest ← if isArray then after? [']'] rest else some rest
  let rest ← afterLineEnd? rest
  let root ← if isArray then s.root.append? path name else s.root.open? path name
  return (⟨root, path ++ [name]⟩, rest)

/-- **One line** that is not empty. -/
def step (s : DocumentState) (cs : List Char) : Option (DocumentState × List Char) :=
  match cs with
  | '[' :: '[' :: rest => s.readHeader true rest
  | '[' :: rest => s.readHeader false rest
  | '#' :: _ | '\n' :: _ | '\r' :: _ => (afterLineEnd? cs).map (s, ·)
  | _ => s.readPair cs

/-- Lines until the text ends. -/
def run (s : DocumentState) (cs : List Char) : Option Table :=
  match cs.dropWhile isSpace with
  | [] => some s.root
  | line =>
    match s.step line with
    | none => none
    | some (s, rest) => if _h : rest.length < cs.length then run s rest else none
termination_by cs.length

end DocumentState

/-- **The table of a document**, which may start with a byte order mark. -/
def read? (text : String) : Option Table :=
  let cs := match text.toList with
    | '\ufeff' :: rest => rest
    | cs => cs
  DocumentState.run ⟨[], []⟩ cs

end TrafficDigest.Toml
