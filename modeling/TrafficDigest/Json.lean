/-!
# JSON values

The values of JSON documents and their compact written form.  A number keeps the literal it was
written with, so that no digit is lost; an object keeps its members in order and may repeat a name.
A string has no text when one of its escapes is half of a surrogate pair without the other half.
-/

namespace TrafficDigest

/-- A JSON value. -/
inductive Json where
  | null
  | bool (value : Bool)
  | number (literal : String)
  | string (text : Option String)
  | array (items : List Json)
  | object (members : List (Option String × Json))
  deriving Inhabited, Repr

namespace Json

/-! ## Making values -/

/-- A string with a text. -/
def str (s : String) : Json := .string (some s)

/-- A natural number. -/
def nat (n : Nat) : Json := .number (toString n)

/-- An object with named members. -/
def obj (members : List (String × Json)) : Json :=
  .object (members.map fun (name, value) => (some name, value))

/-- A value that may be absent, as `null`. -/
def ofOption {α : Type} (f : α → Json) : Option α → Json
  | none => .null
  | some a => f a

/-! ## The written form -/

/-- A digit of a number to the base 16. -/
def hexDigit (n : Nat) : Char := "0123456789abcdef".toList.getD n '0'

/-- The written form of a character in a string. -/
def escape (c : Char) : List Char :=
  if c = '"' then ['\\', '"']
  else if c = '\\' then ['\\', '\\']
  else if c = '\n' then ['\\', 'n']
  else if c = '\r' then ['\\', 'r']
  else if c = '\t' then ['\\', 't']
  else if c = '\u0008' then ['\\', 'b']
  else if c = '\u000c' then ['\\', 'f']
  else if c < ' ' then ['\\', 'u', '0', '0', hexDigit (c.toNat / 16), hexDigit (c.toNat % 16)]
  else [c]

/-- The written form of a string; the replacement character stands for a string without text. -/
def renderString (text : Option String) : String :=
  "\"" ++ String.ofList ((text.getD "\ufffd").toList.flatMap escape) ++ "\""

mutual

/-- **The compact written form** of a value. -/
def render : Json → String
  | null => "null"
  | bool b => if b then "true" else "false"
  | number literal => literal
  | string text => renderString text
  | array items => "[" ++ ",".intercalate (renderItems items) ++ "]"
  | object members => "\x7b" ++ ",".intercalate (renderMembers members) ++ "\x7d"

/-- The written forms of the items of an array. -/
def renderItems : List Json → List String
  | [] => []
  | item :: items => item.render :: renderItems items

/-- The written forms of the members of an object. -/
def renderMembers : List (Option String × Json) → List String
  | [] => []
  | (name, value) :: members =>
    (renderString name ++ ":" ++ value.render) :: renderMembers members

end

end Json

end TrafficDigest
