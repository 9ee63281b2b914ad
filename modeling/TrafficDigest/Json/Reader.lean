import TrafficDigest.Json
import TrafficDigest.Json.Token

/-!
# Reading JSON documents

A document is read token by token.  In between, the reader knows the containers that are open, the
innermost first, and what may come next; so a document may be nested to any depth.
-/

namespace TrafficDigest.Json

/-- A container that is still open, with its contents so far, the last first. -/
inductive Container where
  | array (items : List Json)
  /-- The name is that of the member whose value comes next. -/
  | object (members : List (Option String × Json)) (name : Option String)

/-- What may come next. -/
inductive Expected where
  | value
  /-- The first item of an array or its end. -/
  | firstItem
  /-- The first member of an object or its end. -/
  | firstMember (members : List (Option String × Json))
  /-- The name of a further member. -/
  | member (members : List (Option String × Json))
  | colon (members : List (Option String × Json)) (name : Option String)
  /-- A comma or the end of the container; this value has just ended. -/
  | afterValue (value : Json)

/-- The reader between two tokens. -/
structure ReaderState where
  containers : List Container
  expected : Expected

namespace ReaderState

/-- Before the first token. -/
def initial : ReaderState := ⟨[], .value⟩

/-- A value has ended. -/
def ended (containers : List Container) (v : Json) : Option ReaderState :=
  some ⟨containers, .afterValue v⟩

/-- The start of a value. -/
def beginValue (containers : List Container) : Token → Option ReaderState
  | .null => ended containers .null
  | .bool b => ended containers (.bool b)
  | .number literal => ended containers (.number literal)
  | .string text => ended containers (.string text)
  | .openArray => some ⟨.array [] :: containers, .firstItem⟩
  | .openObject => some ⟨containers, .firstMember []⟩
  | _ => none

/-- **The reader after one more token**, if the token may come next. -/
def step (s : ReaderState) (t : Token) : Option ReaderState :=
  match s.expected with
  | .value => beginValue s.containers t
  | .firstItem =>
    match t, s.containers with
    | .closeArray, .array items :: outer => ended outer (.array items.reverse)
    | _, _ => beginValue s.containers t
  | .firstMember members =>
    match t with
    | .closeObject => ended s.containers (.object members.reverse)
    | .string name => some ⟨s.containers, .colon members name⟩
    | _ => none
  | .member members =>
    match t with
    | .string name => some ⟨s.containers, .colon members name⟩
    | _ => none
  | .colon members name =>
    match t with
    | .colon => some ⟨.object members name :: s.containers, .value⟩
    | _ => none
  | .afterValue v =>
    match t, s.containers with
    | .comma, .array items :: outer => some ⟨.array (v :: items) :: outer, .value⟩
    | .comma, .object members name :: outer => some ⟨outer, .member ((name, v) :: members)⟩
    | .closeArray, .array items :: outer => ended outer (.array (v :: items).reverse)
    | .closeObject, .object members name :: outer =>
      ended outer (.object ((name, v) :: members).reverse)
    | _, _ => none

/-- The value of the document, if all containers are closed. -/
def value? (s : ReaderState) : Option Json :=
  match s with
  | ⟨[], .afterValue v⟩ => some v
  | _ => none

end ReaderState

/-- The value of a document given by its tokens. -/
def ofTokens? (ts : List Token) : Option Json := do
  let s ← ts.foldlM ReaderState.step .initial
  s.value?

/-- **The value of a document.** -/
def read? (text : String) : Option Json := do
  let ts ← tokens text.toList
  ofTokens? ts

end TrafficDigest.Json
