import TrafficDigest.Json
import TrafficDigest.Text

/-!
# Decoding JSON values

How values of the domain are taken from JSON values.  A `Decoder` may refuse a value.  A record is
decoded from an object by the names of its members, or from an array by their places; a
`RecordDecoder` knows both.

**Objects.**  Members with other names are skipped.  No known name may come twice, and every name
must have a text.  **Arrays.**  The items are the members in their order and there are no others.
-/

namespace TrafficDigest.Json

/-- Takes a value of the domain from a JSON value, or refuses. -/
abbrev Decoder (α : Type) := Json → Option α

namespace Decoder

/-! ## Plain values -/

/-- A text. -/
def text : Decoder String
  | .string text => text
  | _ => none

/-- The digits of a natural number are read; signs, points and exponents are refused. -/
def natural (max : Nat) : Decoder Nat
  | .number literal => (Text.readDigits literal.toList).filter (· ≤ max)
  | _ => none

/-- An array, with a decoder for its items. -/
def list {α : Type} (d : Decoder α) : Decoder (List α)
  | .array items => items.mapM d
  | _ => none

/-- `null`, or what the decoder takes. -/
def nullable {α : Type} (d : Decoder α) : Decoder (Option α)
  | .null => some none
  | v => (d v).map some

end Decoder

/-! ## Records -/

/-- The named members of an object. -/
abbrev Members := List (String × Json)

/-- Decodes the members of a record from an object or from an array. -/
structure RecordDecoder (α : Type) where
  /-- The names of the members in their order. -/
  names : List String
  ofMembers : Members → Option α
  /-- From the front of the items of an array, with the items that are left. -/
  ofItems : List Json → Option (α × List Json)

namespace RecordDecoder

/-- A record without members. -/
def pure {α : Type} (a : α) : RecordDecoder α := ⟨[], fun _ => some a, fun items => some (a, items)⟩

/-- The members of two records one after the other. -/
def seq {α β : Type} (f : RecordDecoder (α → β)) (x : RecordDecoder α) : RecordDecoder β where
  names := f.names ++ x.names
  ofMembers members := do
    let g ← f.ofMembers members
    let a ← x.ofMembers members
    return g a
  ofItems items := do
    let (g, items) ← f.ofItems items
    let (a, items) ← x.ofItems items
    return (g a, items)

instance : Applicative RecordDecoder where
  pure := RecordDecoder.pure
  seq f x := RecordDecoder.seq f (x ())

/-- The item at the front, or what stands for one that is missing. -/
def nextItem {α : Type} (d : Decoder α) (missing : Option α) :
    List Json → Option (α × List Json)
  | [] => missing.map (·, [])
  | item :: items => (d item).map (·, items)

/-- The member with a name, or what stands for one that is missing. -/
def member {α : Type} (name : String) (d : Decoder α) (missing : Option α)
    (members : Members) : Option α :=
  match members.lookup name with
  | some v => d v
  | none => missing

/-- **A member that must be there.** -/
def required {α : Type} (name : String) (d : Decoder α) : RecordDecoder α :=
  ⟨[name], member name d none, nextItem d none⟩

/-- **A member with a default**, which stands for a missing member but not for `null`. -/
def defaulted {α : Type} (name : String) (d : Decoder α) (default : α) : RecordDecoder α :=
  ⟨[name], member name d (some default), nextItem d (some default)⟩

/-- **A member that may be missing or `null`.** -/
def optional {α : Type} (name : String) (d : Decoder α) : RecordDecoder (Option α) :=
  defaulted name d.nullable none

/-- A member that may be `null`, and missing from an object but not from an array. -/
def optionalByName {α : Type} (name : String) (d : Decoder α) : RecordDecoder (Option α) :=
  ⟨[name], member name d.nullable (some none), nextItem d.nullable none⟩

/-- The members of an object, if all their names have a text. -/
def namedMembers? (members : List (Option String × Json)) : Option Members :=
  members.mapM fun (name, v) => name.map (·, v)

/-- No known name comes twice. -/
def unrepeated (names : List String) (members : Members) : Bool :=
  names.all fun name => (members.filter (·.1 == name)).length ≤ 1

/-- **The decoder for a record.** -/
def decode {α : Type} (r : RecordDecoder α) : Decoder α
  | .object members => do
    let members ← namedMembers? members
    if unrepeated r.names members then r.ofMembers members else none
  | .array items => do
    let (a, rest) ← r.ofItems items
    if rest.isEmpty then return a else none
  | _ => none

end RecordDecoder

end TrafficDigest.Json
