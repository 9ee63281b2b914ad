import TrafficDigest.Http
import TrafficDigest.Json.Decode
import TrafficDigest.Json.Reader

/-!
# Recorded replies

A recording is a JSON document that lists replies in the order in which they come, so that an
exchange can take place without a connection.  A reply has a status, headers and a body; one with
`send_error` or `body_error` never arrived, or not in full.  Everything has a default: a success
without headers and body, that comes once.
-/

namespace TrafficDigest.Http.Recording

open Json (Decoder RecordDecoder)
open Json.RecordDecoder (optional)

/-- The largest number in a recording. -/
def maxNumber : Nat := UInt64.size - 1

/-- A name with its value. -/
def pair : Decoder (String × String)
  | .array [name, value] => do
    let name ← Decoder.text name
    let value ← Decoder.text value
    return (name, value)
  | _ => none

/-- A body is recorded as a text; any other document stands for its written form. -/
def body : Decoder String
  | .string text => text
  | document => some document.render

/-- **The replies that one member of a recording stands for.** -/
def member : RecordDecoder (List Reply) :=
  (fun status headers body sendError bodyError times =>
    List.replicate (times.getD 1) <|
      match sendError, bodyError with
      | some text, _ => .unsent text
      | none, some text => .unreadable text
      | none, none => .response ⟨status.getD 200, headers.getD [], body.getD ""⟩) <$>
    optional "status" (.natural maxNumber) <*> optional "headers" (.list pair) <*>
    optional "body" body <*> optional "send_error" .text <*> optional "body_error" .text <*>
    optional "repeat" (.natural maxNumber)

/-- The replies of a recording. -/
def replies : Decoder (List Reply) := fun document =>
  (Decoder.list member.decode document).map List.flatten

/-- The replies in the text of a recording. -/
def read? (text : String) : Option (List Reply) := (Json.read? text).bind replies

end TrafficDigest.Http.Recording
