import TrafficDigest.Flow
import TrafficDigest.Instant.Reader
import TrafficDigest.Json.Decode

/-!
# Flow records as documents

The form in which flow records are kept as JSON: `FlowRecord.toJson` writes it and
`FlowRecord.decoder` reads it.  The decoders of ports, of protocol numbers, of instants and of
counts are those of other documents too.
-/

namespace TrafficDigest

/-! ## Values -/

namespace Json.Decoder

/-- A port. -/
def port : Decoder UInt16 := fun v => (natural 65535 v).map Nat.toUInt16

/-- A number of eight bits: a protocol number or the length of a prefix. -/
def octet : Decoder UInt8 := fun v => (natural 255 v).map Nat.toUInt8

/-- A number of connections. -/
def count : Decoder UInt64 := fun v => (natural (UInt64.size - 1) v).map Nat.toUInt64

/-- An instant as text. -/
def instant : Decoder Instant := fun v => do
  let s ← text v
  Instant.read? s

end Json.Decoder

open Json (Decoder RecordDecoder)
open Json.RecordDecoder (required optionalByName)

/-! ## Writing -/

/-- A workload as one side of a flow refers to it. -/
def WorkloadRef.toJson (w : WorkloadRef) : Json :=
  .obj [("href", .str w.href), ("hostname", .str w.hostname),
    ("labels", .array (w.labels.map .str))]

/-- One side of a flow. -/
def Endpoint.toJson (e : Endpoint) : Json :=
  .obj [("ip", .str e.ip), ("workload", .ofOption WorkloadRef.toJson e.workload)]

/-- **The written form of a record.** -/
def FlowRecord.toJson (r : FlowRecord) : Json :=
  .obj [("src", r.src.toJson), ("dst", r.dst.toJson), ("port", .nat r.service.port.toNat),
    ("proto", .nat r.service.proto.toNat), ("verdict", .str r.verdict.name),
    ("first_seen", .str (r.firstSeen.rfc3339 .fewest)),
    ("last_seen", .str (r.lastSeen.rfc3339 .fewest)), ("connections", .nat r.connections.toNat)]

/-! ## Reading -/

/-- A verdict: its word, or an object whose only member has the word as its name and `null`. -/
def Verdict.decoder : Decoder Verdict
  | .string (some word) => ofName? word.toList
  | .object [(some word, .null)] => ofName? word.toList
  | _ => none

/-- A workload as one side of a flow refers to it. -/
def WorkloadRef.decoder : RecordDecoder WorkloadRef :=
  WorkloadRef.mk <$> required "href" .text <*> required "hostname" .text <*>
    required "labels" (.list .text)

/-- One side of a flow. -/
def Endpoint.decoder : RecordDecoder Endpoint :=
  Endpoint.mk <$> required "ip" .text <*> optionalByName "workload" WorkloadRef.decoder.decode

/-- **A record in its written form.** -/
def FlowRecord.decoder : RecordDecoder FlowRecord :=
  (fun src dst port proto => FlowRecord.mk src dst ⟨port, proto⟩) <$>
    required "src" Endpoint.decoder.decode <*> required "dst" Endpoint.decoder.decode <*>
    required "port" .port <*> required "proto" .octet <*> required "verdict" Verdict.decoder <*>
    required "first_seen" .instant <*> required "last_seen" .instant <*>
    required "connections" .count

end TrafficDigest
