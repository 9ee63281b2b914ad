import TrafficDigest.Flow.Document
import TrafficDigest.Json.Reader
import TrafficDigest.Label
import TrafficDigest.Query
import TrafficDigest.Workload

/-!
# Documents of the policy engine

The documents that are sent to the policy engine (the *PCE*) and those that it sends back: the body
of a traffic query, observed flows, labels, workloads, and the status of a job.
-/

namespace TrafficDigest.Pce

open Json (Decoder RecordDecoder)
open Json.RecordDecoder (required defaulted optional)

/-! ## The body of a traffic query -/

/-- Which endpoints to include on one side: those of a group, or all. -/
def selector (group : Option String) : Json :=
  let labels := match group with
    | some href => [Json.obj [("label", .obj [("href", .str href)])]]
    | none => []
  .obj [("include", .array [.array labels]), ("exclude", .array [])]

/-- A service as a member of a list. -/
def serviceEntry (s : ServicePort) : Json :=
  .obj [("port", .nat s.port.toNat), ("proto", .nat s.proto.toNat)]

/-- **The body that asks for the flows of a query.**  The bounds of the window are cut to whole
milliseconds. -/
def queryBody (q : FlowQuery) : Json :=
  .obj [("sources", selector (q.groupOn? .source)),
    ("destinations", selector (q.groupOn? .destination)),
    ("services", .obj [("include", .array []), ("exclude", .array (q.excluded.map serviceEntry))]),
    ("sources_destinations_query_op", .str "and"),
    ("start_date", .str (q.start.rfc3339 .millis)),
    ("end_date", .str (q.stop.rfc3339 .millis)),
    ("policy_decisions", .array (q.verdicts.toList.map fun v => .str v.name)),
    ("max_results", .nat q.maxRecords)]

/-! ## Observed flows -/

/-- A reference by href. -/
def href : RecordDecoder String := required "href" .text

/-- A workload that a flow refers to. -/
def flowWorkload : RecordDecoder WorkloadRef :=
  WorkloadRef.mk <$> required "href" .text <*> defaulted "hostname" .text "" <*>
    defaulted "labels" (.list href.decode) []

/-- One side of a flow. -/
def flowEndpoint : RecordDecoder Endpoint :=
  Endpoint.mk <$> required "ip" .text <*> optional "workload" flowWorkload.decode

/-- The service of a flow; protocols without ports leave the port out. -/
def flowService : RecordDecoder ServicePort :=
  ServicePort.mk <$> defaulted "port" .port 0 <*> required "proto" .octet

/-- When a flow was first and last seen. -/
def timestampRange : RecordDecoder (Instant × Instant) :=
  Prod.mk <$> required "first_detected" .instant <*> required "last_detected" .instant

/-- A flow as it is reported. -/
structure ObservedFlow where
  src : Endpoint
  dst : Endpoint
  service : ServicePort
  /-- Zero when the report does not say. -/
  connections : UInt64
  /-- The word for the verdict, not yet understood. -/
  decision : String
  seen : Instant × Instant
  deriving DecidableEq, Repr

/-- A reported flow. -/
def observedFlow : RecordDecoder ObservedFlow :=
  ObservedFlow.mk <$> required "src" flowEndpoint.decode <*> required "dst" flowEndpoint.decode <*>
    required "service" flowService.decode <*>
    defaulted "num_connections" .count 0 <*>
    required "policy_decision" .text <*> required "timestamp_range" timestampRange.decode

/-- **The record of a reported flow.**  A flow stands for at least one connection. -/
def ObservedFlow.toRecord (f : ObservedFlow) : Except Verdict.Unknown FlowRecord := do
  let verdict ← Verdict.parse f.decision
  return {
    src := f.src, dst := f.dst, service := f.service, verdict
    firstSeen := f.seen.1, lastSeen := f.seen.2, connections := max f.connections 1 }

/-- **The record of a flow that is reported in a document of its own**, or the word for a verdict
that is not known.  Nothing comes of a document that is not such a report. -/
def readFlow? (text : String) : Option (Except Verdict.Unknown FlowRecord) := do
  let v ← Json.read? text
  let f ← observedFlow.decode v
  return f.toRecord

/-! ## Jobs -/

/-- How far a job is. -/
structure Job where
  status : String
  /-- The href of what came out. -/
  result : Option String
  deriving DecidableEq, Repr

/-- The status of a job. -/
def job : RecordDecoder Job :=
  Job.mk <$> required "status" .text <*> optional "result" href.decode

/-- The job ended with success. -/
def Job.isDone (j : Job) : Bool := j.status == "done"

/-- The job ended without success. -/
def Job.isFailed (j : Job) : Bool := j.status == "failed"

/-! ## Labels and workloads -/

/-- A label. -/
def label : RecordDecoder Label :=
  Label.mk <$> required "href" .text <*> required "key" .text <*> required "value" .text

/-- An interface of a workload. -/
def interface : RecordDecoder Interface :=
  Interface.mk <$> defaulted "name" .text "" <*> required "address" .text <*>
    optional "cidr_block" .octet <*> optional "default_gateway_address" .text

/-- A workload; one without a hostname has an empty one. -/
def workload : RecordDecoder Workload :=
  (fun href hostname => Workload.mk href (hostname.getD "")) <$> required "href" .text <*>
    optional "hostname" .text <*> defaulted "interfaces" (.list interface.decode) []

end TrafficDigest.Pce
