import TrafficDigest.Label
import TrafficDigest.Workload

/-!
# Explorer rows

The flat export: one row for each flow, with the network and the labels of the workloads at its
ends.
-/

namespace TrafficDigest

/-- The names of the columns. -/
def explorerHeaders : List String :=
  ["src_ip", "src_net_mask", "src_default_gw", "src_hostname",
    "src_role", "src_app", "src_env", "src_loc",
    "dst_ip", "dst_net_mask", "dst_default_gw", "dst_hostname",
    "dst_role", "dst_app", "dst_env", "dst_loc",
    "port", "protocol", "policy_status", "date_first", "date_last", "num_flows"]

/-- What stands in a column that has nothing to show. -/
def notApplicable : String := "NA"

/-- The columns of one end of a flow. -/
structure ExplorerEnd where
  ip : String
  netMask : String := notApplicable
  defaultGateway : String := notApplicable
  hostname : String := notApplicable
  role : String := notApplicable
  app : String := notApplicable
  env : String := notApplicable
  loc : String := notApplicable
  deriving DecidableEq, Repr

namespace ExplorerEnd

/-- **The columns of an endpoint.**  The net mask and the gateway are those of the workload that
the directory has under the hostname. -/
def ofEndpoint (labels : LabelDirectory) (workloads : WorkloadDirectory) (e : Endpoint) :
    ExplorerEnd :=
  match e.workload with
  | none => { ip := e.ip }
  | some w =>
    let host := workloads.get? w.hostname
    { ip := e.ip
      netMask := (host.bind (·.netMask? e.ip)).getD notApplicable
      defaultGateway := (host.bind (·.defaultGateway?)).getD notApplicable
      hostname := w.hostname
      role := labels.valueAlong roleKey w
      app := labels.valueAlong appKey w
      env := labels.valueAlong envKey w
      loc := labels.valueAlong locKey w }

/-- The columns in their order. -/
def columns (e : ExplorerEnd) : List String :=
  [e.ip, e.netMask, e.defaultGateway, e.hostname, e.role, e.app, e.env, e.loc]

end ExplorerEnd

/-- A row of the export. -/
structure ExplorerRow where
  source : ExplorerEnd
  destination : ExplorerEnd
  port : String
  protocol : String
  verdict : String
  firstSeen : String
  lastSeen : String
  connections : String
  deriving DecidableEq, Repr

namespace ExplorerRow

/-- **The row of a flow.** -/
def ofRecord (labels : LabelDirectory) (workloads : WorkloadDirectory) (r : FlowRecord) :
    ExplorerRow where
  source := .ofEndpoint labels workloads r.src
  destination := .ofEndpoint labels workloads r.dst
  port := toString r.service.port.toNat
  protocol := protocolName r.service.proto
  verdict := r.verdict.name
  firstSeen := r.firstSeen.rfc3339 .millis
  lastSeen := r.lastSeen.rfc3339 .millis
  connections := toString r.connections.toNat

/-- The columns in their order. -/
def columns (r : ExplorerRow) : List String :=
  r.source.columns ++ r.destination.columns ++
    [r.port, r.protocol, r.verdict, r.firstSeen, r.lastSeen, r.connections]

end ExplorerRow

end TrafficDigest
