import TrafficDigest.Instant
import TrafficDigest.Sum
import TrafficDigest.Verdict

/-!
# Flow records

What is recorded about traffic between two endpoints: who spoke to whom, over which service, with
what verdict, when, and in how many connections.

A service is a port together with a transport protocol.  Its signature, the text under which its
connections are counted, is the port and the name of the protocol.
-/

namespace TrafficDigest

/-! ## Services -/

/-- A port and an IANA protocol number. -/
structure ServicePort where
  port : UInt16
  proto : UInt8
  deriving DecidableEq, Repr

/-- The names of the protocols that have one here. -/
def protocolNames : List (UInt8 × String) := [
  (0, "HOPOPT"), (1, "ICMP"), (2, "IGMP"), (4, "IPV4"), (6, "TCP"), (8, "EGP"), (9, "IGP"),
  (17, "UDP"), (27, "RDP"), (41, "IPV6"), (43, "IPV6-ROUTE"), (44, "IPV6-FRAG"), (46, "RSVP"),
  (47, "GRE"), (50, "ESP"), (51, "AH"), (58, "IPV6-ICMP"), (59, "IPV6-NONXT"),
  (60, "IPV6-OPTS"), (88, "EIGRP"), (89, "OSPF"), (94, "IPIP"), (103, "PIM"), (112, "VRRP"),
  (115, "L2TP"), (132, "SCTP"), (136, "UDPLITE"), (137, "MPLS-IN-IP")]

/-- The name of a protocol, or its number in decimal when it has none. -/
def protocolName (proto : UInt8) : String :=
  (protocolNames.lookup proto).getD (toString proto.toNat)

namespace ServicePort

/-- **The signature:** port, space, protocol name. -/
def signature (s : ServicePort) : String :=
  toString s.port.toNat ++ " " ++ protocolName s.proto

end ServicePort

/-! ## Records -/

/-- A workload as one side of a flow refers to it; its labels are hrefs. -/
structure WorkloadRef where
  href : String
  hostname : String
  labels : List String
  deriving DecidableEq, Repr

/-- One side of a flow. -/
structure Endpoint where
  ip : String
  workload : Option WorkloadRef
  deriving DecidableEq, Repr

/-- The side is a workload that carries the label with this href. -/
def Endpoint.carries (e : Endpoint) (href : String) : Bool :=
  e.workload.any (·.labels.contains href)

/-- Traffic of one service between two endpoints. -/
structure FlowRecord where
  src : Endpoint
  dst : Endpoint
  service : ServicePort
  verdict : Verdict
  firstSeen : Instant
  lastSeen : Instant
  /-- How many connections the record stands for. -/
  connections : UInt64
  deriving DecidableEq, Repr

/-- The connections of all records together, as far as 64 bits hold them. -/
def totalConnections (records : List FlowRecord) : UInt64 := wordSum (records.map (·.connections))

end TrafficDigest
