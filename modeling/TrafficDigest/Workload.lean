import TrafficDigest.Text

/-!
# Workloads

Hosts with their network interfaces, and the directory that finds a host by its name.  The net mask
of an address is written in dotted form for IPv4 addresses and as a prefix length otherwise.
-/

namespace TrafficDigest

/-- A network interface of a workload. -/
structure Interface where
  name : String
  address : String
  /-- The length of the network prefix. -/
  cidrBlock : Option UInt8
  defaultGateway : Option String
  deriving DecidableEq, Repr

/-- A host with its interfaces. -/
structure Workload where
  href : String
  hostname : String
  interfaces : List Interface
  deriving DecidableEq, Repr

/-! ## Addresses and masks -/

/-- One number of a dotted address: one to three digits, no leading zero, at most 255. -/
def readOctet (cs : List Char) : Option Nat :=
  if cs.length ≤ 3 ∧ (cs.length = 1 ∨ cs.head? ≠ some '0') then
    (Text.readDigits cs).filter (· ≤ 255)
  else none

/-- A text is an IPv4 address: four numbers with points between them. -/
def isIPv4 (address : String) : Bool :=
  let parts := address.toList.splitOn '.'
  parts.length == 4 && parts.all fun part => (readOctet part).isSome

/-- The mask with the given number of leading ones, up to 32, as four numbers with points between
them. -/
def dottedMask (bits : Nat) : String :=
  let mask := UInt32.size - 1 <<< (32 - bits)
  ".".intercalate ([24, 16, 8, 0].map fun shift => toString (mask >>> shift % 256))

namespace Workload

/-- The interface that carries an address: the first of them. -/
def interfaceAt? (w : Workload) (ip : String) : Option Interface :=
  w.interfaces.find? (·.address == ip)

/-- The net mask of the interface that carries an address. -/
def netMask? (w : Workload) (ip : String) : Option String := do
  let i ← w.interfaceAt? ip
  let bits ← i.cidrBlock
  if isIPv4 i.address ∧ bits ≤ 32 then return dottedMask bits.toNat
  else return "/" ++ toString bits.toNat

/-- The first gateway, of all interfaces, that is not empty. -/
def defaultGateway? (w : Workload) : Option String :=
  w.interfaces.findSome? fun i => i.defaultGateway.filter (· ≠ "")

end Workload

/-! ## Directories -/

/-- The workloads that were loaded and have a hostname, the latest first. -/
structure WorkloadDirectory where
  latestFirst : List Workload
  deriving Repr

namespace WorkloadDirectory

/-- The directory of workloads in the order of their loading; those without a hostname cannot be
found and are left out. -/
def ofList (ws : List Workload) : WorkloadDirectory :=
  ⟨(ws.filter (·.hostname ≠ "")).reverse⟩

/-- The workload with a hostname, of several the one loaded last. -/
def get? (d : WorkloadDirectory) (hostname : String) : Option Workload :=
  d.latestFirst.find? (·.hostname == hostname)

end WorkloadDirectory

end TrafficDigest
