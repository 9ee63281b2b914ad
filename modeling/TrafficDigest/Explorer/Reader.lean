import TrafficDigest.Digest
import TrafficDigest.Explorer
import TrafficDigest.Text

/-!
# Reading explorer rows

What a row of the export counts for, taken from its cells by the headers of their columns.  A row
does not say which ends are workloads, since a workload may well be named as a missing one is; this
has to be known beside it.
-/

namespace TrafficDigest.ExplorerRow

/-- The cell of a row below a header. -/
def cell? (cells : List String) (header : String) : Option String :=
  (explorerHeaders.zip cells).lookup header

/-- The group of an end, `src` or `dst`: the cells of the dimensions with bars between them for a
workload, and else the address. -/
def group? (side : String) (withLocation workload : Bool) (cells : List String) : Option String :=
  if workload then
    ((groupDimensions withLocation).mapM fun key => cell? cells (side ++ "_" ++ key)).map
      groupDelimiter.intercalate
  else cell? cells (side ++ "_ip")

/-- The protocol that has this name. -/
def protocol? (name : String) : Option UInt8 :=
  ((List.range UInt8.size).map UInt8.ofNat).find? (protocolName · = name)

/-- The service of a row, by its port and the name of its protocol. -/
def service? (cells : List String) : Option ServicePort := do
  let port ← (Text.readDigits (← cell? cells "port").toList).filter (· < UInt16.size)
  let proto ← protocol? (← cell? cells "protocol")
  return ⟨.ofNat port, proto⟩

/-- **What a row counts for**, given which of its ends are workloads. -/
def count? (withLocation sourceWorkload destinationWorkload : Bool) (cells : List String) :
    Option Count := do
  let source ← group? "src" withLocation sourceWorkload cells
  let destination ← group? "dst" withLocation destinationWorkload cells
  let verdict ← Verdict.ofName? (← cell? cells "policy_status").toList
  let service ← service? cells
  let connections ← Text.readDigits (← cell? cells "num_flows").toList
  return ⟨⟨source, destination, verdict⟩, service, connections⟩

end TrafficDigest.ExplorerRow
