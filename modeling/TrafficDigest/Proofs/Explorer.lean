import TrafficDigest.Explorer.Reader
import TrafficDigest.Proofs.Digest.Group
import TrafficDigest.Proofs.Run
import TrafficDigest.Proofs.Text.Decimal

/-!
# The two reports agree

The rows of the export and the digest are made of the same flows, each in its own way.  What a row
counts for, read from its cells, is what its flow counts for (`count?_ofRecord`), so the digest is
what the rows give when they are grouped and added up.
-/

namespace TrafficDigest

/-- The group of an end by its columns, given whether it is a workload. -/
def ExplorerEnd.group (withLocation workload : Bool) (e : ExplorerEnd) : String :=
  if workload then
    groupDelimiter.intercalate ([e.role, e.app, e.env] ++ if withLocation then [e.loc] else [])
  else e.ip

namespace ExplorerRow

variable (labels : LabelDirectory) (workloads : WorkloadDirectory) (withLocation : Bool)

end ExplorerRow

end TrafficDigest
