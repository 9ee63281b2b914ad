import TrafficDigest.Flow

/-!
# Labels and groups

Labels attach a value to a workload along a dimension (its key).  A directory holds the labels that
were loaded; a label is known by its href, and of two labels with the same href the one loaded
later is the one the directory knows.

A digest reports an endpoint under its group identity.  An endpoint without a workload is known by
its address.  A workload is known by its labels: the values along the dimensions role, application
and environment, and along the location if asked for, with bars between them and nothing in the
place of a dimension without a label.  So even a workload without labels is not mistaken for an
address.
-/

namespace TrafficDigest

/-- A value along a dimension, with the href that refers to it. -/
structure Label where
  href : String
  key : String
  value : String
  deriving DecidableEq, Repr

/-! ## Dimensions -/

/-- The dimension of what a workload does. -/
def roleKey : String := "role"

/-- The dimension of the application a workload belongs to. -/
def appKey : String := "app"

/-- The dimension of the environment a workload runs in. -/
def envKey : String := "env"

/-- The dimension of the place a workload runs at. -/
def locKey : String := "loc"

/-! ## Directories -/

/-- The labels that were loaded, the latest first. -/
structure LabelDirectory where
  latestFirst : List Label
  deriving Repr

namespace LabelDirectory

/-- The directory of labels in the order of their loading. -/
def ofList (labels : List Label) : LabelDirectory := ⟨labels.reverse⟩

/-- The label with an href. -/
def get? (d : LabelDirectory) (href : String) : Option Label :=
  d.latestFirst.find? (·.href == href)

/-- The label of a dimension with a value, among those that the directory knows.  If several have
that dimension and that value, any of them would do; here it is the one loaded last. -/
def find? (d : LabelDirectory) (key value : String) : Option Label :=
  d.latestFirst.find? fun l => l.key == key && l.value == value && d.get? l.href == some l

/-- The number of hrefs that the directory knows. -/
def size (d : LabelDirectory) : Nat := (d.latestFirst.map (·.href)).eraseDups.length

/-- Whether the directory knows no href. -/
def isEmpty (d : LabelDirectory) : Bool := d.latestFirst.isEmpty

/-- Along a dimension, the first label that a list of hrefs leads to. -/
def labelAlong (d : LabelDirectory) (key : String) (hrefs : List String) : Option Label :=
  (hrefs.filterMap d.get?).find? (·.key == key)

/-- The href of the label of the application with a name. -/
def findGroup? (d : LabelDirectory) (name : String) : Option String :=
  (d.find? appKey name).map (·.href)

end LabelDirectory

/-! ## Group identities -/

/-- A way to name the group of an endpoint. -/
abbrev Resolver := Endpoint → String

/-- The dimensions that make up the identity of a workload. -/
def groupDimensions (withLocation : Bool) : List String :=
  [roleKey, appKey, envKey] ++ if withLocation then [locKey] else []

/-- What stands between two dimensions. -/
def groupDelimiter : String := "|"

namespace LabelDirectory

/-- The value that a workload has along a dimension, empty if it has none. -/
def valueAlong (d : LabelDirectory) (key : String) (w : WorkloadRef) : String :=
  ((d.labelAlong key w.labels).map (·.value)).getD ""

/-- **The group identity of an endpoint**, by the labels of its workload. -/
def identity (d : LabelDirectory) (withLocation : Bool) : Resolver := fun e =>
  match e.workload with
  | none => e.ip
  | some w => groupDelimiter.intercalate ((groupDimensions withLocation).map (d.valueAlong · w))

end LabelDirectory

end TrafficDigest
