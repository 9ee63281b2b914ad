/-!
# Values of TOML documents

A document is a table of values.  Tables are built while a document is read, and a table may be
added to or not by the way it came to be, which is why it keeps that way as its *origin*.
`Toml.Table.insert?` adds a value under a dotted key, `Toml.Table.open?` opens the table of a
header, and `Toml.Table.append?` the next table of an array of tables.
-/

namespace TrafficDigest

/-- How a table came to be. -/
inductive Toml.Origin where
  /-- By a header of its own. -/
  | header
  /-- By the header of a table inside it. -/
  | implied
  /-- By a dotted key that leads through it. -/
  | dotted
  /-- As a value in braces. -/
  | inline
  deriving DecidableEq, Repr

/-- A value.  Of floating-point numbers and of dates only the literal is kept. -/
inductive Toml where
  | string (text : String)
  | integer (value : Int)
  | float (literal : String)
  | boolean (value : Bool)
  | moment (literal : String)
  | array (items : List Toml)
  | table (origin : Toml.Origin) (entries : List (String × Toml))
  /-- An array of tables that have headers, the last table first. -/
  | tables (latestFirst : List (List (String × Toml)))
  deriving Inhabited, Repr

namespace Toml

/-- Values by name, in the order in which they were given. -/
abbrev Table := List (String × Toml)

namespace Table

/-- The table with another value under a name that it has. -/
def replace (t : Table) (name : String) (value : Toml) : Table :=
  t.map fun entry => if entry.1 = name then (name, value) else entry

/-- **Changes the table that a path leads to.**  The path may lead through tables whose origin
satisfies `mayEnter` and through the last table of an array of tables; tables that are missing come
to be with the origin `missing`.  The change is told the origin of the table. -/
def modifyAt? (mayEnter : Origin → Bool) (missing : Origin)
    (change : Origin → Table → Option Table) :
    (path : List String) → Origin → Table → Option Table
  | [], origin, t => change origin t
  | name :: path, _, t =>
    match t.lookup name with
    | none =>
      (modifyAt? mayEnter missing change path missing []).map fun inner =>
        t ++ [(name, .table missing inner)]
    | some (.table origin inner) =>
      if mayEnter origin then
        (modifyAt? mayEnter missing change path origin inner).map fun inner =>
          t.replace name (.table origin inner)
      else none
    | some (.tables (last :: before)) =>
      (modifyAt? mayEnter missing change path .header last).map fun last =>
        t.replace name (.tables (last :: before))
    | some _ => none

/-- A header may lead through every table but one in braces. -/
def headerMayEnter (o : Origin) : Bool := o != .inline

/-- A dotted key may not lead through a table that is complete. -/
def keyMayEnter (o : Origin) : Bool := o == .implied || o == .dotted

/-- Changes the table that the path of a header leads to. -/
def modifyAtHeader? (t : Table) (path : List String)
    (change : Origin → Table → Option Table) : Option Table :=
  modifyAt? headerMayEnter .implied change path .header t

/-- **Adds a value** under a dotted key: a path and a name that is new in the table that the path
leads to, which no header may have named. -/
def insert? (t : Table) (path : List String) (name : String) (value : Toml) : Option Table :=
  let change (origin : Origin) (t : Table) : Option Table :=
    if (path.isEmpty || origin == .dotted) && (t.lookup name).isNone then
      some (t ++ [(name, value)])
    else none
  modifyAt? keyMayEnter .dotted change path .header t

/-- **Opens the table of a header**, which may only have been implied so far. -/
def open? (t : Table) (path : List String) (name : String) : Option Table :=
  t.modifyAtHeader? path fun _ t =>
    match t.lookup name with
    | none => some (t ++ [(name, .table .header [])])
    | some (.table .implied inner) => some (t.replace name (.table .header inner))
    | some _ => none

/-- **Opens the next table of an array of tables.** -/
def append? (t : Table) (path : List String) (name : String) : Option Table :=
  t.modifyAtHeader? path fun _ t =>
    match t.lookup name with
    | none => some (t ++ [(name, .tables [[]])])
    | some (.tables latestFirst) => some (t.replace name (.tables ([] :: latestFirst)))
    | some _ => none

end Table

end Toml

end TrafficDigest
