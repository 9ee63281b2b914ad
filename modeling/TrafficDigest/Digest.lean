import TrafficDigest.Label
import TrafficDigest.OrderedMap
import TrafficDigest.Sum

/-!
# Digests

A digest adds up the connections of flows by their group key, which is the pair of groups with the
verdict, and by service.  `Digest.ofRecords` makes one from a list of records; each record adds to
one count, so the order of the records does not matter.

**Overflow.**  A count has 64 bits, so what becomes of a larger sum depends on the build of the
program.  `Digest.ofRecords` is the digest of an unchecked build, and `Digest.ofRecords?` that of
each build.

**Meaning.**  A flow counts with its connections, for its service, under its group key.
`Digest.GroupsAndSums` says what a digest of such counts has to hold, and not how it is made: there
is a tally for each key that is counted under, and the entries of a tally are the sums over its
counts by their service.
-/

namespace TrafficDigest

/-! ## Keys -/

/-- The groups of a flow and its verdict. -/
structure GroupKey where
  source : String
  destination : String
  verdict : Verdict
  deriving DecidableEq, Repr

namespace GroupKey

/-- By source, then by destination, then by verdict. -/
def order : GroupKey → GroupKey → Ordering :=
  compareLex (compareOn source) (compareLex (compareOn destination) (compareOn (·.verdict.index)))

instance : Ord GroupKey := ⟨order⟩

instance : Std.TransOrd GroupKey := inferInstanceAs (Std.TransCmp (compareLex _ (compareLex _ _)))

instance : Std.LawfulEqOrd GroupKey where
  eq_of_compare {a b} h := by
    obtain ⟨s, d, v⟩ := a
    obtain ⟨s', d', v'⟩ := b
    simp only [compare, order, compareLex_eq_eq] at h
    obtain ⟨h₁, h₂, h₃⟩ := h
    have h₁ := Std.LawfulEqOrd.eq_of_compare (α := String) h₁
    have h₂ := Std.LawfulEqOrd.eq_of_compare (α := String) h₂
    have h₃ := Verdict.index_inj.1 (Std.LawfulEqOrd.eq_of_compare (α := Nat) h₃)
    simp_all

/-- The key of a flow. -/
def ofRecord (resolve : Resolver) (r : FlowRecord) : GroupKey :=
  ⟨resolve r.src, resolve r.dst, r.verdict⟩

end GroupKey

/-! ## Tallies -/

/-- Connections by the signature of the service. -/
abbrev Tally := OrderedMap String UInt64

/-- The tally with more connections of one service. -/
def Tally.add (t : Tally) (signature : String) (connections : UInt64) : Tally :=
  t.update signature fun old => old.getD 0 + connections

/-! ## Digests -/

/-- Tallies by group key. -/
abbrev Digest := OrderedMap GroupKey Tally

namespace Digest

/-- The number under a group key and a signature, if there is one. -/
def number? (d : Digest) (key : GroupKey) (signature : String) : Option UInt64 :=
  (d.get? key).bind (·.get? signature)

/-- The number under a group key and a service, if there is one. -/
def count? (d : Digest) (key : GroupKey) (service : ServicePort) : Option UInt64 :=
  d.number? key service.signature

/-- All numbers, key by key. -/
def numbers (d : Digest) : List UInt64 := d.values.flatMap (·.values)

/-- The digest with one more record. -/
def ingest (resolve : Resolver) (d : Digest) (r : FlowRecord) : Digest :=
  d.update (.ofRecord resolve r) fun tally =>
    Tally.add (tally.getD ∅) r.service.signature r.connections

/-- **The digest of a list of records**, in an unchecked build. -/
def ofRecords (resolve : Resolver) (records : List FlowRecord) : Digest :=
  records.foldl (ingest resolve) ∅

/-- The connections under all keys together, in an unchecked build. -/
def total (d : Digest) : UInt64 := wordSum d.numbers

/-! ### Other builds -/

/-- The digest with one more record, if the program gets past the sum. -/
def ingest? (b : Build) (resolve : Resolver) (d : Digest) (r : FlowRecord) : Option Digest :=
  let old := d.number? (.ofRecord resolve r) r.service.signature
  (b.add? (old.getD 0) r.connections).map fun _ => d.ingest resolve r

/-- **The digest of a list of records in a build**; nothing if the program stops. -/
def ofRecords? (b : Build) (resolve : Resolver) (records : List FlowRecord) : Option Digest :=
  records.foldlM (ingest? b resolve) ∅

/-- The connections under all keys together; nothing if the program stops. -/
def total? (b : Build) (d : Digest) : Option UInt64 := b.sum? d.numbers

end Digest

/-! ## What a digest counts -/

/-- Connections of a service that are counted under a group key. -/
structure Count where
  key : GroupKey
  service : ServicePort
  connections : Nat
  deriving DecidableEq, Repr

namespace Count

/-- What a flow counts for. -/
def ofRecord (resolve : Resolver) (r : FlowRecord) : Count :=
  ⟨.ofRecord resolve r, r.service, r.connections.toNat⟩

/-- The connections that are counted for a service under a key. -/
def sum (counts : List Count) (key : GroupKey) (service : ServicePort) : Nat :=
  sumOf (·.connections) (counts.filter fun c => c.key = key ∧ c.service = service)

/-- All connections that are counted. -/
def total (counts : List Count) : Nat := sumOf (·.connections) counts

end Count

/-- **The digest groups and adds up the counts**, as a build does, and holds nothing else. -/
structure Digest.GroupsAndSums (b : Build) (counts : List Count) (d : Digest) : Prop where
  /-- A key has a tally exactly if something is counted under it. -/
  key_iff : ∀ key, (∃ tally, d.get? key = some tally) ↔ ∃ c ∈ counts, c.key = key
  /-- A service has an entry exactly if it is counted under the key. -/
  entry_iff : ∀ key service, (∃ n, d.count? key service = some n) ↔
    ∃ c ∈ counts, c.key = key ∧ c.service = service
  /-- The entry is what the build has for the sum. -/
  entry_eq : ∀ key service n, d.count? key service = some n →
    b.word? (Count.sum counts key service) = some n
  /-- An entry belongs to one service, and there are no other entries. -/
  service_of_entry : ∀ key signature n, d.number? key signature = some n →
    ∃ service : ServicePort, service.signature = signature ∧
      ∀ other : ServicePort, other.signature = signature → other = service

end TrafficDigest
