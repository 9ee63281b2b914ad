import Mathlib.Algebra.Order.BigOperators.Group.List
import Mathlib.Algebra.Order.Group.Nat
import TrafficDigest.Digest.Summary
import TrafficDigest.Proofs.Digest.Count
import TrafficDigest.Proofs.OrderedMap

/-!
# A digest is determined by what it counts

`GroupsAndSums` leaves nothing open: two digests that group and add up the same counts are equal
(`GroupsAndSums.unique`), and the order of the counts is of no account (`GroupsAndSums.perm`).

The digest that a build has for a list of records groups and adds up what the records count for, so
it is the only digest that does (`groupsAndSums_iff`).  Nothing is lost or counted twice on the way:
all connections under all keys together are those of the records (`total?_ofRecords?`).
-/

namespace TrafficDigest

namespace Digest

/-! ## What groups and sums determine -/

lemma ext_number? {d d' : Digest}
    (hkeys : ∀ key, (∃ tally, d.get? key = some tally) ↔ ∃ tally, d'.get? key = some tally)
    (hnumbers : ∀ key signature, d.number? key signature = d'.number? key signature) : d = d' := by
  apply OrderedMap.ext_get?
  intro key
  have hkey := hkeys key
  have hnumber := hnumbers key
  unfold number? at hnumber
  cases hd : d.get? key with
  | none =>
      cases hd' : d'.get? key with
      | none => rfl
      | some tally' => simp [hd, hd'] at hkey
  | some tally =>
      cases hd' : d'.get? key with
      | none => simp [hd, hd'] at hkey
      | some tally' =>
          simp only [hd, hd', Option.bind_some] at hnumber
          rw [OrderedMap.ext_get? hnumber]

namespace GroupsAndSums

variable {b : Build} {d d' : Digest} {counts counts' : List Count}

/-- The order of the counts is of no account. -/
lemma perm (h : d.GroupsAndSums b counts) (hperm : counts.Perm counts') :
    d.GroupsAndSums b counts' where
  key_iff := by
    intro key
    simp only [h.key_iff, hperm.mem_iff]
  entry_iff := by
    intro key service
    simp only [h.entry_iff, hperm.mem_iff]
  entry_eq := by
    intro key service n hn
    rw [← h.entry_eq key service n hn, Count.sum, Count.sum, sumOf, sumOf,
      ((hperm.filter _).map _).sum_nat]
  service_of_entry := h.service_of_entry

lemma number?_of_number? (h : d.GroupsAndSums b counts) (h' : d'.GroupsAndSums b counts)
    {key : GroupKey} {signature : String} {n : UInt64} (hn : d.number? key signature = some n) :
    d'.number? key signature = some n := by
  obtain ⟨service, rfl, -⟩ := h.service_of_entry key signature n hn
  obtain ⟨n', hn'⟩ := (h'.entry_iff key service).mpr ((h.entry_iff key service).mp ⟨n, hn⟩)
  have hsame : some n' = some n :=
    (h'.entry_eq key service n' hn').symm.trans (h.entry_eq key service n hn)
  exact hn'.trans hsame

/-- **There is one digest that groups and adds up these counts.** -/
theorem unique (h : d.GroupsAndSums b counts) (h' : d'.GroupsAndSums b counts) : d = d' := by
  refine ext_number? (fun key => ?_) fun key signature => ?_
  · rw [h.key_iff, h'.key_iff]
  · ext n
    exact ⟨h.number?_of_number? h', h'.number?_of_number? h⟩

end GroupsAndSums

/-- The sums of a checked build are those of an unchecked one, and all of them fit. -/
lemma groupsAndSums_checked_iff {d : Digest} {counts : List Count} :
    d.GroupsAndSums .checked counts ↔ d.GroupsAndSums .unchecked counts ∧ Count.SumsFit counts := by
  constructor
  · intro h
    have hexact {key service n} (hn : d.count? key service = some n) :
        n.toNat = Count.sum counts key service :=
      Build.word?_checked_eq_some_iff.mp (h.entry_eq key service n hn)
    refine ⟨⟨h.key_iff, h.entry_iff, ?_, h.service_of_entry⟩, ?_⟩
    · intro key service n hn
      rw [← hexact hn, Build.word?_toNat]
    · intro key service
      by_cases hcounted : ∃ c ∈ counts, c.key = key ∧ c.service = service
      · obtain ⟨n, hn⟩ := (h.entry_iff key service).mpr hcounted
        rw [← hexact hn]
        exact n.toNat_lt_size
      · rw [Count.sum_eq_zero hcounted]
        decide
  · rintro ⟨h, hfit⟩
    refine ⟨h.key_iff, h.entry_iff, ?_, h.service_of_entry⟩
    intro key service n hn
    rw [← h.entry_eq key service n hn, Build.word?_of_lt (hfit key service),
      Build.word?_of_lt (hfit key service)]

/-! ## The digest of a list of records -/

variable (resolve : Resolver) (records : List FlowRecord)

/-- **The digest of records groups and adds up what they count for.** -/
theorem groupsAndSums_ofRecords :
    (ofRecords resolve records).GroupsAndSums .unchecked
      (records.map (Count.ofRecord resolve)) where
  key_iff := by
    intro key
    rw [← Option.isSome_iff_exists, isSome_get?_ofRecords]
    simp [Count.ofRecord]
  entry_iff := by
    intro key service
    rw [count?_ofRecords]
    split_ifs with hcounted
    · exact iff_of_true ⟨_, rfl⟩ hcounted
    · exact iff_of_false (by simp) hcounted
  entry_eq := by
    intro key service n hn
    rw [count?_ofRecords] at hn
    split_ifs at hn
    exact hn
  service_of_entry := by
    intro key signature n hn
    have hsome : ((ofRecords resolve records).number? key signature).isSome = true := by
      simp [hn]
    obtain ⟨r, -, -, rfl⟩ := (isSome_number?_ofRecords resolve records key signature).mp hsome
    exact ⟨r.service, rfl, fun other => ServicePort.signature_inj.mp⟩

/-- **The digest that a build has for records is the one that groups and adds up what they count
for**; there is none exactly if the build stops. -/
theorem groupsAndSums_iff (b : Build) {d : Digest} :
    d.GroupsAndSums b (records.map (Count.ofRecord resolve)) ↔
      ofRecords? b resolve records = some d := by
  have hunchecked {d : Digest} : d.GroupsAndSums .unchecked (records.map (Count.ofRecord resolve)) ↔
      d = ofRecords resolve records := by
    constructor
    · intro h
      exact h.unique (groupsAndSums_ofRecords resolve records)
    · rintro rfl
      exact groupsAndSums_ofRecords resolve records
  cases b with
  | checked =>
      rw [groupsAndSums_checked_iff, hunchecked, ofRecords?_checked_eq_some_iff]
  | unchecked => rw [hunchecked, ofRecords?_unchecked, Option.some_inj, eq_comm]

lemma ofRecords?_perm (b : Build) {records records' : List FlowRecord}
    (h : records.Perm records') : ofRecords? b resolve records' = ofRecords? b resolve records := by
  ext d
  rw [← groupsAndSums_iff, ← groupsAndSums_iff]
  exact ⟨fun hd => hd.perm (h.symm.map _), fun hd => hd.perm (h.map _)⟩

/-! ## All connections together -/

/-- The exact sum of all numbers of a digest. -/
def exactTotal (d : Digest) : Nat := sumOf UInt64.toNat d.numbers

lemma exactTotal_eq (d : Digest) :
    d.exactTotal = sumOf (fun t : Tally => sumOf UInt64.toNat t.values) d.values := by
  rw [exactTotal, numbers, sumOf, List.map_flatMap, List.flatMap_def, List.sum_flatten,
    List.map_map]
  rfl

/-- **One more flow changes one number**, from the old one to what the sum comes to. -/
lemma exactTotal_ingest (d : Digest) (r : FlowRecord) :
    let old := (d.number? (.ofRecord resolve r) r.service.signature).getD 0
    (d.ingest resolve r).exactTotal + old.toNat
      = d.exactTotal + (old + r.connections).toNat := by
  have htally (t : Tally) := OrderedMap.sumOf_values_update UInt64.toNat t r.service.signature
    fun old => old.getD 0 + r.connections
  have hdigest := OrderedMap.sumOf_values_update
    (fun t : Tally => sumOf UInt64.toNat t.values) d (.ofRecord resolve r) fun tally =>
      Tally.add (tally.getD ∅) r.service.signature r.connections
  have hzero (n : Option UInt64) : n.elim 0 UInt64.toNat = (n.getD 0).toNat := by
    cases n <;> rfl
  simp only [exactTotal_eq, number?, ingest]
  cases h : d.get? (.ofRecord resolve r) with
  | none =>
      have := htally ∅
      have hempty : (OrderedMap.values (∅ : Tally)) = [] := rfl
      simp only [h, Option.getD_none, Option.elim_none, Option.bind_none, hzero, Tally.add,
        OrderedMap.get?_empty, hempty, sumOf_nil] at *
      omega
  | some t =>
      have := htally t
      simp only [h, Option.getD_some, Option.elim_some, Option.bind_some, hzero, Tally.add] at *
      omega

lemma countTotal_snoc (r : FlowRecord) :
    Count.total ((records ++ [r]).map (Count.ofRecord resolve))
      = Count.total (records.map (Count.ofRecord resolve)) + r.connections.toNat := by
  simp [Count.total, Count.ofRecord, sumOf]

/-- If every sum fits, the numbers add up to all that is counted. -/
lemma exactTotal_ofRecords_of_sumsFit
    (h : Count.SumsFit (records.map (Count.ofRecord resolve))) :
    (ofRecords resolve records).exactTotal
      = Count.total (records.map (Count.ofRecord resolve)) := by
  induction records using List.reverseRecOn with
  | nil => rfl
  | append_singleton records r ih =>
      rw [List.map_append, List.map_singleton, Count.sumsFit_append_singleton] at h
      obtain ⟨hfit, hlt⟩ := h
      have hingest := exactTotal_ingest resolve (ofRecords resolve records) r
      have hold := getD_number?_ofRecords resolve records r
      have hnew : (UInt64.ofNat (Count.sum (records.map (Count.ofRecord resolve))
            (.ofRecord resolve r) r.service) + r.connections).toNat
          = Count.sum (records.map (Count.ofRecord resolve)) (.ofRecord resolve r) r.service
            + r.connections.toNat := by
        rw [UInt64.toNat_add, UInt64.toNat_ofNat_of_lt' (hfit ..)]
        exact Nat.mod_eq_of_lt hlt
      simp only [hold, hnew, UInt64.toNat_ofNat_of_lt' (hfit ..), ih hfit] at hingest
      rw [ofRecords_snoc, countTotal_snoc]
      omega

/-- In any case they add up to it as far as 64 bits hold it. -/
lemma ofNat_exactTotal_ofRecords :
    UInt64.ofNat (ofRecords resolve records).exactTotal
      = .ofNat (Count.total (records.map (Count.ofRecord resolve))) := by
  induction records using List.reverseRecOn with
  | nil => rfl
  | append_singleton records r ih =>
      have hingest := exactTotal_ingest resolve (ofRecords resolve records) r
      have hword := congrArg UInt64.ofNat hingest
      simp only [UInt64.ofNat_add, UInt64.ofNat_toNat, ih] at hword
      rw [ofRecords_snoc, countTotal_snoc, UInt64.ofNat_add, UInt64.ofNat_toNat]
      -- the old number stands on both sides
      grind

/-- **All connections are counted, and none twice.** -/
theorem total?_ofRecords? {b : Build} {d : Digest} (h : ofRecords? b resolve records = some d) :
    d.total? b = b.word? (Count.total (records.map (Count.ofRecord resolve))) := by
  rw [total?, Build.sum?_eq]
  show b.word? d.exactTotal = _
  cases b with
  | checked =>
      obtain ⟨rfl, hfit⟩ := (ofRecords?_checked_eq_some_iff resolve records).mp h
      rw [exactTotal_ofRecords_of_sumsFit resolve records hfit]
  | unchecked =>
      obtain rfl := Option.some_inj.mp ((ofRecords?_unchecked resolve records).symm.trans h)
      exact congrArg some (ofNat_exactTotal_ofRecords resolve records)

lemma total_eq_ofNat (d : Digest) : d.total = .ofNat d.exactTotal :=
  wordSum_eq_ofNat d.numbers

lemma totalConnections_eq_ofNat :
    totalConnections records = .ofNat (Count.total (records.map (Count.ofRecord resolve))) := by
  rw [totalConnections, wordSum_eq_ofNat, Count.total, sumOf, sumOf, List.map_map, List.map_map]
  rfl

/-- **All connections are counted, and none twice**, as far as 64 bits hold them. -/
theorem total_ofRecords : (ofRecords resolve records).total = totalConnections records := by
  rw [total_eq_ofNat, ofNat_exactTotal_ofRecords, ← totalConnections_eq_ofNat]

lemma total_toNat_of_lt
    (h : Count.total (records.map (Count.ofRecord resolve)) < UInt64.size) :
    (ofRecords resolve records).total.toNat
      = Count.total (records.map (Count.ofRecord resolve)) := by
  rw [total_ofRecords, totalConnections_eq_ofNat resolve, UInt64.toNat_ofNat_of_lt' h]

/-- If all connections together fit in 64 bits, so does every sum. -/
lemma sumsFit_of_total_lt {counts : List Count} (h : Count.total counts < UInt64.size) :
    Count.SumsFit counts := by
  intro key service
  have hsublist := (List.filter_sublist (l := counts)
    (p := fun c => c.key = key ∧ c.service = service)).map (·.connections)
  exact Nat.lt_of_le_of_lt (hsublist.sum_le_sum (by simp)) h

/-! ## The digest as a whole -/

/-- **A digest is what grouping and adding up gives**, and that alone: a tally for each key that is
counted under, in it an entry for each service that is counted under the key, no other entries, and
so the connections of the records in all and nothing that depends on their order.

This is so in every build.  The sums of a checked build are exact, and it has the digest of an
unchecked one if each of them fits in 64 bits, as they all do if all connections together fit. -/
theorem ofRecords_groups_and_sums (resolve : Resolver) (records : List FlowRecord) :
    let counts := records.map (Count.ofRecord resolve)
    (∀ (b : Build) (d : Digest), d.GroupsAndSums b counts ↔
      ofRecords? b resolve records = some d) ∧
    (∀ (b : Build) (d : Digest), ofRecords? b resolve records = some d →
      d = ofRecords resolve records ∧ d.total? b = b.word? (Count.total counts)) ∧
    (Count.SumsFit counts →
      ofRecords? .checked resolve records = some (ofRecords resolve records)) ∧
    (Count.total counts < UInt64.size →
      Count.SumsFit counts ∧ (ofRecords resolve records).total.toNat = Count.total counts) ∧
    (ofRecords resolve records).total = totalConnections records ∧
    ∀ records', records.Perm records' →
      (∀ b, ofRecords? b resolve records' = ofRecords? b resolve records) ∧
      ofRecords resolve records' = ofRecords resolve records ∧
      (ofRecords resolve records').total = (ofRecords resolve records).total ∧
      (ofRecords resolve records').summary = (ofRecords resolve records).summary := by
  intro counts
  refine ⟨fun b d => groupsAndSums_iff resolve records b, ?_, ?_, ?_,
    total_ofRecords resolve records, ?_⟩
  · intro b d h
    exact ⟨eq_ofRecords_of_ofRecords? resolve records h, total?_ofRecords? resolve records h⟩
  · intro hfit
    exact (ofRecords?_checked_eq_some_iff resolve records).mpr ⟨rfl, hfit⟩
  · intro hlt
    exact ⟨sumsFit_of_total_lt hlt, total_toNat_of_lt resolve records hlt⟩
  · intro records' hperm
    have hbuilds b := ofRecords?_perm resolve b hperm
    have hsame : ofRecords resolve records' = ofRecords resolve records := by
      simpa only [ofRecords?_unchecked, Option.some_inj] using hbuilds .unchecked
    exact ⟨hbuilds, hsame, congrArg total hsame, congrArg summary hsame⟩

/-- A flow to a name server, with the number of the transport protocol. -/
def lookupFlow (proto : UInt8) (connections : UInt64) : FlowRecord where
  src := ⟨"10.0.0.1", none⟩
  dst := ⟨"10.0.0.53", none⟩
  service := ⟨53, proto⟩
  verdict := .allowed
  firstSeen := .ofNanos 0
  lastSeen := .ofNanos 0
  connections := connections

/-- Flows of two services, listed in two ways: one digest, in which the five connections of the one
service and the single connection of the other add up to six. -/
theorem ofRecords_lookups :
    [lookupFlow 17 2, lookupFlow 6 1, lookupFlow 17 3].Perm
      [lookupFlow 17 3, lookupFlow 17 2, lookupFlow 6 1] ∧
    (ofRecords (·.ip) [lookupFlow 17 3, lookupFlow 17 2, lookupFlow 6 1]).summary
      = (ofRecords (·.ip) [lookupFlow 17 2, lookupFlow 6 1, lookupFlow 17 3]).summary ∧
    (ofRecords (·.ip) [lookupFlow 17 3, lookupFlow 17 2, lookupFlow 6 1]).count?
      ⟨"10.0.0.1", "10.0.0.53", .allowed⟩ ⟨53, 17⟩ = some 5 ∧
    ofRecords? .checked (·.ip) [lookupFlow 17 2, lookupFlow 6 1, lookupFlow 17 3]
      = some (ofRecords (·.ip) [lookupFlow 17 2, lookupFlow 6 1, lookupFlow 17 3]) ∧
    (ofRecords (·.ip) [lookupFlow 17 3, lookupFlow 17 2, lookupFlow 6 1]).total.toNat = 6 := by
  have hperm : [lookupFlow 17 2, lookupFlow 6 1, lookupFlow 17 3].Perm
      [lookupFlow 17 3, lookupFlow 17 2, lookupFlow 6 1] := by decide +kernel
  obtain ⟨-, -, hchecked, htotal, -, hsame⟩ := ofRecords_groups_and_sums (·.ip)
    [lookupFlow 17 2, lookupFlow 6 1, lookupFlow 17 3]
  obtain ⟨hfits, htotal⟩ := htotal (by decide +kernel)
  obtain ⟨-, hdigest, htotals, hsummary⟩ := hsame _ hperm
  refine ⟨hperm, hsummary, ?_, hchecked hfits, (congrArg UInt64.toNat htotals).trans htotal⟩
  rw [hdigest]
  decide +kernel

end Digest

end TrafficDigest
