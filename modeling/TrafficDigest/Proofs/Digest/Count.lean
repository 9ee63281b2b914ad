import Mathlib.Data.List.Induction
import TrafficDigest.Digest
import TrafficDigest.Proofs.Digest.Signature
import TrafficDigest.Proofs.Sum

/-!
# A digest groups and adds up

A digest keeps one number for each group key and each signature that occur together, namely the
connections of the flows with that key and that signature (`number?_ofRecords`).  What one more flow
does is `number?_ingest`: it adds to the one entry that it belongs to.

Since services are told apart by their signatures, the number is that of the flows of one service
(`count?_ofRecords`).

A build has a digest of a list of records exactly if it gets past all sums: a checked one if each of
them fits in 64 bits (`ofRecords?_checked_eq_some_iff`), an unchecked one always.
-/

namespace TrafficDigest

namespace Count

/-- One more count adds to the sum that it belongs to. -/
lemma sum_append_singleton (counts : List Count) (c : Count) (key : GroupKey)
    (service : ServicePort) :
    sum (counts ++ [c]) key service
      = sum counts key service
        + if c.key = key ∧ c.service = service then c.connections else 0 := by
  by_cases hc : c.key = key ∧ c.service = service <;> simp [sum, sumOf, List.filter_append, hc]

/-- What flows count for a service under a key. -/
lemma sum_map_ofRecord (resolve : Resolver) (records : List FlowRecord) (key : GroupKey)
    (service : ServicePort) :
    sum (records.map (ofRecord resolve)) key service
      = sumOf (·.connections.toNat)
          (records.filter fun r => GroupKey.ofRecord resolve r = key ∧ r.service = service) := by
  rw [sum, sumOf, List.filter_map, List.map_map]
  rfl

lemma sum_eq_zero {counts : List Count} {key : GroupKey} {service : ServicePort}
    (h : ¬∃ c ∈ counts, c.key = key ∧ c.service = service) : sum counts key service = 0 := by
  have hnil : (counts.filter fun c => c.key = key ∧ c.service = service) = [] := by
    simpa [List.filter_eq_nil_iff] using h
  rw [sum, hnil]
  rfl

/-- Every sum fits in 64 bits. -/
def SumsFit (counts : List Count) : Prop :=
  ∀ key service, sum counts key service < UInt64.size

lemma sumsFit_nil : SumsFit [] := fun _ _ => show 0 < UInt64.size by decide

/-- The sums fit with one more count if they did and the one that it adds to still does. -/
lemma sumsFit_append_singleton {counts : List Count} {c : Count} :
    SumsFit (counts ++ [c]) ↔
      SumsFit counts ∧ sum counts c.key c.service + c.connections < UInt64.size := by
  simp only [SumsFit, sum_append_singleton]
  constructor
  · intro h
    refine ⟨fun key service => ?_, by simpa using h c.key c.service⟩
    exact Nat.lt_of_le_of_lt (Nat.le_add_right ..) (h key service)
  · rintro ⟨hfits, hc⟩ key service
    split_ifs with hkey
    · obtain ⟨rfl, rfl⟩ := hkey
      exact hc
    · exact hfits key service

end Count

namespace Digest

/-! ## Entries -/

lemma number?_of_get? {d : Digest} {key : GroupKey} {tally : Tally}
    (h : d.get? key = some tally) (signature : String) :
    d.number? key signature = tally.get? signature := by
  rw [number?, h, Option.bind_some]

/-- The flows that are counted under a group key and a signature. -/
def countedUnder (resolve : Resolver) (key : GroupKey) (signature : String)
    (records : List FlowRecord) : List FlowRecord :=
  records.filter fun r => GroupKey.ofRecord resolve r = key ∧ r.service.signature = signature

lemma number?_add (t : Tally) (signature : String) (n : UInt64) (signature' : String) :
    (t.add signature n).get? signature'
      = if signature' = signature then some ((t.get? signature).getD 0 + n)
        else t.get? signature' :=
  OrderedMap.get?_update t signature signature' _

/-- **One more flow adds to the entry that it belongs to** and leaves the others as they are. -/
lemma number?_ingest (resolve : Resolver) (d : Digest) (r : FlowRecord) (key : GroupKey)
    (signature : String) :
    (d.ingest resolve r).number? key signature
      = if GroupKey.ofRecord resolve r = key ∧ r.service.signature = signature
        then some ((d.number? key signature).getD 0 + r.connections)
        else d.number? key signature := by
  unfold number? ingest
  rw [OrderedMap.get?_update]
  by_cases hkey : key = GroupKey.ofRecord resolve r
  · subst hkey
    simp only [if_true, Option.bind_some, number?_add, true_and, eq_comm (a := signature)]
    cases d.get? (GroupKey.ofRecord resolve r) with
    | none => by_cases hs : r.service.signature = signature <;> simp [hs]
    | some t => by_cases hs : r.service.signature = signature <;> simp [hs]
  · have hkey' : ¬GroupKey.ofRecord resolve r = key := fun h => hkey h.symm
    simp only [hkey, hkey', if_false, false_and]

lemma ofRecords_snoc (resolve : Resolver) (records : List FlowRecord) (r : FlowRecord) :
    ofRecords resolve (records ++ [r]) = (ofRecords resolve records).ingest resolve r := by
  simp [ofRecords]

/-! ## What is counted -/

/-- **An entry is the sum over the flows with its key and its signature**, and there is one exactly
when there are such flows. -/
theorem number?_ofRecords (resolve : Resolver) (records : List FlowRecord) (key : GroupKey)
    (signature : String) :
    (ofRecords resolve records).number? key signature
      = if countedUnder resolve key signature records = [] then none
        else some (totalConnections (countedUnder resolve key signature records)) := by
  induction records using List.reverseRecOn with
  | nil => rfl
  | append_singleton records r ih =>
      rw [ofRecords_snoc, number?_ingest, ih]
      by_cases hr : GroupKey.ofRecord resolve r = key ∧ r.service.signature = signature
      · have hsnoc : countedUnder resolve key signature (records ++ [r])
            = countedUnder resolve key signature records ++ [r] := by
          simp [countedUnder, hr]
        have hne : countedUnder resolve key signature records ++ [r] ≠ [] := by simp
        rw [if_pos hr, hsnoc, if_neg hne]
        by_cases hnil : countedUnder resolve key signature records = []
        · simp [hnil, totalConnections, wordSum]
        · simp [hnil, totalConnections, wordSum_append_singleton]
      · have hsnoc : countedUnder resolve key signature (records ++ [r])
            = countedUnder resolve key signature records := by
          simp only [countedUnder, List.filter_append, List.filter_cons, hr]
          simp
        rw [if_neg hr, hsnoc]

/-- **A key occurs exactly when a flow has it.** -/
theorem isSome_get?_ofRecords (resolve : Resolver) (records : List FlowRecord) (key : GroupKey) :
    ((ofRecords resolve records).get? key).isSome = true
      ↔ ∃ r ∈ records, GroupKey.ofRecord resolve r = key := by
  induction records using List.reverseRecOn with
  | nil => simp [ofRecords]
  | append_singleton records r ih =>
      rw [ofRecords_snoc, ingest, OrderedMap.get?_update]
      by_cases hkey : key = GroupKey.ofRecord resolve r
      · simp [hkey]
      · have hkey' : ¬GroupKey.ofRecord resolve r = key := fun h => hkey h.symm
        simp only [hkey, if_false, ih, List.mem_append, List.mem_singleton, or_and_right,
          exists_or, exists_eq_left, hkey', or_false]

/-- **A signature occurs under a key exactly when a flow has both.** -/
lemma isSome_number?_ofRecords (resolve : Resolver) (records : List FlowRecord) (key : GroupKey)
    (signature : String) :
    ((ofRecords resolve records).number? key signature).isSome = true
      ↔ ∃ r ∈ records, GroupKey.ofRecord resolve r = key ∧ r.service.signature = signature := by
  rw [number?_ofRecords]
  split
  · rename_i hnil
    simpa [countedUnder, List.filter_eq_nil_iff] using hnil
  · rename_i hne
    simpa [countedUnder, List.filter_eq_nil_iff] using hne

/-- The connections of the flows of a service under a key are those that are counted for it. -/
lemma totalConnections_counted (resolve : Resolver) (records : List FlowRecord) (key : GroupKey)
    (service : ServicePort) :
    totalConnections (countedUnder resolve key service.signature records)
      = .ofNat (Count.sum (records.map (Count.ofRecord resolve)) key service) := by
  rw [Count.sum_map_ofRecord, totalConnections, wordSum_eq_ofNat, sumOf, sumOf, List.map_map]
  simp only [countedUnder, ServicePort.signature_inj, Function.comp_def]

/-- **The entry of a service is the sum of what is counted for it**, as far as 64 bits hold it. -/
theorem count?_ofRecords (resolve : Resolver) (records : List FlowRecord) (key : GroupKey)
    (service : ServicePort) :
    (ofRecords resolve records).count? key service
      = if ∃ c ∈ records.map (Count.ofRecord resolve), c.key = key ∧ c.service = service
        then some (.ofNat (Count.sum (records.map (Count.ofRecord resolve)) key service))
        else none := by
  have hcounted : countedUnder resolve key service.signature records = [] ↔
      ¬∃ c ∈ records.map (Count.ofRecord resolve), c.key = key ∧ c.service = service := by
    simp [countedUnder, List.filter_eq_nil_iff, Count.ofRecord, ServicePort.signature_inj]
  rw [count?, number?_ofRecords, totalConnections_counted]
  by_cases hnil : countedUnder resolve key service.signature records = []
  · rw [if_pos hnil, if_neg (hcounted.mp hnil)]
  · rw [if_neg hnil, if_pos (not_not.mp (mt hcounted.mpr hnil))]

/-- The number that one more flow adds to, whether or not it is there already. -/
lemma getD_number?_ofRecords (resolve : Resolver) (records : List FlowRecord) (r : FlowRecord) :
    ((ofRecords resolve records).number? (.ofRecord resolve r) r.service.signature).getD 0
      = .ofNat (Count.sum (records.map (Count.ofRecord resolve)) (.ofRecord resolve r)
          r.service) := by
  have hcount := count?_ofRecords resolve records (.ofRecord resolve r) r.service
  rw [count?] at hcount
  rw [hcount]
  split_ifs with hcounted
  · rfl
  · rw [Count.sum_eq_zero hcounted]
    rfl

/-! ## Builds -/

variable (resolve : Resolver) (records : List FlowRecord)

lemma ofRecords?_unchecked :
    ofRecords? .unchecked resolve records = some (ofRecords resolve records) :=
  List.foldlM_pure

lemma ofRecords?_snoc (b : Build) (r : FlowRecord) :
    ofRecords? b resolve (records ++ [r])
      = (ofRecords? b resolve records).bind (ingest? b resolve · r) := by
  simp [ofRecords?, List.foldlM_append]

/-- **A checked build has the digest of an unchecked one**, as long as every sum fits. -/
theorem ofRecords?_checked_eq_some_iff {d : Digest} :
    ofRecords? .checked resolve records = some d ↔
      d = ofRecords resolve records ∧ Count.SumsFit (records.map (Count.ofRecord resolve)) := by
  induction records using List.reverseRecOn generalizing d with
  | nil => simp [ofRecords?, ofRecords, Count.sumsFit_nil, eq_comm]
  | append_singleton records r ih =>
      rw [ofRecords?_snoc, List.map_append, List.map_singleton,
        Count.sumsFit_append_singleton, ofRecords_snoc]
      have hold := getD_number?_ofRecords resolve records r
      simp only [Option.bind_eq_some_iff, ih]
      constructor
      · rintro ⟨_, ⟨rfl, hfits⟩, hingest⟩
        simp only [ingest?, hold, Build.add?, Option.map_eq_some_iff] at hingest
        obtain ⟨n, hn, rfl⟩ := hingest
        rw [UInt64.toNat_ofNat_of_lt' (hfits ..), Build.word?_checked_eq_some_iff] at hn
        have hlt := n.toNat_lt_size
        rw [hn] at hlt
        exact ⟨rfl, hfits, hlt⟩
      · rintro ⟨rfl, hfits, hlt⟩
        refine ⟨_, ⟨rfl, hfits⟩, ?_⟩
        simp only [ingest?, hold, Build.add?, UInt64.toNat_ofNat_of_lt' (hfits ..)]
        exact congrArg (Option.map _) (Build.word?_of_lt hlt)

/-- No build has another digest than an unchecked one. -/
lemma eq_ofRecords_of_ofRecords? {b : Build} {d : Digest}
    (h : ofRecords? b resolve records = some d) : d = ofRecords resolve records := by
  cases b with
  | checked => exact ((ofRecords?_checked_eq_some_iff resolve records).mp h).1
  | unchecked =>
      rw [ofRecords?_unchecked] at h
      exact (Option.some_inj.mp h).symm

end Digest

end TrafficDigest
