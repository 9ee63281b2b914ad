import Mathlib.Data.String.Basic
import TrafficDigest.Proofs.Digest.Lossless

/-!
# One order for a ranking and one for the rows

A map does not say in which order it lists its entries.  Neither the text of a tally nor the rows of
a digest depend on it: whatever the listing, sorting it gives the same (`Tally.textOf_perm`,
`Digest.summaryOf_perm`).  This is because both orders tell different keys apart, so that a sorted
listing is strictly ordered (`OrderedMap.strict_mergeSort`), and there is one such list of the same
entries.

`Digest.summary_canonical` puts together what a reader of the output sees: services by falling
counts and rising signatures, one row for each key by rising keys, and in a row the one column that
is filled.
-/

namespace TrafficDigest

/-! ## Ranking -/

/-- A service goes strictly ahead of another: with more connections, or with as many and a smaller
signature. -/
def RankedAhead (a b : String × UInt64) : Prop := b.2 < a.2 ∨ a.2 = b.2 ∧ a.1 < b.1

instance : DecidableRel RankedAhead := fun a b =>
  inferInstanceAs (Decidable (b.2 < a.2 ∨ a.2 = b.2 ∧ a.1 < b.1))

lemma rankedAhead_iff {a b : String × UInt64} :
    RankedAhead a b ↔ b.2.toNat < a.2.toNat ∨ a.2.toNat = b.2.toNat ∧ a.1 < b.1 := by
  rw [RankedAhead, UInt64.lt_iff_toNat_lt, UInt64.toNat_inj]

lemma RankedAhead.asymm {a b : String × UInt64} (h : RankedAhead a b) : ¬RankedAhead b a := by
  rw [rankedAhead_iff] at h ⊢
  rintro (hcount | ⟨hcount, hsignature⟩) <;> rcases h with hcount' | ⟨hcount', hsignature'⟩
  · omega
  · omega
  · omega
  · exact lt_asymm hsignature hsignature'

lemma rankedBefore_iff {a b : String × UInt64} :
    rankedBefore a b = true ↔ b.2.toNat < a.2.toNat ∨ a.2.toNat = b.2.toNat ∧ a.1 ≤ b.1 := by
  simp [rankedBefore, UInt64.lt_iff_toNat_lt, UInt64.toNat_inj]

namespace Tally

/-- The text of a tally whose entries are listed in this order. -/
def textOf (listing : List (String × UInt64)) : String :=
  ";".intercalate ((listing.mergeSort rankedBefore).map entryText)

lemma strict_ranking {t : Tally} {listing : List (String × UInt64)} (h : listing.Perm t.entries) :
    (listing.mergeSort rankedBefore).Pairwise RankedAhead := by
  refine OrderedMap.strict_mergeSort h ?_ ?_ ?_
  · intro a b c hab hbc
    rw [rankedBefore_iff] at hab hbc ⊢
    rcases hab with hab | ⟨hab, hsignature⟩ <;> rcases hbc with hbc | ⟨hbc, hsignature'⟩
    · omega
    · omega
    · omega
    · exact Or.inr ⟨hab.trans hbc, hsignature.trans hsignature'⟩
  · intro a b
    rw [Bool.or_eq_true, rankedBefore_iff, rankedBefore_iff]
    rcases lt_trichotomy a.2.toNat b.2.toNat with hlt | heq | hlt
    · exact Or.inr (Or.inl hlt)
    · exact (le_total a.1 b.1).imp (fun h => Or.inr ⟨heq, h⟩) fun h => Or.inr ⟨heq.symm, h⟩
    · exact Or.inl (Or.inl hlt)
  · intro a b hab
    rw [rankedAhead_iff]
    rcases rankedBefore_iff.mp hab with hcount | ⟨hcount, hsignature⟩
    · exact Or.inr (Or.inl hcount)
    · exact hsignature.eq_or_lt.imp_right fun h => Or.inr ⟨hcount, h⟩

/-- **The ranking is the one strictly ordered list of the entries.** -/
theorem eq_ranked_iff {t : Tally} {l : List (String × UInt64)} :
    l = t.ranked ↔ l.Perm t.entries ∧ l.Pairwise RankedAhead := by
  have hstrict : t.ranked.Pairwise RankedAhead := strict_ranking (.refl _)
  constructor
  · rintro rfl
    exact ⟨t.perm_ranked, hstrict⟩
  · rintro ⟨hperm, hl⟩
    exact (hperm.trans t.perm_ranked.symm).eq_of_pairwise
      (fun _ _ _ _ hab hba => absurd hba hab.asymm) hl hstrict

/-- **The text of a tally is the same, however its entries are listed.** -/
theorem textOf_perm {t : Tally} {listing : List (String × UInt64)} (h : listing.Perm t.entries) :
    textOf listing = t.text := by
  have hranked : listing.mergeSort rankedBefore = t.ranked :=
    eq_ranked_iff.mpr ⟨(List.mergeSort_perm _ _).trans h, strict_ranking h⟩
  rw [textOf, hranked, text]

end Tally

/-! ## Keys -/

/-- Allowed goes before potentially blocked, and that before blocked. -/
inductive Verdict.Before : Verdict → Verdict → Prop where
  | allowed_potentiallyBlocked : Before .allowed .potentiallyBlocked
  | allowed_blocked : Before .allowed .blocked
  | potentiallyBlocked_blocked : Before .potentiallyBlocked .blocked

lemma Verdict.before_iff {v w : Verdict} : v.Before w ↔ v.index < w.index := by
  constructor
  · rintro (_ | _ | _) <;> decide
  · intro h
    cases v <;> cases w <;> first | constructor | exact absurd h (by decide)

/-- A key goes before another: by its source, then its destination, then its verdict. -/
def GroupKey.Before (a b : GroupKey) : Prop :=
  a.source < b.source ∨ a.source = b.source ∧
    (a.destination < b.destination ∨ a.destination = b.destination ∧ a.verdict.Before b.verdict)

lemma GroupKey.before_iff {a b : GroupKey} : a.Before b ↔ compare a b = .lt := by
  have horder : compare a b = (compare a.source b.source).then
      ((compare a.destination b.destination).then (compare a.verdict.index b.verdict.index)) :=
    rfl
  rw [horder, Ordering.then_eq_lt, Ordering.then_eq_lt, Before, Verdict.before_iff]
  simp only [compare_lt_iff_lt, compare_eq_iff_eq]

/-! ## Rows -/

/-- An entry with a key goes before another or shares its key. -/
def keyBefore (a b : GroupKey × Tally) : Bool := (compare a.1 b.1).isLE

/-- **A row shows the tally of a key** in the column of the verdict, and nothing in the others. -/
structure SummaryRow.Shows (row : SummaryRow) (key : GroupKey) (tally : Tally) : Prop where
  source : row.source = key.source
  destination : row.destination = key.destination
  text : row.column key.verdict = tally.text
  filled : ∀ verdict, row.column verdict ≠ "" ↔ verdict = key.verdict

lemma SummaryRow.shows_make (key : GroupKey) {tally : Tally} (h : tally.OfServices) :
    (SummaryRow.make key tally.text).Shows key tally where
  source := source_make key tally.text
  destination := destination_make key tally.text
  text := by rw [column_make, if_pos rfl]
  filled verdict := by
    rw [column_make]
    split_ifs with hverdict
    · exact iff_of_true (Tally.text_ne_empty h) hverdict
    · exact iff_of_false (fun hne => hne rfl) hverdict

namespace Digest

/-- The rows of a digest whose entries are listed in this order. -/
def summaryOf (listing : List (GroupKey × Tally)) : List SummaryRow :=
  (listing.mergeSort keyBefore).map fun (key, tally) => SummaryRow.make key tally.text

/-- **The rows of a digest are the same, however its entries are listed.** -/
theorem summaryOf_perm {d : Digest} {listing : List (GroupKey × Tally)}
    (h : listing.Perm d.entries) : summaryOf listing = d.summary := by
  have hstrict : (listing.mergeSort keyBefore).Pairwise fun a b => compare a.1 b.1 = .lt := by
    refine OrderedMap.strict_mergeSort h ?_ ?_ ?_
    · intro a b c hab hbc
      exact Std.TransCmp.isLE_trans hab hbc
    · intro a b
      rw [keyBefore, keyBefore, Std.OrientedOrd.eq_swap (a := b.1)]
      cases compare a.1 b.1 <;> decide
    · intro a b hab
      rw [keyBefore, Ordering.isLE_iff_eq_lt_or_eq_eq] at hab
      exact hab.symm.imp_left Std.LawfulEqOrd.eq_of_compare
  have hsorted : listing.mergeSort keyBefore = d.entries :=
    OrderedMap.eq_of_perm_of_increasing ((List.mergeSort_perm _ _).trans h) hstrict d.increasing
  rw [summaryOf, hsorted, summary]

/-- **Ranking and row order are canonical.**  The ranking of a tally is the only list that has each
entry once and goes by falling counts and, at equal counts, by rising signatures; the text does not
depend on the order in which the entries are listed.  The rows of a digest of records go by strictly
rising keys, one row for each key; each shows the tally of its key, in the column of the verdict
alone, and the rows do not depend on how the entries are listed either. -/
theorem summary_canonical :
    (∀ t : Tally,
      (∀ l, l = t.ranked ↔ l.Perm t.entries ∧ l.Pairwise RankedAhead) ∧
      (t.ranked.map (·.1)).Nodup ∧
      ∀ listing, listing.Perm t.entries → Tally.textOf listing = t.text) ∧
    ∀ (resolve : Resolver) (records : List FlowRecord),
      ∃ keys : List GroupKey,
        keys.Pairwise GroupKey.Before ∧
        (∀ key, key ∈ keys ↔ ∃ tally, (ofRecords resolve records).get? key = some tally) ∧
        List.Forall₂ (fun key row => ∃ tally, (ofRecords resolve records).get? key = some tally ∧
          SummaryRow.Shows row key tally) keys (ofRecords resolve records).summary ∧
        ∀ listing, listing.Perm (ofRecords resolve records).entries →
          summaryOf listing = (ofRecords resolve records).summary := by
  constructor
  · intro t
    refine ⟨fun l => Tally.eq_ranked_iff, ?_, fun listing => Tally.textOf_perm⟩
    exact (t.perm_ranked.map _).nodup_iff.mpr (List.pairwise_map.mpr t.distinct_keys)
  · intro resolve records
    have hget {key : GroupKey} {tally : Tally} :
        (key, tally) ∈ (ofRecords resolve records).entries ↔
          (ofRecords resolve records).get? key = some tally :=
      OrderedMap.mem_entries_iff
    have hservices {key : GroupKey} {tally : Tally}
        (h : (ofRecords resolve records).get? key = some tally) : tally.OfServices :=
      ofServices_of_groupsAndSums (groupsAndSums_ofRecords resolve records) h
    refine ⟨(ofRecords resolve records).entries.map (·.1), ?_, ?_, ?_,
      fun listing => summaryOf_perm⟩
    · rw [List.pairwise_map]
      exact (ofRecords resolve records).increasing.imp GroupKey.before_iff.mpr
    · intro key
      simp only [List.mem_map, Prod.exists, exists_eq_right, hget, exists_and_right]
    · rw [summary, List.forall₂_map_left_iff, List.forall₂_map_right_iff, List.forall₂_same]
      rintro ⟨key, tally⟩ hmem
      exact ⟨tally, hget.mp hmem, SummaryRow.shows_make key (hservices (hget.mp hmem))⟩

/-- Services of which three have as many connections as one another. -/
def tiedServices : Tally :=
  .ofList [("8080 TCP", 5), ("3306 TCP", 5), ("123 UDP", 5), ("22 TCP", 9)]

/-- Ties are broken by signatures, wherever they stand in a listing. -/
theorem summary_canonical_tiedServices :
    tiedServices.ranked = [("22 TCP", 9), ("123 UDP", 5), ("3306 TCP", 5), ("8080 TCP", 5)] ∧
      Tally.textOf [("8080 TCP", 5), ("22 TCP", 9), ("3306 TCP", 5), ("123 UDP", 5)] =
        tiedServices.text := by
  obtain ⟨hranked, -, htext⟩ := summary_canonical.1 tiedServices
  exact ⟨((hranked _).mpr (by decide +kernel)).symm, htext _ (by decide +kernel)⟩

end Digest

end TrafficDigest
