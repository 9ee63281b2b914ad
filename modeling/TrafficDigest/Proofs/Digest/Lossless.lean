import TrafficDigest.Digest.Summary.Reader
import TrafficDigest.Proofs.Digest.Group
import TrafficDigest.Proofs.Run
import TrafficDigest.Proofs.Text.Decimal

/-!
# A summary loses nothing

The rows of a summary are read back to the digest they were made of (`ofSummary?_summary`).  The
reader finds its way because the separators of the text, the semicolon and the parenthesis, are in
no signature, and because every tally of a digest of records has an entry, so that its text is not
empty and the filled column is that of the verdict (`Tally.OfServices`).

The order in which a tally is written is not that of its keys.  It does not matter to the reader,
since a map is made again from its entries in any order (`OrderedMap.ofList_of_perm`).
-/

namespace TrafficDigest

/-! ## Entries -/

/-- What stands before the first of a character. -/
lemma takeWhile_ne {c : Char} {before after : List Char} (h : c ∉ before) :
    (before ++ c :: after).takeWhile (· ≠ c) = before := by
  have hbefore : ∀ x ∈ before, decide (x ≠ c) = true := by
    intro x hx
    rw [decide_eq_true_eq]
    rintro rfl
    exact h hx
  rw [List.takeWhile_append_of_pos hbefore]
  simp

namespace Tally

lemma toList_entryText (signature : String) (n : UInt64) :
    (entryText (signature, n)).toList
      = (signature.toList ++ [' ']) ++
          '(' :: ((toString n.toNat).toList ++ ' ' :: "flows)".toList) := by
  simp [entryText]

/-- **An entry is read back from its text.** -/
lemma readRanked?_entryText {signature : String} (h : '(' ∉ signature.toList) (n : UInt64) :
    readRanked? (entryText (signature, n)).toList = some (signature, n) := by
  have hsignature : ((entryText (signature, n)).toList.takeWhile (· ≠ '(')).dropLast
      = signature.toList := by
    rw [toList_entryText, takeWhile_ne (by simpa using h), List.dropLast_concat]
  have hnumber : ((entryText (signature, n)).toList.drop (signature.toList.length + 2)).takeWhile
      (· ≠ ' ') = (toString n.toNat).toList := by
    have hdrop : (entryText (signature, n)).toList.drop (signature.toList.length + 2)
        = (toString n.toNat).toList ++ ' ' :: "flows)".toList := by
      rw [toList_entryText]
      simp [List.drop_append]
    rw [hdrop, takeWhile_ne (notMem_toString rfl n.toNat)]
  simp only [readRanked?, hsignature, hnumber, Text.readDigits_toString, String.ofList_toList,
    Option.bind_eq_bind, Option.bind_some, UInt64.ofNat_toNat, if_true]

lemma semicolon_notMem_entryText {signature : String} (h : ';' ∉ signature.toList) (n : UInt64) :
    ';' ∉ (entryText (signature, n)).toList := by
  have hnumber : ';' ∉ (toString n.toNat).toList := notMem_toString rfl n.toNat
  rw [toList_entryText]
  simpa [h] using hnumber

/-! ## Tallies -/

/-- There is an entry, and every entry belongs to a service. -/
structure OfServices (t : Tally) : Prop where
  nonempty : t.entries ≠ []
  services : ∀ e ∈ t.entries, ∃ s : ServicePort, s.signature = e.1

lemma perm_ranked (t : Tally) : t.ranked.Perm t.entries := List.mergeSort_perm ..

/-- A character that no signature has is in none of the ranked services. -/
lemma OfServices.notMem {t : Tally} (h : t.OfServices) {c : Char} (hspace : c ≠ ' ')
    (hdigit : c.isDigit = false) (hnames : ∀ e ∈ protocolNames, c ∉ e.2.toList) :
    ∀ e ∈ t.ranked, c ∉ e.1.toList := by
  intro e he
  obtain ⟨s, hs⟩ := h.services e (t.perm_ranked.mem_iff.mp he)
  rw [← hs]
  exact s.notMem_signature hspace hdigit hnames

lemma splitOn_text {t : Tally} (h : t.OfServices) :
    t.text.toList.splitOn ';' = t.ranked.map fun e => (entryText e).toList := by
  have htext : t.text.toList = [';'].intercalate (t.ranked.map fun e => (entryText e).toList) := by
    simp [text, String.toList_intercalate, Function.comp_def]
  have hparts : ∀ cs ∈ t.ranked.map fun e => (entryText e).toList, ';' ∉ cs := by
    simp only [List.mem_map]
    rintro _ ⟨e, he, rfl⟩
    exact semicolon_notMem_entryText (h.notMem (by decide) rfl (by decide) e he) e.2
  have hranked : t.ranked ≠ [] := by
    intro hnil
    have hperm := t.perm_ranked
    rw [hnil] at hperm
    exact h.nonempty hperm.nil_eq.symm
  rw [htext, List.splitOn_intercalate _ hparts (by simpa using hranked)]

/-- **A tally is read back from its text.** -/
theorem read?_text {t : Tally} (h : t.OfServices) : read? t.text = some t := by
  have hread : ∀ e ∈ t.ranked, readRanked? (entryText e).toList = some e := by
    intro e he
    exact readRanked?_entryText (h.notMem (by decide) rfl (by decide) e he) e.2
  rw [read?, splitOn_text h, mapM_map_eq_some hread, Option.map_some,
    OrderedMap.ofList_of_perm t.perm_ranked]

/-- The text of such a tally is not empty, for nothing would be read back. -/
lemma text_ne_empty {t : Tally} (h : t.OfServices) : t.text ≠ "" := by
  intro hempty
  have hread := read?_text h
  rw [hempty] at hread
  cases hread

end Tally

/-! ## Rows -/

namespace SummaryRow

lemma source_make (key : GroupKey) (text : String) : (make key text).source = key.source := by
  rcases key with ⟨source, destination, v⟩
  cases v <;> rfl

lemma destination_make (key : GroupKey) (text : String) :
    (make key text).destination = key.destination := by
  rcases key with ⟨source, destination, v⟩
  cases v <;> rfl

/-- Only the column of the verdict of the key is filled. -/
lemma column_make (key : GroupKey) (text : String) (verdict : Verdict) :
    (make key text).column verdict = if verdict = key.verdict then text else "" := by
  rcases key with ⟨source, destination, v⟩
  cases v <;> cases verdict <;> rfl

lemma verdict?_make (key : GroupKey) {text : String} (h : text ≠ "") :
    (make key text).verdict? = some key.verdict := by
  rcases key with ⟨source, destination, v⟩
  cases v <;> simp [verdict?, Verdict.all, column_make, h]

/-- **A row is read back.** -/
lemma read?_make (key : GroupKey) {t : Tally} (h : t.OfServices) :
    read? (make key t.text) = some (key, t) := by
  rw [read?, verdict?_make key (Tally.text_ne_empty h)]
  simp [column_make, Tally.read?_text h, source_make, destination_make]

end SummaryRow

/-! ## Summaries -/

namespace Digest

lemma ofServices_of_groupsAndSums {b : Build} {d : Digest} {counts : List Count}
    (h : d.GroupsAndSums b counts) {key : GroupKey} {tally : Tally}
    (htally : d.get? key = some tally) : tally.OfServices where
  nonempty := by
    obtain ⟨c, hc, hkey⟩ := (h.key_iff key).mp ⟨tally, htally⟩
    obtain ⟨n, hn⟩ := (h.entry_iff key c.service).mpr ⟨c, hc, hkey, rfl⟩
    rw [count?, number?_of_get? htally] at hn
    exact List.ne_nil_of_mem (OrderedMap.mem_entries_iff.mpr hn)
  services := by
    intro e he
    have hnumber : d.number? key e.1 = some e.2 := by
      rw [number?_of_get? htally]
      exact OrderedMap.mem_entries_iff.mp he
    obtain ⟨s, hs, -⟩ := h.service_of_entry key e.1 e.2 hnumber
    exact ⟨s, hs⟩

/-- **A digest is read back from its summary.** -/
theorem ofSummary?_summary {d : Digest} (h : ∀ e ∈ d.entries, e.2.OfServices) :
    ofSummary? d.summary = some d := by
  have hread : ∀ e ∈ d.entries, SummaryRow.read? (SummaryRow.make e.1 e.2.text) = some e := by
    intro e he
    exact SummaryRow.read?_make e.1 (h e he)
  have hrows : d.summary.mapM SummaryRow.read? = some d.entries := mapM_map_eq_some hread
  rw [ofSummary?, hrows, Option.map_some, OrderedMap.ofList_of_perm (List.Perm.refl _)]

lemma ofSummary?_ofRecords (resolve : Resolver) (records : List FlowRecord) :
    ofSummary? (ofRecords resolve records).summary = some (ofRecords resolve records) := by
  apply ofSummary?_summary
  intro e he
  exact ofServices_of_groupsAndSums (groupsAndSums_ofRecords resolve records)
    (OrderedMap.mem_entries_iff.mp he)

/-- **A summary determines its digest**: it is read back from the rows, so that digests of records
with the same rows are the same in every key and every count. -/
theorem summary_lossless (resolve resolve' : Resolver) (records records' : List FlowRecord) :
    ofSummary? (ofRecords resolve records).summary = some (ofRecords resolve records) ∧
    ((ofRecords resolve records).summary = (ofRecords resolve' records').summary ↔
      ofRecords resolve records = ofRecords resolve' records') := by
  refine ⟨ofSummary?_ofRecords resolve records, ?_, congrArg summary⟩
  intro hrows
  have hread := ofSummary?_ofRecords resolve records
  rw [hrows, ofSummary?_ofRecords resolve' records'] at hread
  exact (Option.some_inj.mp hread).symm

end Digest

end TrafficDigest
