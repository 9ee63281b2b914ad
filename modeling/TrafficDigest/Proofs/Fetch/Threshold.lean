import Mathlib.Data.List.Perm.Subperm
import TrafficDigest.Proofs.Fetch.Complete
import TrafficDigest.Proofs.Fetch.Cost

/-!
# A higher threshold only saves requests

Two fetches of one query with different thresholds have different split trees.  An answer that
reaches the higher threshold reaches the lower one, so the tree of the higher is part of the tree of
the lower (`InTree.mono`).  What is left is to say of one fetch, in terms of its tree,

* what it asked for: every query of the tree, once (`TracedFetch.mem_startedOf_iff`);
* what it warns about: the queries of the tree with full answers and no halves
  (`mem_warnings_leavesOf_iff`).

Without a warning both fetches have all the flows that are wanted, so they have the same ones.
-/

namespace TrafficDigest.Fetch

variable {answer : FlowQuery → Except FlowError (List FlowRecord)} {threshold : Nat}
  {q w left right : FlowQuery} {records : List FlowRecord}

/-! ## The tree below one query -/

lemma inTree_split (ha : answer q = .ok records) (hfull : threshold ≤ records.length)
    (hs : q.split? = some (left, right)) :
    InTree answer threshold q w ↔
      w = q ∨ InTree answer threshold left w ∨ InTree answer threshold right w := by
  constructor
  · intro h
    rcases Relation.ReflTransGen.cases_head h with rfl | ⟨v, hhalf, hv⟩
    · exact Or.inl rfl
    obtain ⟨_, left', right', -, -, hs', hside⟩ := hhalf
    cases hs.symm.trans hs'
    rcases hside with rfl | rfl
    · exact Or.inr (Or.inl hv)
    · exact Or.inr (Or.inr hv)
  · rintro (rfl | h | h)
    · exact .refl
    · exact .head (half_left ha hfull hs) h
    · exact .head (half_right ha hfull hs) h

lemma inTree_leaf (ha : answer q = .ok records)
    (h : records.length < threshold ∨ q.split? = none) :
    InTree answer threshold q w ↔ w = q := by
  refine ⟨fun hw => ?_, by rintro rfl; exact .refl⟩
  rcases Relation.ReflTransGen.cases_head hw with rfl | ⟨v, ⟨records', _, _, ha', hfull, hs, -⟩, -⟩
  · rfl
  cases ha.symm.trans ha'
  rcases h with hshort | hnone
  · omega
  · cases hnone.symm.trans hs

/-- **The tree of a higher threshold is part of the tree of a lower one.** -/
theorem InTree.mono {t₁ t₂ : Nat} (hle : t₁ ≤ t₂) (h : InTree answer t₂ q w) :
    InTree answer t₁ q w := by
  refine Relation.ReflTransGen.mono ?_ _ _ h
  rintro v u ⟨records, left, right, ha, hfull, hs, hu⟩
  exact ⟨records, left, right, ha, hle.trans hfull, hs, hu⟩

/-! ## Warnings -/

/-- The warning is about this query: its answer is full, and it has no halves. -/
def WarnsOf (answer : FlowQuery → Except FlowError (List FlowRecord)) (threshold : Nat)
    (w : FlowQuery) (t : Truncation) : Prop :=
  ∃ records, answer w = .ok records ∧ threshold ≤ records.length ∧ w.split? = none ∧
    t = ⟨w.window, records.length⟩

lemma WarnsOf.mono {t₁ t₂ : Nat} (hle : t₁ ≤ t₂) {t : Truncation} (h : WarnsOf answer t₂ w t) :
    WarnsOf answer t₁ w t := by
  obtain ⟨records, ha, hfull, hs, ht⟩ := h
  exact ⟨records, ha, hle.trans hfull, hs, ht⟩

lemma mem_warnings_leavesOf_iff (h : NeverFails answer threshold q) {t : Truncation} :
    t ∈ warnings threshold (leavesOf answer threshold q) ↔
      ∃ w, InTree answer threshold q w ∧ WarnsOf answer threshold w t := by
  refine h.induction (P := fun q => t ∈ warnings threshold (leavesOf answer threshold q) ↔
    ∃ w, InTree answer threshold q w ∧ WarnsOf answer threshold w t) ?_ ?_
  · intro q records ha hleaf
    simp only [leavesOf_leaf ha hleaf, inTree_leaf ha hleaf, exists_eq_left]
    constructor
    · intro ht
      obtain ⟨l, hl, rfl⟩ := List.mem_map.mp ht
      obtain ⟨hl, hfull⟩ := List.mem_filter.mp hl
      obtain rfl := List.mem_singleton.mp hl
      have hfull : threshold ≤ records.length := by simpa [Leaf.isFull] using hfull
      exact ⟨records, ha, hfull, hleaf.resolve_left (Nat.not_lt.mpr hfull), rfl⟩
    · rintro ⟨records', ha', hfull, -, rfl⟩
      cases ha.symm.trans ha'
      simp [warnings, Leaf.isFull, Leaf.warning, hfull]
  · intro q left right records ha hfull hs hleft hright
    have hnot : ¬WarnsOf answer threshold q t := by
      rintro ⟨-, -, -, hnone, -⟩
      cases hnone.symm.trans hs
    simp only [leavesOf_split ha hfull hs, warnings_append, List.mem_append, hleft, hright,
      inTree_split ha hfull hs, or_and_right, exists_or, exists_eq_left, hnot, false_or]

/-! ## Requests -/

section Schedules

variable {settings : Settings} {p p' : Progress} {events : List Event}

/-- **What a run gets answers to:** everything below the queries in play. -/
lemma Traced.mem_answeredOf_iff {r : Except FlowError Progress}
    (h : Traced (.ofFunction answer) settings p events r) (hr : r = .ok p') :
    w ∈ (answeredOf events).map (·.query) ↔
      ∃ v ∈ p.inPlay, InTree answer settings.threshold v w := by
  induction h with
  | @done p h =>
      rw [answeredOf_starting, inPlay_eq_nil h]
      simp
  | fail => cases hr
  | @step p rest u records events r hw ha _ ih =>
      have ha : answer u = .ok records := Eq.symm ha
      rw [answeredOf_step, List.map_cons, List.mem_cons, ih hr]
      cases hw.settles records with
      | split full halves before after _ _ =>
          simp only [before.mem_iff, after.mem_iff, List.mem_cons, or_and_right, exists_or,
            exists_eq_left, inTree_split ha full halves, or_assoc]
      | leaf unsplit before after _ _ =>
          simp only [before.mem_iff, after.mem_iff, List.mem_cons, or_and_right, exists_or,
            exists_eq_left, inTree_leaf ha unsplit]

/-- **A fetch that succeeds asks for every query of its tree, once.** -/
theorem TracedFetch.mem_startedOf_iff {o : Outcome}
    (h : TracedFetch (.ofFunction answer) settings q events (.ok o)) :
    (startedOf events).Nodup ∧
      ∀ w, w ∈ startedOf events ↔ InTree answer settings.threshold q w := by
  generalize hr : (.ok o : Except FlowError Outcome) = r at h
  cases h with
  | refused => cases hr
  | ended _ hrun =>
      obtain ⟨p', rfl, -⟩ := map_eq_ok.mp hr.symm
      obtain ⟨last, hlast, hstarted, hok⟩ := hrun.exists_moment .start
      obtain ⟨-, hnone⟩ := hok p' rfl
      have hsent : (last.fill settings.limit).inFlight = [] :=
        (List.append_eq_nil_iff.mp ((Progress.inPlay_fill settings.limit last).trans hnone)).1
      have hperm : ((answeredOf events).map (·.query)).Perm (startedOf events) := by
        simpa [asked, hsent, Progress.start] using hstarted
      constructor
      · have hwindows := hlast.nodup_asked settings.limit
        rw [asked, hsent, List.append_nil, List.nil_append] at hwindows
        exact hperm.nodup_iff.mp (List.Nodup.of_map _ hwindows)
      · intro w
        rw [← hperm.mem_iff, hrun.mem_answeredOf_iff rfl, Progress.inPlay_start]
        simp

end Schedules

/-! ## Two thresholds -/

/-- **A fetch from memory by its tree:** what it asks for, what it warns about, and that it has all
that is wanted unless it warns. -/
lemma TracedFetch.of_memory {flows : List FlowRecord} {settings : Settings} {events : List Event}
    {r : Except FlowError Outcome} (hpos : 0 < settings.threshold)
    (hcap : settings.threshold ≤ q.maxRecords)
    (h : TracedFetch (Answers.ofSource (FlowStore.source ⟨flows, []⟩)) settings q events r) :
    ∃ o, r = .ok o ∧ (startedOf events).Nodup ∧
      (∀ w, w ∈ startedOf events ↔ InTree (fromMemory flows) settings.threshold q w) ∧
      (∀ t, t ∈ o.truncated ↔ ∃ w, InTree (fromMemory flows) settings.threshold q w ∧
        WarnsOf (fromMemory flows) settings.threshold w t) ∧
      (o.truncated = [] → o.records.Perm (q.wanted flows) ∧
        ((flows.Pairwise fun r s => r.firstSeen ≤ s.firstSeen) → o.records = q.wanted flows)) := by
  obtain ⟨o, rfl, -, hwarn, hwhole⟩ :=
    Fetches.of_memory hpos hcap (fetches_iff_traced.mpr ⟨events, h⟩)
  rw [answers_memory] at h
  obtain ⟨hnodup, hstarted⟩ := h.mem_startedOf_iff
  refine ⟨o, rfl, hnodup, hstarted, fun t => ?_, fun hnone => ?_⟩
  · rw [hwarn.mem_iff, mem_warnings_leavesOf_iff (capped_fromMemory flows _ q).neverFails]
  · rw [hwhole hnone]
    exact ⟨flatMap_wanted_perm flows settings.threshold q,
      fun hsorted => flatMap_wanted_eq hsorted settings.threshold q⟩

/-- **A higher threshold only saves requests.**  Take two fetches of one query from memory, under
any schedules, with thresholds that are not above the limit.  Both succeed.  The one with the higher
threshold asks for no query that the other does not ask for, and for each once; it has no warning
that the other does not have.  If the other has none, both have the same flows, in the same order
if those in memory are in the order of time. -/
theorem higher_threshold_saves (flows : List FlowRecord) (q : FlowQuery) {t₁ t₂ : Nat}
    (hpos : 0 < t₁) (hle : t₁ ≤ t₂) (hcap : t₂ ≤ q.maxRecords) (c₁ c₂ : Nat) :
    let answers := Answers.ofSource (FlowStore.source ⟨flows, []⟩)
    (∃ events r, TracedFetch answers ⟨t₁, c₁⟩ q events r) ∧
    (∃ events r, TracedFetch answers ⟨t₂, c₂⟩ q events r) ∧
    ∀ events₁ r₁ events₂ r₂, TracedFetch answers ⟨t₁, c₁⟩ q events₁ r₁ →
      TracedFetch answers ⟨t₂, c₂⟩ q events₂ r₂ →
      ∃ o₁ o₂, r₁ = .ok o₁ ∧ r₂ = .ok o₂ ∧
        (startedOf events₂).Subperm (startedOf events₁) ∧
        (∀ t ∈ o₂.truncated, t ∈ o₁.truncated) ∧
        (o₁.truncated = [] → o₂.truncated = [] ∧ o₂.records.Perm o₁.records ∧
          ((flows.Pairwise fun r s => r.firstSeen ≤ s.firstSeen) →
            o₂.records = o₁.records)) := by
  intro answers
  have hends (settings : Settings) : ∃ events r, TracedFetch answers settings q events r := by
    obtain ⟨r, hr⟩ := exists_fetches_memory flows settings q
    obtain ⟨events, h⟩ := fetches_iff_traced.mp hr
    exact ⟨events, r, h⟩
  refine ⟨hends _, hends _, fun events₁ r₁ events₂ r₂ h₁ h₂ => ?_⟩
  obtain ⟨o₁, rfl, -, hstarted₁, hwarn₁, hwhole₁⟩ := h₁.of_memory hpos (hle.trans hcap)
  obtain ⟨o₂, rfl, hnodup₂, hstarted₂, hwarn₂, hwhole₂⟩ :=
    h₂.of_memory (Nat.lt_of_lt_of_le hpos hle) hcap
  have hwarned : ∀ t ∈ o₂.truncated, t ∈ o₁.truncated := by
    intro t ht
    obtain ⟨w, htree, hwarns⟩ := (hwarn₂ t).mp ht
    exact (hwarn₁ t).mpr ⟨w, htree.mono hle, hwarns.mono hle⟩
  refine ⟨o₁, o₂, rfl, rfl, ?_, hwarned, fun hnone₁ => ?_⟩
  · refine List.subperm_of_subset hnodup₂ fun w hw => ?_
    exact (hstarted₁ w).mpr (((hstarted₂ w).mp hw).mono hle)
  · have hnone₂ : o₂.truncated = [] := by
      refine List.eq_nil_iff_forall_not_mem.mpr fun t ht => ?_
      simpa [hnone₁] using hwarned t ht
    obtain ⟨hperm₁, heq₁⟩ := hwhole₁ hnone₁
    obtain ⟨hperm₂, heq₂⟩ := hwhole₂ hnone₂
    exact ⟨hnone₂, hperm₂.trans hperm₁.symm, fun hsorted =>
      (heq₂ hsorted).trans (heq₁ hsorted).symm⟩

/-- Two flows, asked for with thresholds of two and three.  Neither fetch warns, and both have the
flows. -/
theorem higher_threshold_saves_twoFlows :
    let answers := Answers.ofSource (FlowStore.source ⟨[flowAt 0, flowAt 2], []⟩)
    let q : FlowQuery := { fourNanos with maxRecords := 3, maxRecords_pos := by decide }
    ∃ events₁ o₁ events₂ o₂, TracedFetch answers ⟨2, 1⟩ q events₁ (.ok o₁) ∧
      TracedFetch answers ⟨3, 4⟩ q events₂ (.ok o₂) ∧
      (startedOf events₂).Subperm (startedOf events₁) ∧ o₁.truncated = [] ∧ o₂.truncated = [] ∧
      o₂.records = o₁.records := by
  intro answers q
  obtain ⟨⟨events₁, r₁, h₁⟩, ⟨events₂, r₂, h₂⟩, hsaves⟩ :=
    higher_threshold_saves [flowAt 0, flowAt 2] q (show 0 < 2 by decide) (show 2 ≤ 3 by decide)
      (by decide) 1 4
  obtain ⟨o₁, o₂, rfl, rfl, hsub, -, hsame⟩ := hsaves _ _ _ _ h₁ h₂
  have hnone : o₁.truncated = [] := by
    obtain ⟨o, ho, -, hwarn, -⟩ :=
      Fetches.of_memory (by decide) (by decide) (fetches_iff_traced.mpr ⟨_, h₁⟩)
    cases ho
    have hquiet : warnings 2 (leavesFrom [flowAt 0, flowAt 2] 2 q) = [] := by decide +kernel
    rw [hquiet] at hwarn
    exact hwarn.eq_nil
  obtain ⟨hnone₂, -, hequal⟩ := hsame hnone
  exact ⟨events₁, o₁, events₂, o₂, h₁, h₂, hsub, hnone, hnone₂, hequal (by decide)⟩

end TrafficDigest.Fetch
