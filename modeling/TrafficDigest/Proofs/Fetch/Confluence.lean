import TrafficDigest.Proofs.Fetch.SplitTree

/-!
# Fetching does not depend on the schedule

Answers may come in any order, and any number of queries may be in flight.  With a source whose
answers depend on the query alone, none of this shows in the outcome: without failures a fetch ends
with the records of the leaves of the split tree in the order of time (`Fetches.eq_ok`), whichever
schedule it ran under; with a failure anywhere in the tree no schedule ends in a success.

The order of the records hangs on one fact: no two leaves start at the same instant, so sorting the
leaves by their starts leaves nothing to the order in which they came (`records_outcome`).
-/

namespace TrafficDigest.Fetch

variable {answer : FlowQuery → Except FlowError (List FlowRecord)} {settings : Settings}
  {q : FlowQuery}

/-! ## The order of the records -/

lemma nodup_starts {ls : List Leaf}
    (h : ls.Pairwise fun l m => l.window.start < m.window.start) :
    (ls.map (·.window.start)).Nodup := by
  refine List.pairwise_map.mpr (h.imp fun {l m} hlm heq => ?_)
  rw [heq] at hlm
  exact Instant.not_lt.mpr (Instant.le_refl _) hlm

lemma pairwise_sorted (ls : List Leaf) :
    (ls.mergeSort fun l m => l.window.start ≤ m.window.start).Pairwise
      fun l m => l.window.start ≤ m.window.start := by
  have h : (ls.mergeSort fun l m => l.window.start ≤ m.window.start).Pairwise
      fun l m => decide (l.window.start ≤ m.window.start) = true := by
    refine List.pairwise_mergeSort ?_ ?_ ls
    · intro l m n hlm hmn
      simp only [decide_eq_true_eq] at *
      exact Instant.le_trans hlm hmn
    · intro l m
      simp only [Bool.or_eq_true, decide_eq_true_eq, Instant.le_iff]
      omega
  simpa using h

/-- **Sorting undoes the schedule:** leaves with distinct starts come out in the order of their
starts, in whichever order they came. -/
lemma records_outcome {p : Progress} {ls : List Leaf} (hperm : p.leaves.Perm ls)
    (hstarts : ls.Pairwise fun l m => l.window.start < m.window.start) :
    p.outcome.records = ls.flatMap (·.records) := by
  have hsorted : (p.leaves.mergeSort fun l m => l.window.start ≤ m.window.start) = ls := by
    refine List.Perm.eq_of_pairwise ?_ (pairwise_sorted p.leaves)
      (hstarts.imp fun h => Instant.le_of_lt h) ((List.mergeSort_perm _ _).trans hperm)
    intro l m hl hm hlm hml
    have hl : l ∈ ls := hperm.mem_iff.mp (List.mem_mergeSort.mp hl)
    have hstart : l.window.start = m.window.start := by
      rw [← Instant.rank_inj]
      simp only [Instant.le_iff] at hlm hml
      omega
    exact List.inj_on_of_nodup_map (nodup_starts hstarts) hl hm hstart
  simp only [Progress.outcome, hsorted]

/-! ## The outcome without failures -/

lemma pairwise_leavesOf {threshold : Nat} (h : NeverFails answer threshold q) :
    (leavesOf answer threshold q).Pairwise fun l m => l.window.start < m.window.start := by
  have hstarts := (tiles_leavesOf h).start_lt_start
  rw [List.pairwise_map] at hstarts
  exact hstarts

lemma Run.leaves_perm {p : Progress}
    (h : Run (.ofFunction answer) settings (.start q) (.ok p)) :
    p.leaves.Perm (leavesOf answer settings.threshold q) ∧
      p.truncated = warnings settings.threshold p.leaves := by
  obtain ⟨-, last, hlast, hl, ht, hplay⟩ := h.of_ok .start
  have hperm := hlast.leaves_perm
  rw [hplay, List.flatMap_nil, List.append_nil] at hperm
  rw [hl, ht]
  exact ⟨hperm, truncated_eq hlast⟩

lemma Run.inTree_of_error {e : FlowError}
    (h : Run (.ofFunction answer) settings (.start q) (.error e)) :
    ∃ w, InTree answer settings.threshold q w ∧ answer w = .error e := by
  obtain ⟨last, w, hlast, hw, ha⟩ := h.of_error .start
  exact ⟨w, hlast.inTree w hw, ha.symm⟩

/-- A run that does not fail has got an answer to every query of the tree. -/
lemma Run.neverFails {p : Progress}
    (h : Run (.ofFunction answer) settings (.start q) (.ok p)) :
    NeverFails answer settings.threshold q := by
  obtain ⟨-, last, hlast, -, -, hplay⟩ := h.of_ok .start
  intro w hw
  obtain hans | ⟨v, hv, -⟩ := hlast.answered_or_inPlay hw
  · exact hans
  · rw [hplay] at hv
    exact absurd hv (by simp)

/-- **The outcome of a fetch without failures** is fixed up to the order of the warnings. -/
theorem Fetches.eq_ok {r : Except FlowError Outcome} (hpos : 0 < settings.threshold)
    (hok : NeverFails answer settings.threshold q)
    (h : Fetches (.ofFunction answer) settings q r) :
    ∃ o, r = .ok o ∧
      o.records = (leavesOf answer settings.threshold q).flatMap (·.records) ∧
      o.windows = (leavesOf answer settings.threshold q).length ∧
      o.truncated.Perm
        (warnings settings.threshold (leavesOf answer settings.threshold q)) := by
  have hcheck : settings.check = .ok () := by simp [Settings.check, Nat.ne_of_gt hpos]
  cases h with
  | refused h => cases h.symm.trans hcheck
  | @ended r _ hr =>
      cases r with
      | error e =>
          obtain ⟨w, hw, he⟩ := hr.inTree_of_error
          obtain ⟨records, ha⟩ := hok w hw
          cases he.symm.trans ha
      | ok p =>
          obtain ⟨hperm, ht⟩ := hr.leaves_perm
          refine ⟨p.outcome, rfl, records_outcome hperm (pairwise_leavesOf hok),
            hperm.length_eq, ?_⟩
          show p.truncated.Perm _
          rw [ht]
          exact warnings_perm hperm

lemma exists_fetches (answer : FlowQuery → Except FlowError (List FlowRecord))
    (settings : Settings) (q : FlowQuery) :
    ∃ r, Fetches (.ofFunction answer) settings q r := by
  cases hcheck : settings.check with
  | error e => exact ⟨_, .refused hcheck⟩
  | ok =>
      have total : ∀ q, ∃ a, Answers.ofFunction answer q a := fun q => ⟨answer q, rfl⟩
      obtain ⟨r, hr⟩ := exists_run settings total (.start q)
      exact ⟨_, .ended hcheck hr⟩

/-! ## Any two schedules -/

/-- **Any two schedules of a fetch come out the same**, with any numbers of queries in flight.
Without a failure in the split tree they have the same records in the same order, as many windows
and the same warnings up to their order; with one, both end in the error of a query of the tree.
No schedule goes on forever, and none gets stuck. -/
theorem fetches_schedule_independent (answer : FlowQuery → Except FlowError (List FlowRecord))
    (q : FlowQuery) {threshold : Nat} (hpos : 0 < threshold) :
    (NeverFails answer threshold q →
      ∀ (c₁ c₂ : Nat) (r₁ r₂ : Except FlowError Outcome),
        Fetches (.ofFunction answer) ⟨threshold, c₁⟩ q r₁ →
        Fetches (.ofFunction answer) ⟨threshold, c₂⟩ q r₂ →
        ∃ o₁ o₂, r₁ = .ok o₁ ∧ r₂ = .ok o₂ ∧ o₁.records = o₂.records ∧
          o₁.windows = o₂.windows ∧ o₁.truncated.Perm o₂.truncated) ∧
    ((∃ w e, InTree answer threshold q w ∧ answer w = .error e) →
      ∀ (c : Nat) (r : Except FlowError Outcome),
        Fetches (.ofFunction answer) ⟨threshold, c⟩ q r →
        ∃ w e, InTree answer threshold q w ∧ answer w = .error e ∧ r = .error e) ∧
    ∀ c : Nat,
      (WellFounded fun p' p => Step (.ofFunction answer) ⟨threshold, c⟩ p p') ∧
      ∀ p, Reachable (.ofFunction answer) ⟨threshold, c⟩ q p →
        ∃ r, Run (.ofFunction answer) ⟨threshold, c⟩ p r := by
  refine ⟨?_, ?_, ?_⟩
  · intro hok c₁ c₂ r₁ r₂ h₁ h₂
    obtain ⟨o₁, hr₁, hrec₁, hwin₁, hwarn₁⟩ := h₁.eq_ok hpos hok
    obtain ⟨o₂, hr₂, hrec₂, hwin₂, hwarn₂⟩ := h₂.eq_ok hpos hok
    exact ⟨o₁, o₂, hr₁, hr₂, hrec₁.trans hrec₂.symm, hwin₁.trans hwin₂.symm,
      hwarn₁.trans hwarn₂.symm⟩
  · rintro ⟨w, e, hw, he⟩ c r h
    cases h with
    | refused h => simp [Settings.check, Nat.ne_of_gt hpos] at h
    | @ended r _ hr =>
        cases r with
        | error e' =>
            obtain ⟨v, hv, hve⟩ := hr.inTree_of_error
            exact ⟨v, e', hv, hve, rfl⟩
        | ok p =>
            obtain ⟨records, ha⟩ := hr.neverFails w hw
            cases he.symm.trans ha
  · intro c
    have total : ∀ q, ∃ a, Answers.ofFunction answer q a := fun q => ⟨answer q, rfl⟩
    refine ⟨wellFounded_step _ _, fun p _ => ?_⟩
    exact exists_run _ total p

/-! ### Four nanoseconds -/

/-- A flow first seen at the given nanosecond of 1970. -/
def flowAt (n : Nat) : FlowRecord where
  src := ⟨"10.0.0.1", none⟩
  dst := ⟨"10.0.0.2", none⟩
  service := ⟨443, 6⟩
  verdict := .allowed
  firstSeen := .ofNanos n
  lastSeen := .ofNanos n
  connections := 1

/-- A query for all flows of the first four nanoseconds of 1970, with at most two to an answer. -/
def fourNanos : FlowQuery where
  window := ⟨.ofNanos 0, .ofNanos 4, by decide⟩
  verdicts := ⟨true, true, true⟩
  group := none
  excluded := []
  maxRecords := 2
  maxRecords_pos := by decide
  verdicts_nonempty := rfl

/-- A flow in each nanosecond, with answers cut at the limit of the query. -/
def onePerNano (q : FlowQuery) : Except FlowError (List FlowRecord) :=
  .ok ((([0, 1, 2, 3].map flowAt).filter q.admits).take q.maxRecords)

/-- The same flows, from a source that fails for windows that start after the first nanosecond. -/
def failsLater (q : FlowQuery) : Except FlowError (List FlowRecord) :=
  if .ofNanos 0 < q.start then .error (.sourceFailure "late") else onePerNano q

/-- With up to one and up to three queries in flight the four flows come out the same, and the
failure of the second half is the failure of the fetch. -/
theorem fetches_fourNanos :
    (∃ o₁ o₂, Fetches (.ofFunction onePerNano) ⟨2, 0⟩ fourNanos (.ok o₁) ∧
      Fetches (.ofFunction onePerNano) ⟨2, 3⟩ fourNanos (.ok o₂) ∧
      o₁.records = o₂.records ∧ o₁.windows = o₂.windows ∧ o₁.truncated.Perm o₂.truncated) ∧
    ∃ e, Fetches (.ofFunction failsLater) ⟨2, 3⟩ fourNanos (.error e) := by
  constructor
  · obtain ⟨r₁, h₁⟩ := exists_fetches onePerNano ⟨2, 0⟩ fourNanos
    obtain ⟨r₂, h₂⟩ := exists_fetches onePerNano ⟨2, 3⟩ fourNanos
    have hok : NeverFails onePerNano 2 fourNanos := fun w _ => ⟨_, rfl⟩
    obtain ⟨same, -, -⟩ :=
      fetches_schedule_independent onePerNano fourNanos (show 0 < 2 by decide)
    obtain ⟨o₁, o₂, rfl, rfl, hsame⟩ := same hok 0 3 r₁ r₂ h₁ h₂
    exact ⟨o₁, o₂, h₁, h₂, hsame⟩
  · obtain ⟨r, h⟩ := exists_fetches failsLater ⟨2, 3⟩ fourNanos
    let late : FlowQuery := fourNanos.withWindow ⟨.ofNanos 2, .ofNanos 4, by decide⟩
    have hlate : InTree failsLater 2 fourNanos late :=
      .single (half_right rfl (by decide) rfl)
    obtain ⟨-, fails, -⟩ :=
      fetches_schedule_independent failsLater fourNanos (show 0 < 2 by decide)
    obtain ⟨w, e, -, -, rfl⟩ := fails ⟨late, _, hlate, rfl⟩ 3 r h
    exact ⟨e, h⟩

end TrafficDigest.Fetch
