import Mathlib.Data.List.Flatten
import TrafficDigest.Fetch.Memory
import TrafficDigest.Proofs.Fetch.Confluence

/-!
# A fetch is complete or says where it is not

The flows that a query wants are those that it admits, whatever its limit.  A source in memory
answers with the first of them, as many as the limit lets through.

**Dealing out.**  The leaves of the split tree tile the window of the query, so the wanted flows
are dealt out to the leaves: each goes to the one leaf whose window it was first seen in
(`flatMap_wanted_perm`), and if the flows were in the order of time they still are
(`flatMap_wanted_eq`).

**Cutting.**  A leaf below the threshold has all flows that were dealt to it as long as the
threshold is not above the limit (`Capped.records_of_short`), and a leaf that reached it has a
warning.

`fetch_complete_or_warned` puts the two together.
-/

namespace TrafficDigest

/-! ## Wanted flows -/

namespace FlowQuery

/-- A flow passes the filters on verdict, group and service. -/
def passes (q : FlowQuery) (r : FlowRecord) : Bool :=
  q.verdicts.contains r.verdict && q.group.all (·.admits r) && !q.excluded.contains r.service

/-- **The flows that a query wants**, whatever its limit. -/
def wanted (q : FlowQuery) (records : List FlowRecord) : List FlowRecord := records.filter q.admits

lemma admits_eq (q : FlowQuery) (r : FlowRecord) :
    q.admits r = (q.window.contains r.firstSeen && q.passes r) := by
  simp only [admits, passes, Bool.and_assoc]

lemma wanted_eq (q : FlowQuery) (records : List FlowRecord) :
    q.wanted records
      = (records.filter q.passes).filter fun r => q.window.contains r.firstSeen := by
  rw [wanted, List.filter_filter]
  exact List.filter_congr fun r _ => q.admits_eq r

lemma wanted_withWindow (q : FlowQuery) (w : Window) (records : List FlowRecord) :
    (q.withWindow w).wanted records
      = (records.filter q.passes).filter fun r => w.contains r.firstSeen :=
  wanted_eq (q.withWindow w) records

end FlowQuery

/-! ## Dealing flows out to the windows of a tiling -/

namespace Window

/-- Cutting an interval in two cuts its flows in two. -/
lemma filter_cut (records : List FlowRecord) {a m b : Instant} (ham : a ≤ m) (hmb : m ≤ b) :
    let inside := records.filter fun r => a ≤ r.firstSeen && r.firstSeen < b
    (records.filter fun r => a ≤ r.firstSeen && r.firstSeen < m)
        = inside.filter (fun r => r.firstSeen < m) ∧
      (records.filter fun r => m ≤ r.firstSeen && r.firstSeen < b)
        = inside.filter (fun r => !(r.firstSeen < m)) := by
  simp only [List.filter_filter]
  constructor <;> refine List.filter_congr fun r _ => ?_
  all_goals
    rw [Bool.eq_iff_iff]
    simp only [Bool.and_eq_true, Bool.not_eq_true', decide_eq_true_eq, decide_eq_false_iff_not,
      Instant.le_iff, Instant.lt_iff] at *
    omega

/-- **Flows dealt out to the windows of a tiling** whose bounds are moved, in their order, are those
between its moved ends. -/
lemma Tiles.flatMap_filter_moved_perm (records : List FlowRecord) (move : Instant → Instant)
    (hmove : ∀ {a b : Instant}, a ≤ b → move a ≤ move b) :
    ∀ {ws : List Window} {a b : Instant}, Tiles a ws b →
      (ws.flatMap fun w => records.filter fun r =>
          move w.start ≤ r.firstSeen && r.firstSeen < move w.stop).Perm
        (records.filter fun r => move a ≤ r.firstSeen && r.firstSeen < move b)
  | [], a, b, h => by
      cases h
      have hnone : (records.filter fun r => move a ≤ r.firstSeen && r.firstSeen < move a)
          = [] := by
        simp [List.filter_eq_nil_iff, Instant.not_lt]
      rw [hnone]
      exact .refl _
  | w :: ws, a, b, h => by
      obtain ⟨rfl, hws⟩ := h
      have hw := hmove (Instant.le_of_lt w.start_lt_stop)
      obtain ⟨hhead, htail⟩ := filter_cut records hw (hmove hws.le)
      rw [List.flatMap_cons, hhead]
      refine (List.Perm.append_left _
        (Tiles.flatMap_filter_moved_perm records move hmove hws)).trans ?_
      rw [htail]
      exact List.filter_append_perm _ _

/-- Flows dealt out to the windows of a tiling are those between its ends. -/
lemma Tiles.flatMap_filter_perm (records : List FlowRecord) {ws : List Window} {a b : Instant}
    (h : Tiles a ws b) :
    (ws.flatMap fun w => records.filter fun r => w.contains r.firstSeen).Perm
      (records.filter fun r => a ≤ r.firstSeen && r.firstSeen < b) :=
  h.flatMap_filter_moved_perm records id fun hab => hab

/-- In the order of time, what comes before an instant stands before what comes after it. -/
lemma filter_append_of_sorted {records : List FlowRecord}
    (h : records.Pairwise fun r s => r.firstSeen ≤ s.firstSeen) (m : Instant) :
    (records.filter fun r => r.firstSeen < m) ++ (records.filter fun r => !(r.firstSeen < m))
      = records := by
  induction records with
  | nil => rfl
  | cons r rs ih =>
      obtain ⟨hr, hrs⟩ := List.pairwise_cons.mp h
      by_cases hm : r.firstSeen < m
      · simpa [hm] using ih hrs
      -- from `r` on nothing comes before `m`
      have hlate : ∀ s ∈ r :: rs, ¬s.firstSeen < m := by
        intro s hs hsm
        rcases List.mem_cons.mp hs with rfl | hs
        · exact hm hsm
        · exact hm (Instant.lt_of_le_of_lt (hr s hs) hsm)
      have hnone : ((r :: rs).filter fun r => r.firstSeen < m) = [] := by
        simpa [List.filter_eq_nil_iff] using hlate
      have hall : ((r :: rs).filter fun r => !(r.firstSeen < m)) = r :: rs := by
        simpa [List.filter_eq_self] using hlate
      rw [hnone, hall, List.nil_append]

/-- Flows in the order of time are dealt out in that order. -/
lemma Tiles.flatMap_filter_eq {records : List FlowRecord}
    (hsorted : records.Pairwise fun r s => r.firstSeen ≤ s.firstSeen) :
    ∀ {ws : List Window} {a b : Instant}, Tiles a ws b →
      (ws.flatMap fun w => records.filter fun r => w.contains r.firstSeen)
        = records.filter fun r => a ≤ r.firstSeen && r.firstSeen < b
  | [], a, b, h => (Tiles.flatMap_filter_perm records h).nil_eq
  | w :: ws, a, b, h => by
      obtain ⟨rfl, hws⟩ := h
      have hw := Instant.le_of_lt w.start_lt_stop
      obtain ⟨hhead, htail⟩ := filter_cut records hw hws.le
      rw [List.flatMap_cons, Tiles.flatMap_filter_eq hsorted hws, htail]
      refine (congrArg (· ++ _) hhead).trans ?_
      exact filter_append_of_sorted (hsorted.filter _) _

end Window

namespace Fetch

/-! ## Answers that are cut at a limit -/

section Capped

variable {answer : FlowQuery → Except FlowError (List FlowRecord)} {threshold : Nat}
  {q : FlowQuery} {want : Window → List FlowRecord}

/-- **Every query of the tree is answered with the first flows that are wanted in its window**, as
many as the limit lets through. -/
def Capped (answer : FlowQuery → Except FlowError (List FlowRecord)) (threshold : Nat)
    (q : FlowQuery) (want : Window → List FlowRecord) : Prop :=
  ∀ w, InTree answer threshold q w → answer w = .ok ((want w.window).take q.maxRecords)

lemma Capped.neverFails (h : Capped answer threshold q want) : NeverFails answer threshold q :=
  fun w hw => ⟨_, h w hw⟩

/-- A leaf is a query of the tree and has its answer. -/
lemma answer_of_mem_leavesOf (h : NeverFails answer threshold q) :
    ∀ l ∈ leavesOf answer threshold q, InTree answer threshold q (q.withWindow l.window) ∧
      answer (q.withWindow l.window) = .ok l.records := by
  refine h.induction (P := fun q =>
    ∀ l ∈ leavesOf answer threshold q, InTree answer threshold q (q.withWindow l.window) ∧
      answer (q.withWindow l.window) = .ok l.records) ?_ ?_
  · intro w records ha hleaf l hl
    rw [leavesOf_leaf ha hleaf, List.mem_singleton] at hl
    rw [hl]
    exact ⟨.refl, ha⟩
  · intro w left right records ha hfull hs hl hr l hmem
    rw [leavesOf_split ha hfull hs] at hmem
    have hleft := half_left ha hfull hs
    have hright := half_right ha hfull hs
    obtain ⟨u, v, -, rfl, rfl⟩ := FlowQuery.split?_eq_some.mp hs
    rcases List.mem_append.mp hmem with hmem | hmem
    · exact (hl l hmem).imp_left (.head hleft)
    · exact (hr l hmem).imp_left (.head hright)

lemma Capped.records_of_mem (h : Capped answer threshold q want) {l : Leaf}
    (hl : l ∈ leavesOf answer threshold q) : l.records = (want l.window).take q.maxRecords := by
  obtain ⟨htree, ha⟩ := answer_of_mem_leavesOf h.neverFails l hl
  exact Except.ok.inj (ha.symm.trans (h _ htree))

/-- **A leaf below the threshold has all flows that are wanted in its window**, because an answer
that was cut has as many as the limit lets through. -/
lemma Capped.records_of_short (h : Capped answer threshold q want) (hcap : threshold ≤ q.maxRecords)
    {l : Leaf} (hl : l ∈ leavesOf answer threshold q) (hshort : l.records.length < threshold) :
    l.records = want l.window := by
  have hrec := h.records_of_mem hl
  have hlen := congrArg List.length hrec
  rw [List.length_take] at hlen
  rw [hrec]
  exact List.take_of_length_le (by omega)

/-- **A fetch with answers that are cut succeeds**, and without a warning its records are those that
are wanted in the windows of the leaves. -/
lemma Fetches.of_capped {settings : Settings} {r : Except FlowError Outcome}
    (hpos : 0 < settings.threshold) (hcap : settings.threshold ≤ q.maxRecords)
    (hcut : Capped answer settings.threshold q want)
    (h : Fetches (.ofFunction answer) settings q r) :
    ∃ o, r = .ok o ∧
      o.records = (leavesOf answer settings.threshold q).flatMap (·.records) ∧
      o.truncated.Perm (warnings settings.threshold (leavesOf answer settings.threshold q)) ∧
      (o.truncated = [] → o.records
        = ((leavesOf answer settings.threshold q).map (·.window)).flatMap want) := by
  obtain ⟨o, rfl, hrec, -, hwarn⟩ := h.eq_ok hpos hcut.neverFails
  refine ⟨o, rfl, hrec, hwarn, fun hnone => ?_⟩
  rw [hnone] at hwarn
  have hshort := List.nil_perm.mp hwarn
  rw [warnings, List.map_eq_nil_iff, List.filter_eq_nil_iff] at hshort
  rw [hrec, List.flatMap_map]
  refine List.flatMap_congr fun l hl => hcut.records_of_short hcap hl ?_
  simpa [Leaf.isFull] using hshort l hl

end Capped

/-! ## The source in memory -/

/-- What a source in memory answers when no call fails. -/
def fromMemory (records : List FlowRecord) (q : FlowQuery) :
    Except FlowError (List FlowRecord) :=
  .ok ((q.wanted records).take q.maxRecords)

/-- Without failing calls the answers of a source in memory depend on the query alone. -/
lemma answers_memory (records : List FlowRecord) :
    Answers.ofSource (FlowStore.source ⟨records, []⟩) = .ofFunction (fromMemory records) := by
  funext q a
  apply propext
  constructor
  · rintro ⟨calls, rfl⟩
    rfl
  · intro h
    exact ⟨#[], h.symm⟩

/-- The leaves of the split tree of a source in memory. -/
abbrev leavesFrom (records : List FlowRecord) (threshold : Nat) (q : FlowQuery) : List Leaf :=
  leavesOf (fromMemory records) threshold q

/-- The wanted flows that are dealt to a leaf. -/
def Leaf.dealt (q : FlowQuery) (records : List FlowRecord) (l : Leaf) : List FlowRecord :=
  (q.withWindow l.window).wanted records

/-- A source in memory cuts its answers. -/
lemma capped_fromMemory (records : List FlowRecord) (threshold : Nat) (q : FlowQuery) :
    Capped (fromMemory records) threshold q fun w => (q.withWindow w).wanted records := by
  intro w hw
  have hq : w = q.withWindow w.window := hw.of_passes (passesToHalves_eq_withWindow q) rfl
  rw [fromMemory, hq]
  rfl

variable {records : List FlowRecord} {threshold : Nat} {q : FlowQuery}

/-! ## The flows of the leaves -/

lemma records_of_mem_leavesOf {l : Leaf} (h : l ∈ leavesFrom records threshold q) :
    l.records = (l.dealt q records).take q.maxRecords :=
  (capped_fromMemory records threshold q).records_of_mem h

lemma records_of_short (hcap : threshold ≤ q.maxRecords) {l : Leaf}
    (h : l ∈ leavesFrom records threshold q) (hshort : l.records.length < threshold) :
    l.records = l.dealt q records :=
  (capped_fromMemory records threshold q).records_of_short hcap h hshort

lemma flatMap_wanted (records : List FlowRecord) (threshold : Nat) (q : FlowQuery) :
    ((leavesFrom records threshold q).flatMap fun l => l.dealt q records)
      = ((leavesFrom records threshold q).map (·.window)).flatMap
          fun w => (records.filter q.passes).filter fun r => w.contains r.firstSeen := by
  simp only [List.flatMap_map, Leaf.dealt, FlowQuery.wanted_withWindow]

/-- Every wanted flow is dealt to one leaf. -/
lemma flatMap_wanted_perm (records : List FlowRecord) (threshold : Nat) (q : FlowQuery) :
    ((leavesFrom records threshold q).flatMap fun l => l.dealt q records).Perm
      (q.wanted records) := by
  have htiles := tiles_leavesOf (capped_fromMemory records threshold q).neverFails
  rw [flatMap_wanted, FlowQuery.wanted_eq]
  exact htiles.flatMap_filter_perm _

lemma flatMap_wanted_eq (hsorted : records.Pairwise fun r s => r.firstSeen ≤ s.firstSeen)
    (threshold : Nat) (q : FlowQuery) :
    ((leavesFrom records threshold q).flatMap fun l => l.dealt q records)
      = q.wanted records := by
  have htiles := tiles_leavesOf (capped_fromMemory records threshold q).neverFails
  rw [flatMap_wanted, FlowQuery.wanted_eq]
  exact htiles.flatMap_filter_eq (hsorted.filter q.passes)

/-- A wanted flow that the leaves do not have was dealt to a leaf with a warning. -/
lemma exists_warning (hcap : threshold ≤ q.maxRecords) {x : FlowRecord}
    (h : ((leavesFrom records threshold q).flatMap (·.records)).count x
      < (q.wanted records).count x) :
    ∃ t ∈ warnings threshold (leavesFrom records threshold q),
      t.window.contains x.firstSeen = true := by
  by_contra hnone
  -- then every leaf has the flow as often as it was dealt to it
  have hsame : ∀ l ∈ leavesFrom records threshold q,
      l.records.count x = (l.dealt q records).count x := by
    intro l hl
    by_cases hshort : l.records.length < threshold
    · rw [records_of_short hcap hl hshort]
    have hwarn : l.warning ∈ warnings threshold (leavesFrom records threshold q) := by
      refine List.mem_map_of_mem (List.mem_filter.mpr ⟨hl, ?_⟩)
      simpa [Leaf.isFull] using hshort
    have hout : ¬l.window.contains x.firstSeen = true := fun hin => hnone ⟨_, hwarn, hin⟩
    have hmem : x ∉ l.dealt q records := by
      intro hx
      rw [Leaf.dealt, FlowQuery.wanted_withWindow] at hx
      exact hout (List.mem_filter.mp hx).2
    have hmem' : x ∉ l.records := by
      rw [records_of_mem_leavesOf hl]
      exact fun hx => hmem (List.mem_of_mem_take hx)
    rw [List.count_eq_zero_of_not_mem hmem, List.count_eq_zero_of_not_mem hmem']
  have hsum := congrArg List.sum (List.map_congr_left hsame)
  rw [← (flatMap_wanted_perm records threshold q).count_eq, List.count_flatMap,
    List.count_flatMap] at h
  exact absurd hsum (Nat.ne_of_lt h)

/-- **A fetch from memory succeeds**, and without a warning its records are those that were dealt
to the leaves. -/
lemma Fetches.of_memory {settings : Settings} {r : Except FlowError Outcome}
    (hpos : 0 < settings.threshold) (hcap : settings.threshold ≤ q.maxRecords)
    (h : Fetches (Answers.ofSource (FlowStore.source ⟨records, []⟩)) settings q r) :
    ∃ o, r = .ok o ∧
      o.records = (leavesFrom records settings.threshold q).flatMap (·.records) ∧
      o.truncated.Perm
        (warnings settings.threshold (leavesFrom records settings.threshold q)) ∧
      (o.truncated = [] → o.records
        = (leavesFrom records settings.threshold q).flatMap fun l => l.dealt q records) := by
  rw [answers_memory] at h
  obtain ⟨o, rfl, hrec, hwarn, hwhole⟩ := h.of_capped hpos hcap (capped_fromMemory records _ q)
  refine ⟨o, rfl, hrec, hwarn, fun hnone => (hwhole hnone).trans ?_⟩
  rw [List.flatMap_map]
  rfl

lemma exists_fetches_memory (records : List FlowRecord) (settings : Settings) (q : FlowQuery) :
    ∃ r, Fetches (Answers.ofSource (FlowStore.source ⟨records, []⟩)) settings q r := by
  rw [answers_memory]
  exact exists_fetches _ _ _

/-! ## Completeness -/

/-- **A fetch from memory is complete or says where it is not**, under every schedule and with any
number of queries in flight.  It comes to an end and succeeds; it has no flow twice and none that
was not wanted; a flow that is missing was first seen in a window with a warning.  Without a
warning it has exactly the wanted flows, in their order if they were in the order of time. -/
theorem fetch_complete_or_warned (records : List FlowRecord) (q : FlowQuery) {settings : Settings}
    (hpos : 0 < settings.threshold) (hcap : settings.threshold ≤ q.maxRecords) :
    let answers := Answers.ofSource (FlowStore.source ⟨records, []⟩)
    (∃ r, Fetches answers settings q r) ∧
    (WellFounded fun p' p => Step answers settings p p') ∧
    (∀ p, Reachable answers settings q p → ∃ r, Run answers settings p r) ∧
    ∀ r, Fetches answers settings q r → ∃ o, r = .ok o ∧
      o.records.Subperm (q.wanted records) ∧
      (∀ x, o.records.count x < (q.wanted records).count x →
        ∃ t ∈ o.truncated, t.window.contains x.firstSeen = true) ∧
      (o.truncated = [] → o.records.Perm (q.wanted records) ∧
        ((records.Pairwise fun r s => r.firstSeen ≤ s.firstSeen) →
          o.records = q.wanted records)) := by
  intro answers
  have total : ∀ q, ∃ a, answers q a := fun q => ⟨_, #[], rfl⟩
  refine ⟨exists_fetches_memory _ _ _, wellFounded_step _ _, fun p _ => exists_run _ total p, ?_⟩
  intro r hr
  obtain ⟨o, rfl, hrec, hwarn, hwhole⟩ := hr.of_memory hpos hcap
  refine ⟨o, rfl, ?_, ?_, ?_⟩
  · rw [hrec]
    refine List.Subperm.trans (List.Sublist.subperm ?_)
      (flatMap_wanted_perm records settings.threshold q).subperm
    refine List.Sublist.flatMap_right _ fun l hl => ?_
    rw [records_of_mem_leavesOf hl]
    exact List.take_sublist _ _
  · intro x hx
    rw [hrec] at hx
    obtain ⟨t, ht, hin⟩ := exists_warning hcap hx
    exact ⟨t, hwarn.mem_iff.mpr ht, hin⟩
  · intro hnone
    rw [hwhole hnone]
    exact ⟨flatMap_wanted_perm records settings.threshold q,
      fun hsorted => flatMap_wanted_eq hsorted settings.threshold q⟩

/-- Four flows, at most two to an answer: a fetch ends without a warning, with all four in their
order. -/
theorem fetch_fourNanos :
    ∃ o, Fetches (Answers.ofSource (FlowStore.source ⟨[0, 1, 2, 3].map flowAt, []⟩)) ⟨2, 0⟩
        fourNanos (.ok o) ∧
      o.records.Subperm ([0, 1, 2, 3].map flowAt) ∧
      o.truncated = [] ∧ o.records = [0, 1, 2, 3].map flowAt := by
  have hwanted : fourNanos.wanted ([0, 1, 2, 3].map flowAt) = [0, 1, 2, 3].map flowAt := by decide
  have hfetches := fetches_fetch (FlowStore.source ⟨[0, 1, 2, 3].map flowAt, []⟩) ⟨2, 0⟩
    fourNanos #[]
  have hquiet : ((fetch (FlowStore.source ⟨[0, 1, 2, 3].map flowAt, []⟩) ⟨2, 0⟩
      fourNanos).run.run #[]).1.toOption.map (·.truncated) = some [] := by decide +kernel
  obtain ⟨-, -, -, all⟩ := fetch_complete_or_warned ([0, 1, 2, 3].map flowAt) fourNanos
    (show 0 < (⟨2, 0⟩ : Settings).threshold by decide) (by decide)
  obtain ⟨o, ho, hsub, -, hwhole⟩ := all _ hfetches
  rw [ho] at hfetches hquiet
  have hnone : o.truncated = [] := Option.some_inj.mp hquiet
  rw [hwanted] at hsub hwhole
  exact ⟨o, hfetches, hsub, hnone, (hwhole hnone).2 (by decide)⟩

end Fetch

end TrafficDigest
