import Mathlib.Tactic.Lemma
import Mathlib.Tactic.Common
import Mathlib.Data.List.Perm.Basic
import TrafficDigest.Fetch.History

/-!
# What an answer does to a fetch

The queries *in play* are those in flight and those that wait.  Up to their order, sending does not
change them, and an answer does one of two things to them: the answered query gives way to its two
halves, or it becomes a leaf, with a warning if the answer reached the threshold.  `Settles` says so
once, and `Step.settles` that every step of every schedule is of this kind; nothing else about a
step is used below.

Three consequences hold for all sources and all schedules.

* `wellFounded_step` — no schedule goes on forever, because an answer lowers `Progress.work`.
* `exists_run` — from every state a fetch can be brought to an end.
* `truncated_eq` — the warnings are exactly the leaves that reached the threshold, in the order in
  which they came.
-/

namespace TrafficDigest.Fetch

/-! ## Queries in play -/

namespace Progress

/-- The queries that were asked for and have no answer yet, sent or not. -/
def inPlay (p : Progress) : List FlowQuery := p.inFlight ++ p.pending

@[simp] lemma inPlay_start (q : FlowQuery) : (start q).inPlay = [q] := rfl

@[simp] lemma inPlay_fill (limit : Nat) (p : Progress) : (p.fill limit).inPlay = p.inPlay := by
  simp [inPlay, fill]

end Progress

lemma Settings.limit_pos (s : Settings) : 0 < s.limit := by
  simp only [Settings.limit]
  omega

/-- Nothing is in play once nothing is in flight after sending. -/
lemma inPlay_eq_nil {settings : Settings} {p : Progress}
    (h : (p.fill settings.limit).inFlight = []) : p.inPlay = [] := by
  have hlimit := settings.limit_pos
  simp only [Progress.fill, List.append_eq_nil_iff, List.take_eq_nil_iff] at h
  obtain ⟨hf, hp⟩ := h
  simp only [hf, List.length_nil, Nat.sub_zero] at hp
  rcases hp with hp | hp
  · omega
  · simp [Progress.inPlay, hf, hp]

lemma Takes.inPlay_perm {settings : Settings} {p rest : Progress} {q : FlowQuery}
    (h : Takes settings p q rest) : p.inPlay.Perm (q :: rest.inPlay) := by
  obtain ⟨h⟩ := h
  rw [← Progress.inPlay_fill settings.limit p]
  simp only [Progress.inPlay, h, List.append_assoc, List.cons_append]
  exact List.perm_middle

lemma Takes.mem_inPlay {settings : Settings} {p rest : Progress} {q : FlowQuery}
    (h : Takes settings p q rest) : q ∈ p.inPlay :=
  h.inPlay_perm.mem_iff.mpr (List.mem_cons_self ..)

lemma Takes.leaves_eq {settings : Settings} {p rest : Progress} {q : FlowQuery}
    (h : Takes settings p q rest) : rest.leaves = p.leaves := by
  cases h
  rfl

lemma Takes.truncated_eq {settings : Settings} {p rest : Progress} {q : FlowQuery}
    (h : Takes settings p q rest) : rest.truncated = p.truncated := by
  cases h
  rfl

/-! ## Warnings -/

/-- The leaf's answer reached the threshold. -/
def Leaf.isFull (threshold : Nat) (l : Leaf) : Bool := threshold ≤ l.records.length

/-- The warning that a leaf gives rise to. -/
def Leaf.warning (l : Leaf) : Truncation := ⟨l.window, l.records.length⟩

/-- The warnings of a list of leaves: one for each that reached the threshold. -/
def warnings (threshold : Nat) (leaves : List Leaf) : List Truncation :=
  (leaves.filter (Leaf.isFull threshold)).map Leaf.warning

lemma warnings_append (threshold : Nat) (ls ms : List Leaf) :
    warnings threshold (ls ++ ms) = warnings threshold ls ++ warnings threshold ms := by
  simp [warnings]

lemma warnings_perm {threshold : Nat} {ls ms : List Leaf} (h : ls.Perm ms) :
    (warnings threshold ls).Perm (warnings threshold ms) :=
  (h.filter _).map _

/-! ## The two effects of an answer -/

/-- **What the answer to a query does**, with the queries in play up to their order. -/
inductive Settles (threshold : Nat) (q : FlowQuery) (records : List FlowRecord)
    (p p' : Progress) : Prop
  /-- The answer reached the threshold and the window was halved. -/
  | split {left right : FlowQuery} {others : List FlowQuery}
      (full : threshold ≤ records.length) (halves : q.split? = some (left, right))
      (before : p.inPlay.Perm (q :: others)) (after : p'.inPlay.Perm (left :: right :: others))
      (leaves : p'.leaves = p.leaves) (truncated : p'.truncated = p.truncated)
  /-- The answer stayed below the threshold or the window has no halves. -/
  | leaf {others : List FlowQuery}
      (unsplit : records.length < threshold ∨ q.split? = none)
      (before : p.inPlay.Perm (q :: others)) (after : p'.inPlay.Perm others)
      (leaves : p'.leaves = p.leaves ++ [⟨q.window, records⟩])
      (truncated : p'.truncated = p.truncated ++ warnings threshold [⟨q.window, records⟩])

lemma Takes.settles {settings : Settings} {p rest : Progress} {q : FlowQuery}
    (h : Takes settings p q rest) (records : List FlowRecord) :
    Settles settings.threshold q records p (rest.settle settings.threshold q records) := by
  have hplay := h.inPlay_perm
  have hl := h.leaves_eq
  have ht := h.truncated_eq
  by_cases hfull : settings.threshold ≤ records.length
  · have hwarn : warnings settings.threshold [⟨q.window, records⟩]
        = [⟨q.window, records.length⟩] := by
      simp [warnings, Leaf.isFull, Leaf.warning, hfull]
    cases hs : q.split? with
    | some halves =>
        obtain ⟨left, right⟩ := halves
        have hsettle : rest.settle settings.threshold q records
            = { rest with pending := rest.pending ++ [left, right] } := by
          simp [Progress.settle, hfull, hs]
        rw [hsettle]
        refine .split hfull hs hplay ?_ hl ht
        show (rest.inFlight ++ (rest.pending ++ [left, right])).Perm _
        rw [← List.append_assoc]
        exact List.perm_append_comm
    | none =>
        have hsettle : rest.settle settings.threshold q records
            = { rest with
                leaves := rest.leaves ++ [⟨q.window, records⟩]
                truncated := rest.truncated ++ [⟨q.window, records.length⟩] } := by
          simp [Progress.settle, hfull, hs]
        rw [hsettle]
        exact .leaf (Or.inr hs) hplay (List.Perm.refl _) (by rw [hl]) (by rw [ht, hwarn])
  · have hwarn : warnings settings.threshold [⟨q.window, records⟩] = [] := by
      simp [warnings, Leaf.isFull, hfull]
    have hsettle : rest.settle settings.threshold q records
        = { rest with leaves := rest.leaves ++ [⟨q.window, records⟩] } := by
      simp [Progress.settle, hfull]
    rw [hsettle]
    exact .leaf (Or.inl (by omega)) hplay (List.Perm.refl _) (by rw [hl])
      (by rw [ht, hwarn, List.append_nil])

/-- **Every step is the answer to one query in play** and has one of the two effects. -/
theorem Step.settles {answers : Answers} {settings : Settings} {p p' : Progress}
    (h : Step answers settings p p') :
    ∃ q records, answers q (.ok records) ∧ Settles settings.threshold q records p p' := by
  cases h with
  | settle hq ha => exact ⟨_, _, ha, hq.settles _⟩

lemma Settles.mem_inPlay {threshold : Nat} {q : FlowQuery} {records : List FlowRecord}
    {p p' : Progress} (h : Settles threshold q records p p') : q ∈ p.inPlay := by
  rcases h with ⟨_, _, before, _, _, _⟩ | ⟨_, before, _, _, _⟩ <;>
    exact before.mem_iff.mpr (List.mem_cons_self ..)

/-- **The warnings are those of the leaves**, in the same order, in every reachable state. -/
theorem truncated_eq {answers : Answers} {settings : Settings} {q : FlowQuery} {p : Progress}
    (h : Reachable answers settings q p) :
    p.truncated = warnings settings.threshold p.leaves := by
  induction h with
  | start => rfl
  | step _ hs ih =>
      obtain ⟨w, records, _, hs⟩ := hs.settles
      cases hs with
      | split _ _ _ _ leaves truncated => rw [truncated, leaves, ih]
      | leaf _ _ _ leaves truncated => rw [truncated, leaves, warnings_append, ih]

/-! ## Sources with more answers -/

section Mono

variable {answers answers' : Answers} {settings : Settings} {q : FlowQuery}

lemma Step.mono {p p' : Progress} (hsub : ∀ w a, answers w a → answers' w a)
    (h : Step answers settings p p') : Step answers' settings p p' := by
  cases h with
  | settle hw ha => exact .settle hw (hsub _ _ ha)

lemma Reachable.mono {p : Progress} (hsub : ∀ w a, answers w a → answers' w a)
    (h : Reachable answers settings q p) : Reachable answers' settings q p := by
  induction h with
  | start => exact .start
  | step _ hs ih => exact .step ih (hs.mono hsub)

lemma Run.mono {p : Progress} {r : Except FlowError Progress}
    (hsub : ∀ w a, answers w a → answers' w a) (h : Run answers settings p r) :
    Run answers' settings p r := by
  induction h with
  | done h => exact .done h
  | fail hw ha => exact .fail hw (hsub _ _ ha)
  | step hs _ ih => exact .step (hs.mono hsub) ih

/-- A source that may give more answers may have more outcomes. -/
lemma Fetches.mono {r : Except FlowError Outcome} (hsub : ∀ w a, answers w a → answers' w a)
    (h : Fetches answers settings q r) : Fetches answers' settings q r := by
  cases h with
  | refused h => exact .refused h
  | ended h hr => exact .ended h (hr.mono hsub)

end Mono

/-! ## Schedules come to an end -/

lemma Settles.work_lt {threshold : Nat} {q : FlowQuery} {records : List FlowRecord}
    {p p' : Progress} (h : Settles threshold q records p p') : p'.work < p.work := by
  have hq : 0 < Progress.workOf q := by
    have := q.window.span_pos
    simp only [Progress.workOf]
    omega
  have hwork : ∀ r : Progress, r.work = sumOf Progress.workOf r.inPlay := fun _ => rfl
  rw [hwork, hwork]
  cases h with
  | split _ halves before after _ _ =>
      have := Progress.workOf_split halves
      rw [sumOf, sumOf, (before.map _).sum_nat, (after.map _).sum_nat]
      simp only [List.map_cons, List.sum_cons]
      omega
  | leaf _ before after _ _ =>
      rw [sumOf, sumOf, (before.map _).sum_nat, (after.map _).sum_nat]
      simp only [List.map_cons, List.sum_cons]
      omega

/-- **No schedule goes on forever**, whatever the source answers. -/
theorem wellFounded_step (answers : Answers) (settings : Settings) :
    WellFounded fun p' p => Step answers settings p p' := by
  refine Subrelation.wf ?_ (measure Progress.work).wf
  intro p' p h
  obtain ⟨q, records, _, hs⟩ := h.settles
  exact hs.work_lt

/-- **Every state can be brought to an end** with a source that answers whatever it is asked. -/
theorem exists_run {answers : Answers} (settings : Settings)
    (total : ∀ q, ∃ answer, answers q answer) (p : Progress) :
    ∃ r, Run answers settings p r := by
  induction p using (wellFounded_step answers settings).induction with
  | _ p ih =>
      cases hf : (p.fill settings.limit).inFlight with
      | nil => exact ⟨_, .done hf⟩
      | cons q after =>
          have hq := @Takes.mk settings p [] after q hf
          obtain ⟨e | records, ha⟩ := total q
          · exact ⟨_, .fail hq ha⟩
          · have hstep := Step.settle hq ha
            obtain ⟨r, hr⟩ := ih _ hstep
            exact ⟨r, .step hstep hr⟩

/-! ## What the end of a schedule was reached from -/

/-- A run that ends without a failure ends in a reachable state with nothing in play. -/
lemma Run.of_ok {answers : Answers} {settings : Settings} {q : FlowQuery} {p p' : Progress}
    (h : Run answers settings p (.ok p')) (hp : Reachable answers settings q p) :
    p'.inPlay = [] ∧ ∃ last, Reachable answers settings q last ∧
      p'.leaves = last.leaves ∧ p'.truncated = last.truncated ∧ last.inPlay = [] := by
  generalize hr : Except.ok p' = r at h
  induction h with
  | @done p h =>
      cases hr
      have hnil := inPlay_eq_nil h
      exact ⟨by simpa using hnil, p, hp, rfl, rfl, hnil⟩
  | fail _ _ => cases hr
  | step hs _ ih => exact ih (.step hp hs) hr

/-- A run that fails does so with the answer to a query that was in play. -/
lemma Run.of_error {answers : Answers} {settings : Settings} {q : FlowQuery} {p : Progress}
    {e : FlowError} (h : Run answers settings p (.error e)) (hp : Reachable answers settings q p) :
    ∃ last w, Reachable answers settings q last ∧ w ∈ last.inPlay ∧ answers w (.error e) := by
  generalize hr : Except.error e = r at h
  induction h with
  | done _ => cases hr
  | @fail p rest w e' hq ha =>
      cases hr
      exact ⟨p, w, hp, hq.mem_inPlay, ha⟩
  | step hs _ ih => exact ih (.step hp hs) hr

end TrafficDigest.Fetch
