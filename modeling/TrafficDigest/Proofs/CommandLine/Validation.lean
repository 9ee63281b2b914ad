import TrafficDigest.Proofs.CommandLine.Output

/-!
# What bad input leads to

Input is bad if it can be refused without knowing any label (`BadInput`): a date or the list of
services cannot be read, the settings are out of range, or the intent gives no queries whatever the
labels are.  A command with bad input always fails.  Whether it fails before anything is sent
depends on what is wrong (`bad_input_sends_iff`): dates in the wrong order and an empty choice of
verdicts are found only when queries are made, which is after the labels were asked for.

* `Intent.hopeless_iff` — an intent gives no queries whatever the labels are exactly if the query
  without the group cannot be made.
* `sends_dates_reversed` — a run with bad input in which something is sent.
-/

namespace TrafficDigest

/-! ## Intents that give no queries -/

lemma FlowQuery.make_eq_error_iff {start stop : Instant} {verdicts : VerdictSet}
    {maxRecords : Nat} :
    (∃ e, FlowQuery.make start stop verdicts maxRecords = .error e) ↔
      ¬start < stop ∨ maxRecords = 0 ∨ verdicts.isEmpty = true := by
  unfold FlowQuery.make
  by_cases hrange : start < stop
  · by_cases hmax : 0 < maxRecords
    · by_cases hverdicts : verdicts.isEmpty = false
      · simp [hrange, hmax, hverdicts, Nat.ne_of_gt hmax]
      · simp [hrange, hmax, hverdicts]
    · simp [hrange, Nat.eq_zero_of_not_pos hmax]
  · simp [hrange]

/-- Every group is in some directory. -/
lemma LabelDirectory.exists_findGroup (name : String) :
    ∃ labels : LabelDirectory, labels.findGroup? name = some "" := by
  refine ⟨.ofList [⟨"", appKey, name⟩], ?_⟩
  simp [findGroup?, find?, get?, ofList]

namespace Intent

/-- The intent gives no queries, whatever the labels are. -/
def Hopeless (i : Intent) : Prop := ∀ labels, ∃ e, i.queries labels = .error e

lemma hopeless_iff {i : Intent} : i.Hopeless ↔ ∃ e, i.baseQuery = .error e := by
  constructor
  · intro h
    cases hbase : i.baseQuery with
    | error e => exact ⟨e, rfl⟩
    | ok base =>
        cases hname : i.groupName? with
        | none =>
            obtain ⟨e, he⟩ := h (.ofList [])
            simp only [queries, hbase, hname] at he
            cases he
        | some name =>
            obtain ⟨labels, hlabels⟩ := LabelDirectory.exists_findGroup name
            obtain ⟨e, he⟩ := h labels
            simp only [queries, hbase, hname, hlabels, bind, Except.bind] at he
            cases he
  · rintro ⟨e, he⟩ labels
    refine ⟨e, ?_⟩
    rw [queries, he]
    rfl

/-- The dates are in the wrong order, or no verdict is wanted. -/
def AsksNothing (i : Intent) : Prop :=
  i.verdicts.isEmpty = true ∨
    ∃ start stop, parseDate i.start = .ok start ∧ parseDate i.stop = .ok stop ∧ ¬start < stop

/-- **When an intent with dates and room for records is hopeless.** -/
lemma hopeless_iff_asksNothing {i : Intent} {start stop : Instant}
    (hstart : parseDate i.start = .ok start) (hstop : parseDate i.stop = .ok stop)
    (hmax : 0 < i.maxRecords) : i.Hopeless ↔ i.AsksNothing := by
  have hbase : (∃ e, i.baseQuery = .error e) ↔
      ∃ e, FlowQuery.make start stop i.verdicts i.maxRecords = .error e := by
    simp only [baseQuery, hstart, hstop]
    change (∃ e, (FlowQuery.make start stop i.verdicts i.maxRecords >>= _) = _) ↔ _
    cases FlowQuery.make start stop i.verdicts i.maxRecords with
    | error e => rfl
    | ok q => exact iff_of_false (by rintro ⟨e, ⟨⟩⟩) (by rintro ⟨e, ⟨⟩⟩)
  rw [hopeless_iff, hbase, FlowQuery.make_eq_error_iff]
  constructor
  · rintro (hrange | hzero | hverdicts)
    · exact Or.inr ⟨start, stop, hstart, hstop, hrange⟩
    · omega
    · exact Or.inl hverdicts
  · rintro (hverdicts | ⟨start', stop', hstart', hstop', hrange⟩)
    · exact Or.inr (Or.inr hverdicts)
    · cases hstart.symm.trans hstart'
      cases hstop.symm.trans hstop'
      exact Or.inl hrange

end Intent

namespace CommandLine

open Http (Reply Session)
open Pce (Asks)

variable {a : Arguments} {around : Surroundings} {files : FileSystem}

/-! ## What the checks find -/

lemma exists_ok_of_discard {ε α : Type} {x : Except ε α} {u : PUnit}
    (h : discard x = .ok u) : ∃ y, x = .ok y := by
  cases x with
  | error e => cases h
  | ok y => exact ⟨y, rfl⟩

/-- An intent has dates that can be read. -/
lemma of_intent {today : Date} {i : Intent} (h : a.intent files today = .ok i) :
    (∃ start, parseDate i.start = .ok start) ∧ (∃ stop, parseDate i.stop = .ok stop) ∧
      i.maxRecords = a.maxRecords := by
  unfold Arguments.intent at h
  obtain ⟨_, hstart, h⟩ := exists_ok_of_bind h
  obtain ⟨_, hstop, h⟩ := exists_ok_of_bind h
  have hfields : i.start = a.start.getD (Instant.dateText (defaultStart today)) ∧
      i.stop = a.stop.getD (Instant.dateText (defaultStop today)) ∧
      i.maxRecords = a.maxRecords := by
    split at h
    · cases h
      exact ⟨rfl, rfl, rfl⟩
    · obtain ⟨excluded, -, h⟩ := exists_ok_of_bind h
      cases h
      exact ⟨rfl, rfl, rfl⟩
  rw [hfields.1, hfields.2.1]
  exact ⟨exists_ok_of_discard hstart, exists_ok_of_discard hstop, hfields.2.2⟩

lemma maxRecords_pos {s : Fetch.Settings} (h : a.settings = .ok s) : 0 < a.maxRecords := by
  unfold Arguments.settings at h
  obtain ⟨_, hcheck, -⟩ := exists_ok_of_bind h
  unfold Fetch.Settings.check at hcheck
  split at hcheck
  · cases hcheck
  next hthreshold =>
    have : min a.threshold a.maxRecords ≠ 0 := hthreshold
    omega

/-- What passed the checks is hopeless only if it asks for nothing. -/
lemma Validated.hopeless_iff {c : Checked} (h : Validated a around files c) :
    c.intent.Hopeless ↔ c.intent.AsksNothing := by
  obtain ⟨⟨start, hstart⟩, ⟨stop, hstop⟩, hmax⟩ := of_intent h.intent
  exact Intent.hopeless_iff_asksNothing hstart hstop (hmax.symm ▸ maxRecords_pos h.settings)

/-! ## Bad input -/

/-- **Bad input:** it can be refused without knowing any label. -/
inductive BadInput (a : Arguments) (around : Surroundings) (files : FileSystem) : Prop
  /-- A date or the list of services cannot be read. -/
  | intent {e : FlowError} (h : a.intent files around.today = .error e)
  | settings {e : FlowError} (h : a.settings = .error e)
  | queries {i : Intent} (h : a.intent files around.today = .ok i) (hopeless : i.Hopeless)

/-- Bad input that passes the checks is hopeless. -/
lemma BadInput.hopeless {c : Checked} (hbad : BadInput a around files)
    (h : Validated a around files c) : c.intent.Hopeless := by
  cases hbad with
  | intent herror => cases herror.symm.trans h.intent
  | settings herror => cases herror.symm.trans h.settings
  | queries hintent hopeless =>
      cases hintent.symm.trans h.intent
      exact hopeless

lemma BadInput.not_loads {session session' : Session} {l : Loaded}
    (hbad : BadInput a around files) : ¬Loads a around files session l session' := by
  intro h
  obtain ⟨e, he⟩ := hbad.hopeless h.valid l.labels
  cases he.symm.trans h.queries

/-- In a session in which nothing was sent before, something was sent. -/
lemma log_ne_of_asks {replies : List Reply} {session : Session} (h : Asks { replies } session) :
    session.log ≠ #[] := by
  obtain ⟨xs, hcourse, hne, -⟩ := h
  intro hlog
  have hsent := hcourse.log_eq
  rw [hlog] at hsent
  exact hne (by simpa using hsent.symm)

/-- **A command with bad input** is refused by the checks, or fails while it loads. -/
lemma Runs.of_badInput {r : Except RunError Unit} {replies : List Reply} {session : Session}
    {files' : FileSystem} (hbad : BadInput a around files)
    (h : Runs a around { session := { replies }, files := files } r session files') :
    (∃ e, r = .error e) ∧ (∀ sent ∈ session.log, sent.request.method = .get) ∧
      (session.log ≠ #[] ↔ ∃ c, Validated a around files c) := by
  cases h with
  | refused hnone => exact ⟨⟨_, rfl⟩, by simp, by simpa using hnone⟩
  | unloaded hvalid _ hasks =>
      exact ⟨⟨_, rfl⟩, get_of_asks hasks, iff_of_true (log_ne_of_asks hasks) ⟨_, hvalid⟩⟩
  | unfetched hloads => exact absurd hloads hbad.not_loads
  | fetched hloads => exact absurd hloads hbad.not_loads

/-- **What comes of bad input.**  The command fails, and nothing is posted.  Something is sent
exactly if everything passes the checks, the configuration included, although the dates are in the
wrong order or no verdict is wanted. -/
theorem bad_input_sends_iff {a : Arguments} {around : Surroundings} {files : FileSystem}
    (hbad : BadInput a around files) (replies : List Reply) :
    (∃ e, (runWith a around replies files).1 = .error e) ∧
    (∀ sent ∈ (runWith a around replies files).2.session.log, sent.request.method = .get) ∧
    ((runWith a around replies files).2.session.log ≠ #[] ↔
      ∃ c, Validated a around files c ∧ c.intent.AsksNothing) := by
  obtain ⟨herror, hget, hsent⟩ := (runWith_runs a around replies files).of_badInput hbad
  refine ⟨herror, hget, hsent.trans ⟨?_, ?_⟩⟩
  · rintro ⟨c, hc⟩
    exact ⟨c, hc, hc.hopeless_iff.mp (hbad.hopeless hc)⟩
  · rintro ⟨c, hc, -⟩
    exact ⟨c, hc⟩

/-- **A run with bad input in which something is sent:** the dates are in the wrong order. -/
theorem sends_dates_reversed :
    BadInput (summaryCommand "2024-02-01" "2024-01-01") noVariables configOnly ∧
      (runWith (summaryCommand "2024-02-01" "2024-01-01") noVariables [Pce.success [] "[]"]
        configOnly).2.session.log ≠ #[] := by
  have hstart : parseDate "2024-02-01" = .ok (Pce.hourOf2024 (31 * 24)) := by decide +kernel
  have hstop : parseDate "2024-01-01" = .ok (Pce.hourOf2024 0) := by decide +kernel
  have hvalid := validated_summaryCommand hstart hstop
  have hbad : BadInput (summaryCommand "2024-02-01" "2024-01-01") noVariables configOnly := by
    refine .queries hvalid.intent (hvalid.hopeless_iff.mpr (Or.inr ?_))
    exact ⟨_, _, hstart, hstop, by decide⟩
  exact ⟨hbad, ((runWith_runs _ _ _ _).of_badInput hbad).2.2.mpr ⟨_, hvalid⟩⟩

/-- A date that is not on the calendar is found before anything is sent. -/
theorem sends_nothing_malformedDate :
    (runWith (summaryCommand "2024-02-30" "2024-03-01") noVariables [] configOnly).2.session.log
      = #[] := by
  have hdate : parseDate "2024-02-30" = .error (.invalidDate "2024-02-30") := by decide +kernel
  have hintent : (summaryCommand "2024-02-30" "2024-03-01").intent configOnly noVariables.today
      = .error (.invalidDate "2024-02-30") := by
    simp only [Arguments.intent, summaryCommand, Option.getD_some, hdate]
    rfl
  obtain ⟨-, -, hsent⟩ := bad_input_sends_iff (.intent hintent) []
  by_contra hne
  obtain ⟨c, hc, -⟩ := hsent.mp hne
  cases hintent.symm.trans hc.intent

end CommandLine

end TrafficDigest
