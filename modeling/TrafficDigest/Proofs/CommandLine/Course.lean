import TrafficDigest.CommandLine.Run
import TrafficDigest.Proofs.Fetch.Summary
import TrafficDigest.Proofs.FileSystem
import TrafficDigest.Proofs.Pce.Directory
import TrafficDigest.Proofs.Run

/-!
# How a command ends

The two commands take the same course.  They check what they were asked for, load labels (the
explorer also workloads), fetch flows, and publish a report of them.  Each of the four may be the
last, and `Runs` has one case for each.

* `of_run_check`, `of_run_inSession`, `of_run_quiet` — what may have happened in one step.
* `Loads` — everything was checked, and everything was loaded in full.
* `Publishes` — what becomes of a report and of the files.
* `run_runs` — every run of a command ends in one of the four ways.
-/

namespace TrafficDigest.CommandLine

open Http (Session)
open Pce (Asks Gets asks_of_labels asks_of_workloads)

variable {ε α β : Type} {a : Arguments} {around : Surroundings} {s s' : RunState}
  {files : FileSystem} {r : Except RunError β}

/-- A command as it is run: with replies to come, and with files. -/
def runWith (a : Arguments) (around : Surroundings) (replies : List Http.Reply)
    (files : FileSystem) : Except RunError Unit × RunState :=
  (run a around).run.run { session := { replies }, files }

/-! ## Steps -/

/-- The step succeeds and changes notices only. -/
def Quiet (m : RunM α) : Prop :=
  ∀ s, ∃ y notices, m.run.run s = (.ok y, { s with notices })

lemma of_run_quiet {m : RunM α} {k : α → RunM β} (hm : Quiet m)
    (h : (m >>= k).run.run s = (r, s')) :
    ∃ y notices, (k y).run.run { s with notices } = (r, s') := by
  obtain ⟨y, notices, hrun⟩ := hm s
  rw [run_bind, hrun] at h
  exact ⟨y, notices, h⟩

lemma quiet_pure (y : α) : Quiet (pure y) := fun s => ⟨y, s.notices, rfl⟩

lemma quiet_say (n : Notice) : Quiet (say n) := fun s => ⟨(), s.notices.push n, rfl⟩

lemma Quiet.bind {m : RunM α} {k : α → RunM β} (hm : Quiet m) (hk : ∀ y, Quiet (k y)) :
    Quiet (m >>= k) := by
  intro s
  obtain ⟨y, notices, hrun⟩ := hm s
  obtain ⟨z, notices', hrun'⟩ := hk y { s with notices }
  rw [run_bind, hrun]
  exact ⟨z, notices', hrun'⟩

lemma quiet_warn (truncated : List Fetch.Truncation) : Quiet (warn truncated) := by
  induction truncated with
  | nil => exact quiet_pure ()
  | cons t truncated ih => exact (quiet_say _).bind fun _ => ih

lemma quiet_forM (path : Option String) (n : String → Notice) :
    Quiet (path.forM fun path => say (n path)) := by
  cases path with
  | none => exact quiet_pure ()
  | some path => exact quiet_say _

lemma of_run_check {wrap : ε → RunError} {e : Except ε α} {k : α → RunM β}
    (h : (check wrap e >>= k).run.run s = (r, s')) :
    (∃ x, e = .error x ∧ r = .error (wrap x) ∧ s' = s) ∨
      ∃ y, e = .ok y ∧ (k y).run.run s = (r, s') := by
  cases e with
  | error x =>
      cases h
      exact Or.inl ⟨x, rfl, rfl, rfl⟩
  | ok y => exact Or.inr ⟨y, rfl, h⟩

lemma run_inSession (wrap : ε → RunError) (m : ExceptT ε (StateM Session) α) (s : RunState) :
    (inSession wrap m).run.run s = ((m.run.run s.session).1.mapError wrap,
      { s with session := (m.run.run s.session).2 }) :=
  rfl

lemma of_run_inSession {wrap : ε → RunError} {m : ExceptT ε (StateM Session) α} {k : α → RunM β}
    (h : (inSession wrap m >>= k).run.run s = (r, s')) :
    (∃ x session, m.run.run s.session = (.error x, session) ∧ r = .error (wrap x) ∧
      s' = { s with session }) ∨
      ∃ y session, m.run.run s.session = (.ok y, session) ∧
        (k y).run.run { s with session } = (r, s') := by
  rw [run_bind, run_inSession] at h
  rcases hm : m.run.run s.session with ⟨x | y, session⟩ <;> rw [hm] at h
  · cases h
    exact Or.inl ⟨x, session, rfl, rfl, rfl⟩
  · exact Or.inr ⟨y, session, rfl, h⟩

lemma run_get (k : RunState → RunM β) (s : RunState) :
    ((get : RunM RunState) >>= k).run.run s = (k s).run.run s :=
  rfl

lemma run_set (k : PUnit → RunM β) (s s' : RunState) :
    ((set s' : RunM PUnit) >>= k).run.run s = (k ⟨⟩).run.run s' :=
  rfl

/-! ## Checks -/

/-- What is asked for is found good, and so is the configuration. -/
structure Validated (a : Arguments) (around : Surroundings) (files : FileSystem) (c : Checked) :
    Prop where
  intent : a.intent files around.today = .ok c.intent
  settings : a.settings = .ok c.settings
  config : Pce.Config.load files around.environment a.configFile = .ok c.config

lemma Validated.unique {c c' : Checked} (h : Validated a around files c)
    (h' : Validated a around files c') : c = c' := by
  obtain ⟨intent, settings, config⟩ := c
  cases h.intent.symm.trans h'.intent
  cases h.settings.symm.trans h'.settings
  cases h.config.symm.trans h'.config
  rfl

lemma of_run_checkAll {k : Checked → RunM β}
    (h : (checkAll a around >>= k).run.run s = (r, s')) :
    ((∀ c, ¬Validated a around s.files c) ∧ (∃ e, r = .error e) ∧ s' = s) ∨
      ∃ c, Validated a around s.files c ∧ (k c).run.run s = (r, s') := by
  simp only [checkAll, bind_assoc, run_get] at h
  rcases of_run_check h with ⟨x, hx, rfl, rfl⟩ | ⟨intent, hintent, h⟩
  · refine Or.inl ⟨fun c hc => ?_, ⟨_, rfl⟩, rfl⟩
    cases hx.symm.trans hc.intent
  rcases of_run_check h with ⟨x, hx, rfl, rfl⟩ | ⟨settings, hsettings, h⟩
  · refine Or.inl ⟨fun c hc => ?_, ⟨_, rfl⟩, rfl⟩
    cases hx.symm.trans hc.settings
  rcases of_run_check h with ⟨x, hx, rfl, rfl⟩ | ⟨config, hconfig, h⟩
  · refine Or.inl ⟨fun c hc => ?_, ⟨_, rfl⟩, rfl⟩
    cases hx.symm.trans hc.config
  exact Or.inr ⟨⟨intent, settings, config⟩, ⟨hintent, hsettings, hconfig⟩, h⟩

/-! ## Loading -/

/-- What a command has loaded when it starts to fetch flows. -/
structure Loaded extends Checked where
  labels : LabelDirectory
  queries : List FlowQuery
  /-- Empty unless the command needs workloads. -/
  workloads : WorkloadDirectory

/-- The labels were loaded, and none that the policy engine announced is missing. -/
structure LoadsLabels (c : Pce.Config) (session session' : Session) (labels : LabelDirectory) :
    Prop where
  run : (Pce.labels c).run.run session = (.ok labels, session')
  complete : ∃ ls v, Gets c "/labels" Pce.label.decode session session' ls v ∧
    labels.KnowsExactly ls

/-- The workloads were loaded, and none that the policy engine announced is missing. -/
structure LoadsWorkloads (c : Pce.Config) (session session' : Session)
    (workloads : WorkloadDirectory) : Prop where
  run : (Pce.workloads c).run.run session = (.ok workloads, session')
  complete : ∃ ws v, Gets c "/workloads" Pce.workload.decode session session' ws v ∧
    workloads.KnowsExactly ws

/-- **Everything was checked and loaded.**  Arguments and files were found good, labels were loaded
in full, they gave the queries, and the explorer loaded workloads in full as well. -/
structure Loads (a : Arguments) (around : Surroundings) (files : FileSystem) (session : Session)
    (l : Loaded) (session' : Session) : Prop where
  valid : Validated a around files l.toChecked
  queries : l.intent.queries l.labels = .ok l.queries
  loads : ∃ middle, LoadsLabels l.config session middle l.labels ∧
    match a.command with
    | .flowSummary => session' = middle ∧ l.workloads = .ofList []
    | .explorer => LoadsWorkloads l.config middle session' l.workloads

lemma Loads.unique {session middle middle' : Session} {l l' : Loaded}
    (h : Loads a around files session l middle) (h' : Loads a around files session l' middle') :
    l = l' ∧ middle = middle' := by
  obtain ⟨c, labels, queries, workloads⟩ := l
  obtain ⟨c', labels', queries', workloads'⟩ := l'
  cases h.valid.unique h'.valid
  obtain ⟨first, hlabels, hrest⟩ := h.loads
  obtain ⟨first', hlabels', hrest'⟩ := h'.loads
  cases hlabels.run.symm.trans hlabels'.run
  cases h.queries.symm.trans h'.queries
  cases hcommand : a.command with
  | flowSummary =>
      rw [hcommand] at hrest hrest'
      obtain rfl : workloads = workloads' := hrest.2.trans hrest'.2.symm
      exact ⟨rfl, hrest.1.trans hrest'.1.symm⟩
  | explorer =>
      rw [hcommand] at hrest hrest'
      cases hrest.run.symm.trans hrest'.run
      exact ⟨rfl, rfl⟩

lemma Loads.asks {session session' : Session} {l : Loaded}
    (h : Loads a around files session l session') : Asks session session' := by
  obtain ⟨middle, hlabels, hrest⟩ := h.loads
  have hfirst : Asks session middle := asks_of_labels hlabels.run
  cases hcommand : a.command with
  | flowSummary =>
      rw [hcommand] at hrest
      rw [hrest.1]
      exact hfirst
  | explorer =>
      rw [hcommand] at hrest
      exact hfirst.trans (asks_of_workloads hrest.run)

/-- The report of the flows that were fetched. -/
def reportOf (a : Arguments) (l : Loaded) (o : Fetch.Outcome) : Report :=
  match a.command with
  | .flowSummary => ⟨summaryHeaders,
      (Digest.ofRecords (l.labels.identity a.withLocation) o.records).summary.map (·.columns)⟩
  | .explorer => ⟨explorerHeaders,
      o.records.map fun r => (ExplorerRow.ofRecord l.labels l.workloads r).columns⟩

/-! ## Publishing -/

/-- **What becomes of a report and of the files.** -/
inductive Publishes (a : Arguments) (around : Surroundings) (report : Report)
    (files : FileSystem) : Except RunError Unit → FileSystem → Prop
  | unwritten (h : report.rows = [] ∨ a.out.writesFile = false) :
      Publishes a around report files (.ok ()) files
  | written {files' : FileSystem} (hrows : report.rows ≠ []) (hout : a.out.writesFile = true)
      (h : report.write files (a.output around) = .ok files') :
      Publishes a around report files (.ok ()) files'
  | failed {e : ReportError} (hrows : report.rows ≠ []) (hout : a.out.writesFile = true)
      (h : report.write files (a.output around) = .error e) :
      Publishes a around report files (.error (.report e)) files

/-- Writes a report to a file. -/
def save (report : Report) (path : String) : RunM (Option String) := do
  let s ← get
  let files ← check .report (report.write s.files path)
  set { s with files }
  return some path

/-- Showing and writing a report are two steps. -/
lemma emit_eq (a : Arguments) (around : Surroundings) (report : Report) :
    emit a around report =
      (if a.out.showsTable then say (.table report) else pure ()) >>= fun _ =>
        if a.out.writesFile then save report (a.output around) else pure none := by
  unfold emit save
  cases a.out.showsTable <;> rfl

lemma of_run_save {report : Report} {path : String} {k : Option String → RunM β}
    (h : (save report path >>= k).run.run s = (r, s')) :
    (∃ e, report.write s.files path = .error e ∧ r = .error (.report e) ∧ s' = s) ∨
      ∃ files, report.write s.files path = .ok files ∧
        (k (some path)).run.run { s with files } = (r, s') := by
  simp only [save, bind_assoc, run_get, pure_bind] at h
  rcases of_run_check h with hfailed | ⟨files, hfiles, h⟩
  · exact Or.inl hfailed
  · rw [run_set] at h
    exact Or.inr ⟨files, hfiles, h⟩

lemma of_run_emit {report : Report} {k : Option String → RunM Unit} {r : Except RunError Unit}
    (hrows : report.rows ≠ []) (hk : ∀ path, Quiet (k path))
    (h : (emit a around report >>= k).run.run s = (r, s')) :
    Publishes a around report s.files r s'.files ∧ s'.session = s.session := by
  have hshow : Quiet (if a.out.showsTable then say (.table report) else pure ()) := by
    split_ifs
    · exact quiet_say _
    · exact quiet_pure ()
  rw [emit_eq, bind_assoc] at h
  obtain ⟨-, notices, h⟩ := of_run_quiet hshow h
  cases hout : a.out.writesFile with
  | false =>
      rw [hout, if_neg Bool.false_ne_true, pure_bind] at h
      obtain ⟨y, notices', hrun⟩ := hk none { s with notices }
      cases hrun.symm.trans h
      exact ⟨.unwritten (Or.inr hout), rfl⟩
  | true =>
      rw [hout, if_pos rfl] at h
      rcases of_run_save h with ⟨e, he, rfl, rfl⟩ | ⟨files, hfiles, h⟩
      · exact ⟨.failed hrows hout he, rfl⟩
      · obtain ⟨y, notices', hrun⟩ := hk (some (a.output around)) { s with files, notices }
        cases hrun.symm.trans h
        exact ⟨.written hrows hout hfiles, rfl⟩

/-- A report without rows is only mentioned. -/
lemma of_run_publish {report : Report} {k : Option String → RunM Unit} {r : Except RunError Unit}
    {empty : Bool} {nothing writing : Notice} (hempty : empty = report.rows.isEmpty)
    (hk : ∀ path, Quiet (k path))
    (h : StateT.run (ExceptT.run (if empty then say nothing else do
      say writing
      let path ← emit a around report
      k path)) s = (r, s')) :
    Publishes a around report s.files r s'.files ∧ s'.session = s.session := by
  cases hrows : report.rows with
  | nil =>
      rw [hempty, hrows, List.isEmpty_nil, if_pos rfl] at h
      cases h
      exact ⟨.unwritten (Or.inl hrows), rfl⟩
  | cons row rows =>
      rw [hempty, hrows, List.isEmpty_cons, if_neg Bool.false_ne_true] at h
      obtain ⟨-, notices, h⟩ := of_run_quiet (quiet_say _) h
      exact of_run_emit (s := { s with notices }) (by simp [hrows]) hk h

/-! ## Commands -/

/-- The fetch of the flows, from one state of the session to another, comes to this. -/
def Fetches (l : Loaded) (session session' : Session) (o : Except FlowError Fetch.Outcome) : Prop :=
  (Fetch.fetchAll (Pce.source l.config) l.settings l.queries).run.run session = (o, session')

/-- **How a command may end:** with its result, the session and the files. -/
inductive Runs (a : Arguments) (around : Surroundings) (s : RunState) :
    Except RunError Unit → Session → FileSystem → Prop
  /-- A check found something wrong. -/
  | refused {e : RunError} (h : ∀ c, ¬Validated a around s.files c) :
      Runs a around s (.error e) s.session s.files
  /-- Something could not be loaded, or the labels gave no queries. -/
  | unloaded {e : RunError} {c : Checked} {session : Session} (valid : Validated a around s.files c)
      (h : ∀ l session', ¬Loads a around s.files s.session l session')
      (asks : Asks s.session session) : Runs a around s (.error e) session s.files
  /-- The flows could not be fetched. -/
  | unfetched {e : FlowError} {l : Loaded} {middle session : Session}
      (h : Loads a around s.files s.session l middle)
      (fetch : Fetches l middle session (.error e)) :
      Runs a around s (.error (.flow e)) session s.files
  /-- There is a report. -/
  | fetched {r : Except RunError Unit} {o : Fetch.Outcome} {l : Loaded} {middle session : Session}
      {files : FileSystem} (h : Loads a around s.files s.session l middle)
      (fetch : Fetches l middle session (.ok o))
      (publish : Publishes a around (reportOf a l o) s.files r files) :
      Runs a around s r session files

/-- What may have happened while labels were loaded. -/
lemma of_run_loadQueries {c : Checked} {k : LabelDirectory × List FlowQuery → RunM β}
    (h : (loadQueries a c >>= k).run.run s = (r, s')) :
    ((∃ e, r = .error e) ∧ s'.files = s.files ∧ Asks s.session s'.session ∧
      ∀ labels session, LoadsLabels c.config s.session session labels →
        ∀ queries, c.intent.queries labels ≠ .ok queries) ∨
      ∃ labels queries session notices, LoadsLabels c.config s.session session labels ∧
        c.intent.queries labels = .ok queries ∧
        (k (labels, queries)).run.run { s with session, notices } = (r, s') := by
  simp only [loadQueries, bind_assoc, pure_bind] at h
  obtain ⟨-, notices, h⟩ := of_run_quiet (quiet_say _) h
  rcases of_run_inSession h with ⟨x, session, hlabels, rfl, rfl⟩ | ⟨labels, session, hlabels, h⟩
  · refine Or.inl ⟨⟨_, rfl⟩, rfl, asks_of_labels hlabels, fun labels session' hloads => ?_⟩
    cases hlabels.symm.trans hloads.run
  rcases of_run_check h with ⟨x, hx, rfl, rfl⟩ | ⟨queries, hqueries, h⟩
  · refine Or.inl ⟨⟨_, rfl⟩, rfl, asks_of_labels hlabels, ?_⟩
    intro labels' session' hloads queries hqueries
    cases hlabels.symm.trans hloads.run
    cases hx.symm.trans hqueries
  · exact Or.inr ⟨labels, queries, session, notices, ⟨hlabels, Pce.labels_eq_ok hlabels⟩,
      hqueries, h⟩

/-- **The part that the commands have in common:** the run ends in it, or there are queries. -/
lemma of_run_prepare {k : Checked → LabelDirectory × List FlowQuery → RunM Unit}
    {r : Except RunError Unit}
    (h : (checkAll a around >>= fun c => loadQueries a c >>= k c).run.run s = (r, s')) :
    Runs a around s r s'.session s'.files ∨
      ∃ c labels queries session notices, Validated a around s.files c ∧
        LoadsLabels c.config s.session session labels ∧ c.intent.queries labels = .ok queries ∧
        (k c (labels, queries)).run.run { s with session, notices } = (r, s') := by
  rcases of_run_checkAll h with ⟨hnone, ⟨e, rfl⟩, rfl⟩ | ⟨c, hc, h⟩
  · exact Or.inl (.refused hnone)
  rcases of_run_loadQueries h with
    ⟨⟨e, rfl⟩, hfiles, hasks, hnone⟩ | ⟨labels, queries, session, notices, hlabels, hqueries, h⟩
  · rw [hfiles]
    refine Or.inl (.unloaded hc (fun l session' hl => ?_) hasks)
    obtain ⟨middle, hlabels, -⟩ := hl.loads
    cases hc.unique hl.valid
    exact hnone _ _ hlabels _ hl.queries
  · exact Or.inr ⟨c, labels, queries, session, notices, hc, hlabels, hqueries, h⟩

lemma runFlowSummary_runs (hcommand : a.command = .flowSummary) {r : Except RunError Unit}
    (h : (runFlowSummary a around).run.run s = (r, s')) :
    Runs a around s r s'.session s'.files := by
  rcases of_run_prepare h with
    hruns | ⟨c, labels, queries, session, notices, hc, hlabels, hqueries, h⟩
  · exact hruns
  let l : Loaded := ⟨c, labels, queries, .ofList []⟩
  have hl : Loads a around s.files s.session l session := by
    refine ⟨hc, hqueries, session, hlabels, ?_⟩
    rw [hcommand]
    exact ⟨rfl, rfl⟩
  obtain ⟨-, notices, h⟩ := of_run_quiet (quiet_say _) h
  -- a summary is an outcome, digested
  rcases of_run_inSession h with ⟨e, session', hfetch, rfl, rfl⟩ | ⟨summary, session', hfetch, h⟩
  · rw [FlowSummary.run_fetch, Prod.mk.injEq, map_eq_error] at hfetch
    exact .unfetched hl (Prod.ext hfetch.1 hfetch.2)
  rw [FlowSummary.run_fetch, Prod.mk.injEq, map_eq_ok] at hfetch
  obtain ⟨⟨o, ho, rfl⟩, hsession⟩ := hfetch
  obtain ⟨-, notices, h⟩ := of_run_quiet (quiet_warn _) h
  obtain ⟨-, notices, h⟩ := of_run_quiet (quiet_say _) h
  have hreport : reportOf a l o = ⟨summaryHeaders,
      (FlowSummary.ofOutcome (labels.identity a.withLocation) o).rows.map (·.columns)⟩ := by
    rw [reportOf, hcommand]
    rfl
  obtain ⟨hpublish, hsame⟩ := of_run_publish
    (by rw [← hreport, hreport, List.isEmpty_map]) (fun _ => quiet_say _) h
  rw [hsame]
  exact .fetched hl (Prod.ext ho hsession) (hreport ▸ hpublish)

lemma runExplorer_runs (hcommand : a.command = .explorer) {r : Except RunError Unit}
    (h : (runExplorer a around).run.run s = (r, s')) :
    Runs a around s r s'.session s'.files := by
  rcases of_run_prepare h with
    hruns | ⟨c, labels, queries, session, notices, hc, hlabels, hqueries, h⟩
  · exact hruns
  rcases of_run_inSession h with ⟨e, last, hworkloads, rfl, rfl⟩ | ⟨workloads, last, hworkloads, h⟩
  · refine .unloaded hc (fun l session' hl => ?_)
      ((asks_of_labels hlabels.run).trans (asks_of_workloads hworkloads))
    obtain ⟨middle, hlabels', hrest⟩ := hl.loads
    cases hc.unique hl.valid
    cases hlabels.run.symm.trans hlabels'.run
    rw [hcommand] at hrest
    cases hworkloads.symm.trans hrest.run
  let l : Loaded := ⟨c, labels, queries, workloads⟩
  have hl : Loads a around s.files s.session l last := by
    refine ⟨hc, hqueries, session, hlabels, ?_⟩
    rw [hcommand]
    exact ⟨hworkloads, Pce.workloads_eq_ok hworkloads⟩
  obtain ⟨-, notices, h⟩ := of_run_quiet (quiet_say _) h
  rcases of_run_inSession h with ⟨e, session', hfetch, rfl, rfl⟩ | ⟨o, session', hfetch, h⟩
  · exact .unfetched hl hfetch
  obtain ⟨-, notices, h⟩ := of_run_quiet (quiet_warn _) h
  obtain ⟨-, notices, h⟩ := of_run_quiet (quiet_say _) h
  have hreport : reportOf a l o = ⟨explorerHeaders,
      o.records.map fun r => (ExplorerRow.ofRecord labels workloads r).columns⟩ := by
    rw [reportOf, hcommand]
  obtain ⟨hpublish, hsame⟩ := of_run_publish
    (by rw [← hreport, hreport, List.isEmpty_map]) (fun _ => quiet_forM _ _) h
  rw [hsame]
  exact .fetched hl hfetch (hreport ▸ hpublish)

/-- **Every run of a command ends in one of four ways.** -/
theorem run_runs {r : Except RunError Unit} (h : (run a around).run.run s = (r, s')) :
    Runs a around s r s'.session s'.files := by
  unfold run at h
  cases hcommand : a.command with
  | flowSummary =>
      rw [hcommand] at h
      exact runFlowSummary_runs hcommand h
  | explorer =>
      rw [hcommand] at h
      exact runExplorer_runs hcommand h

/-- If everything is loaded and fetched, the rest is publishing the report. -/
lemma Runs.publishes {r : Except RunError Unit} {session session' middle : Session} {l : Loaded}
    {o : Fetch.Outcome} (h : Runs a around s r session files)
    (hloads : Loads a around s.files s.session l middle)
    (hfetch : Fetches l middle session' (.ok o)) :
    Publishes a around (reportOf a l o) s.files r files := by
  cases h with
  | refused hnone => exact absurd hloads.valid (hnone _)
  | unloaded _ hnone => exact absurd hloads (hnone _ _)
  | unfetched hloads' hfetch' =>
      obtain ⟨rfl, rfl⟩ := hloads.unique hloads'
      cases hfetch.symm.trans hfetch'
  | fetched hloads' hfetch' hpublish =>
      obtain ⟨rfl, rfl⟩ := hloads.unique hloads'
      cases hfetch.symm.trans hfetch'
      exact hpublish

lemma runWith_runs (a : Arguments) (around : Surroundings) (replies : List Http.Reply)
    (files : FileSystem) :
    Runs a around { session := { replies }, files } (runWith a around replies files).1
      (runWith a around replies files).2.session (runWith a around replies files).2.files :=
  run_runs rfl

/-! ## A command -/

/-- A command for a summary of the flows between two dates. -/
def summaryCommand (start stop : String) : Arguments where
  command := .flowSummary
  configFile := some "pce.toml"
  out := .csv
  debug := false
  app := none
  start := some start
  stop := some stop
  verdicts := ⟨true, true, true⟩
  exclusionFile := none
  maxRecords := 10
  threshold := 10
  concurrency := 1
  outputFile := some "out.csv"
  withLocation := false

/-- What the command finds: no variables are set. -/
def noVariables : Surroundings := ⟨[], ⟨2024, 1, 1⟩, "20240101_000000"⟩

/-- What the file with the configuration says. -/
def configText : String :=
  "fqdn = \"pce.example.com\"\nuser = \"api_1\"\nkey = \"secret\"\n"

/-- The files that the command finds. -/
def configOnly : FileSystem := .ofFiles [("pce.toml", configText)]

lemma read_configOnly : Pce.Config.read configOnly "pce.toml" = .ok Pce.samplePce := by
  have hread : configOnly.read "pce.toml" = .ok configText := by
    rw [FileSystem.read, FileSystem.walk_eq_foldlM _ _ (by simp) (by decide) (by decide)]
    decide +kernel
  have htable : (Toml.read? configText).bind Pce.Config.ofTable? = some Pce.samplePce := by
    decide +kernel
  rw [Pce.Config.read, hread]
  simp only [htable]

lemma load_configOnly :
    Pce.Config.load configOnly noVariables.environment (some "pce.toml") = .ok Pce.samplePce := by
  show Pce.Config.read configOnly "pce.toml" >>= _ = _
  rw [read_configOnly]
  rfl

/-- The command is found good if its dates are. -/
lemma validated_summaryCommand {start stop : String} {t u : Instant}
    (hstart : parseDate start = .ok t) (hstop : parseDate stop = .ok u) :
    Validated (summaryCommand start stop) noVariables configOnly
      ⟨{ start, stop, maxRecords := 10 }, ⟨10, 1⟩, Pce.samplePce⟩ where
  intent := by
    simp only [Arguments.intent, summaryCommand, Option.getD_some, hstart, hstop]
    rfl
  settings := rfl
  config := load_configOnly

end TrafficDigest.CommandLine
