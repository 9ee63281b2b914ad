import TrafficDigest.Proofs.CommandLine.Course
import TrafficDigest.Proofs.Report

/-!
# What a command writes and sends

A command that fails writes nothing.  A command that succeeds writes its report, whole and to one
file, or nothing if there is no row or the report is only shown.  No traffic query is posted before
everything was checked and loaded.

The reports of both commands have rows as long as their headers (`even_reportOf`), so of the two
ways in which writing may fail only one is left: the file cannot be created.
-/

namespace TrafficDigest

lemma SummaryRow.length_columns (r : SummaryRow) : r.columns.length = summaryHeaders.length := rfl

lemma ExplorerRow.length_columns (r : ExplorerRow) : r.columns.length = explorerHeaders.length :=
  rfl

namespace CommandLine

open Http (Session Reply)
open Pce (Asks)

variable {a : Arguments} {around : Surroundings} {files files' : FileSystem} {report : Report}

/-- The reports of the commands have rows as long as their headers. -/
lemma even_reportOf (a : Arguments) (l : Loaded) (o : Fetch.Outcome) : (reportOf a l o).Even := by
  intro row hrow
  unfold reportOf at hrow ⊢
  cases hcommand : a.command with
  | flowSummary =>
      rw [hcommand] at hrow
      obtain ⟨r, -, rfl⟩ := List.mem_map.mp hrow
      exact r.length_columns
  | explorer =>
      rw [hcommand] at hrow
      obtain ⟨r, -, rfl⟩ := List.mem_map.mp hrow
      exact ExplorerRow.length_columns _

lemma writesFile_iff {out : OutputFormat} :
    out.writesFile = true ↔ out = .csv ∨ out = .both := by
  cases out <;> decide

/-! ## Output -/

/-- **One file was written**, under a path and with a text: that is what is read there now, and the
text at no other location has changed. -/
structure WritesOne (files files' : FileSystem) (path text : String) : Prop where
  rewrites : ∃ here, files.Rewrites files' here text
  read : files'.read path = .ok text

/-- **What a command that succeeds has done.**  Everything was checked and loaded, and flows were
fetched.  Their report went to the file if there are rows and a file is asked for, and otherwise the
files are what they were. -/
structure Delivers (a : Arguments) (around : Surroundings) (files files' : FileSystem)
    (session session' : Session) (l : Loaded) (o : Fetch.Outcome) : Prop where
  loads : ∃ middle, Loads a around files session l middle ∧ Fetches l middle session' (.ok o)
  written : (reportOf a l o).rows ≠ [] ∧ (a.out = .csv ∨ a.out = .both) →
    WritesOne files files' (a.output around) (reportOf a l o).text
  unwritten : ¬((reportOf a l o).rows ≠ [] ∧ (a.out = .csv ∨ a.out = .both)) → files' = files

lemma Publishes.eq_of_error {r : Except RunError Unit} {e : RunError}
    (h : Publishes a around report files r files') (hr : r = .error e) : files' = files := by
  cases h with
  | unwritten => cases hr
  | written => cases hr
  | failed => rfl

/-- A report for which there is room leads to success. -/
lemma Publishes.eq_ok {r : Except RunError Unit}
    (h : Publishes a around report files r files')
    (hwrite : ∃ files', report.write files (a.output around) = .ok files') : r = .ok () := by
  cases h with
  | unwritten => rfl
  | written => rfl
  | failed _ _ herror =>
      obtain ⟨files', hok⟩ := hwrite
      cases herror.symm.trans hok

lemma Publishes.delivers {r : Except RunError Unit} {l : Loaded} {o : Fetch.Outcome}
    {session middle session' : Session} (hloads : Loads a around files session l middle)
    (hfetch : Fetches l middle session' (.ok o))
    (h : Publishes a around (reportOf a l o) files r files') (hr : r = .ok ()) :
    Delivers a around files files' session session' l o where
  loads := ⟨middle, hloads, hfetch⟩
  written := by
    rintro ⟨hrows, hout⟩
    cases h with
    | unwritten hnot =>
        rcases hnot with hnone | hnone
        · exact absurd hnone hrows
        · rw [writesFile_iff.mpr hout] at hnone
          cases hnone
    | written _ _ hwrite =>
        obtain ⟨hrewrites, hread⟩ :=
          FileSystem.exists_rewrites (Report.of_write (even_reportOf a l o) hwrite)
        exact ⟨hrewrites, hread⟩
    | failed => cases hr
  unwritten := by
    intro hnot
    cases h with
    | unwritten => rfl
    | written hrows hout => exact absurd ⟨hrows, writesFile_iff.mp hout⟩ hnot
    | failed => cases hr

/-- In a session in which nothing was sent before, nothing was posted. -/
lemma get_of_asks {replies : List Reply} {session : Session} (h : Asks { replies } session) :
    ∀ sent ∈ session.log, sent.request.method = .get := by
  obtain ⟨xs, hcourse, -, hget⟩ := h
  intro sent hsent
  rw [← Array.mem_toList_iff, hcourse.log_eq, List.nil_append] at hsent
  obtain ⟨x, hx, rfl⟩ := List.mem_map.mp hsent
  exact hget x hx

namespace Runs

variable {s : RunState} {r : Except RunError Unit} {session : Session}

lemma files_eq_of_error {e : RunError} (h : Runs a around s r session files) (hr : r = .error e) :
    files = s.files := by
  cases h with
  | refused => rfl
  | unloaded => rfl
  | unfetched => rfl
  | fetched _ _ hpublish => exact hpublish.eq_of_error hr

lemma exists_delivers (h : Runs a around s r session files) (hr : r = .ok ()) :
    ∃ l o, Delivers a around s.files files s.session session l o := by
  cases h with
  | refused => cases hr
  | unloaded => cases hr
  | unfetched => cases hr
  | fetched hloads hfetch hpublish => exact ⟨_, _, hpublish.delivers hloads hfetch hr⟩

lemma loads_of_post {replies : List Reply}
    (h : Runs a around { session := { replies }, files := files } r session files')
    (hpost : ∃ sent ∈ session.log, sent.request.method = .post) :
    ∃ l middle, Loads a around files { replies } l middle ∧
      ∀ earlier ∈ middle.log, earlier.request.method = .get := by
  obtain ⟨sent, hsent, hpost⟩ := hpost
  cases h with
  | refused => simp at hsent
  | unloaded _ _ hasks =>
      cases (get_of_asks hasks sent hsent).symm.trans hpost
  | unfetched hloads => exact ⟨_, _, hloads, get_of_asks hloads.asks⟩
  | fetched hloads => exact ⟨_, _, hloads, get_of_asks hloads.asks⟩

end Runs

/-- **A command writes only when it succeeds, and posts only after everything was checked and
loaded.**  This holds for all arguments, surroundings, replies and files. -/
theorem writes_on_success (a : Arguments) (around : Surroundings) (replies : List Reply)
    (files : FileSystem) :
    (∀ e, (runWith a around replies files).1 = .error e →
      (runWith a around replies files).2.files = files) ∧
    ((runWith a around replies files).1 = .ok () →
      ∃ l o, Delivers a around files (runWith a around replies files).2.files { replies }
        (runWith a around replies files).2.session l o) ∧
    ∀ sent ∈ (runWith a around replies files).2.session.log, sent.request.method = .post →
      ∃ l middle, Loads a around files { replies } l middle ∧
        ∀ earlier ∈ middle.log, earlier.request.method = .get := by
  have hruns := runWith_runs a around replies files
  exact ⟨fun e => hruns.files_eq_of_error, hruns.exists_delivers,
    fun sent hsent hpost => hruns.loads_of_post ⟨sent, hsent, hpost⟩⟩

/-- The labels and the flows that the policy engine replies with: there are no labels, and there is
one flow. -/
def oneFlow : List Reply :=
  [Pce.success [] "[]",
    Pce.success [] <| String.join <| ["["] ++
      Pce.reportedFlow "10.0.0.1" "12" "allowed" "2024-01-01T06:00:00Z" ++ ["]"]]

/-- The command for the first two days of 2024. -/
def summaryOfTwoDays : Arguments := summaryCommand "2024-01-01" "2024-01-03"

/-- What it has loaded. -/
def loadedTwoDays : Loaded where
  intent := { start := "2024-01-01", stop := "2024-01-03", maxRecords := 10 }
  settings := ⟨10, 1⟩
  config := Pce.samplePce
  labels := .ofList []
  queries := [{ Pce.twoDays with maxRecords := 10, maxRecords_pos := Nat.succ_pos 9 }]
  workloads := .ofList []

/-- The session when everything is loaded. -/
def afterLabels : Session := ((Pce.labels Pce.samplePce).run.run { replies := oneFlow }).2

lemma loads_twoDays :
    Loads summaryOfTwoDays noVariables configOnly { replies := oneFlow } loadedTwoDays
      afterLabels := by
  have hstart : parseDate "2024-01-01" = .ok (Pce.hourOf2024 0) := by decide +kernel
  have hstop : parseDate "2024-01-03" = .ok (Pce.hourOf2024 48) := by decide +kernel
  have hnone : ((Pce.labels Pce.samplePce).run.run { replies := oneFlow }).1.toOption.map
      (·.latestFirst) = some [] := by
    decide +kernel
  have hlabels : (Pce.labels Pce.samplePce).run.run { replies := oneFlow }
      = (.ok (.ofList []), afterLabels) := by
    refine Prod.ext ?_ rfl
    rcases hrun : ((Pce.labels Pce.samplePce).run.run { replies := oneFlow }).1 with
      e | directory <;> rw [hrun] at hnone
    · cases hnone
    · have hempty : directory.latestFirst = [] := Option.some.inj hnone
      rw [LabelDirectory.ofList, List.reverse_nil, ← hempty]
  refine ⟨validated_summaryCommand hstart hstop, ?_, afterLabels,
    ⟨hlabels, Pce.labels_eq_ok hlabels⟩, rfl, rfl⟩
  simp only [Intent.queries, Intent.baseQuery, loadedTwoDays, hstart, hstop]
  rfl

/-- The flow is fetched, and the report of it has one row. -/
lemma fetches_twoDays :
    ∃ o session, Fetches loadedTwoDays afterLabels session (.ok o) ∧
      (reportOf summaryOfTwoDays loadedTwoDays o).rows
        = [["10.0.0.1", "10.0.0.9", "443 TCP (12 flows)", "", ""]] := by
  have hrows : ((Fetch.fetchAll (Pce.source loadedTwoDays.config) loadedTwoDays.settings
      loadedTwoDays.queries).run.run afterLabels).1.toOption.map
        (fun o => (reportOf summaryOfTwoDays loadedTwoDays o).rows)
      = some [["10.0.0.1", "10.0.0.9", "443 TCP (12 flows)", "", ""]] := by
    decide +kernel
  rcases hrun : (Fetch.fetchAll (Pce.source loadedTwoDays.config) loadedTwoDays.settings
    loadedTwoDays.queries).run.run afterLabels with ⟨e | o, session⟩ <;> rw [hrun] at hrows
  · cases hrows
  · exact ⟨o, session, hrun, Option.some.inj hrows⟩

/-- There is room for the file. -/
lemma write_configOnly (text : String) :
    configOnly.write "out.csv" text
      = .ok { configOnly with files := configOnly.files ++ [(["out.csv"], text)] } := by
  have hwalk : configOnly.walk "out.csv" (FileSystem.names "out.csv")
      = .ok (.vacant ["out.csv"]) := by
    rw [FileSystem.walk_eq_foldlM _ _ (by simp) (by decide) (by decide)]
    decide +kernel
  rw [FileSystem.write, if_neg (by decide +kernel), hwalk]

/-- **A run that writes:** it succeeds, and the report has one row. -/
theorem writes_summaryOfTwoDays :
    ∃ l o, Delivers summaryOfTwoDays noVariables configOnly
        (runWith summaryOfTwoDays noVariables oneFlow configOnly).2.files { replies := oneFlow }
        (runWith summaryOfTwoDays noVariables oneFlow configOnly).2.session l o ∧
      (reportOf summaryOfTwoDays l o).rows
        = [["10.0.0.1", "10.0.0.9", "443 TCP (12 flows)", "", ""]] := by
  obtain ⟨o, session, hfetch, hrows⟩ := fetches_twoDays
  have hpublish := (runWith_runs summaryOfTwoDays noVariables oneFlow configOnly).publishes
    loads_twoDays hfetch
  have hwrite : ∃ files, (reportOf summaryOfTwoDays loadedTwoDays o).write configOnly "out.csv"
      = .ok files := by
    rw [Report.write, Report.csv_of_even (even_reportOf _ _ _), write_configOnly]
    exact ⟨_, congrArg (Except.mapError _) (write_configOnly _)⟩
  have hok := hpublish.eq_ok hwrite
  obtain ⟨l, o', hdelivers⟩ :=
    (writes_on_success summaryOfTwoDays noVariables oneFlow configOnly).2.1 hok
  obtain ⟨middle, hloads, hfetch'⟩ := hdelivers.loads
  obtain ⟨rfl, rfl⟩ := loads_twoDays.unique hloads
  cases hfetch.symm.trans hfetch'
  exact ⟨_, _, hdelivers, hrows⟩

end CommandLine

end TrafficDigest
