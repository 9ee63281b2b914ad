import TrafficDigest.Proofs.CommandLine.Output
import TrafficDigest.Proofs.Pce.Key

/-!
# Commands do not depend on the key

A command that is run twice, with configurations that differ in the key, does the same twice: it
comes to the same result, says the same, sends the same requests at the same times with the same
users, and writes the same.  The configuration is read from a file and the environment, so the two
runs may find different texts in their files (`DiffersInKey`); but what they do does not depend on
them once everything is checked.

The checks come to the same (`checked_eq`).  What comes after them is made of steps that agree on
states that differ in keys only (`RunState.SameButKeys`).
-/

namespace TrafficDigest.CommandLine

open Http (Session)
open FileSystem (SameWrites)
open Pce (Config Environment)

variable {α β ε : Type} {a : Arguments} {around : Surroundings} {files files' : FileSystem}
  {file : Option String} {environment : Environment} {c : Config} {key : String}

/-- **The states differ in the keys that were sent,** and in files on which the same was written. -/
structure RunState.SameButKeys (files files' : FileSystem) (s s' : RunState) : Prop where
  session : s.session.SameButKeys s'.session
  notices : s.notices = s'.notices
  files : SameWrites files files' s.files s'.files

/-- **Two runs come to the same** and leave states behind that differ in the key only. -/
structure Alike (files files' : FileSystem) (x x' : Except RunError β × RunState) : Prop where
  result : x.1 = x'.1
  state : x.2.SameButKeys files files' x'.2

/-! ## Steps -/

lemma agrees_check (wrap : ε → RunError) (e : Except ε α) :
    Agrees (RunState.SameButKeys files files') (check wrap e) (check wrap e) :=
  congruence_agrees.result _

lemma agrees_say (n : Notice) :
    Agrees (RunState.SameButKeys files files') (say n) (say n) :=
  fun _ _ h => ⟨rfl, h.session, congrArg (·.push n) h.notices, h.files⟩

lemma agrees_inSession (wrap : ε → RunError) {m m' : ExceptT ε (StateM Session) α}
    (hm : Agrees Session.SameButKeys m m') :
    Agrees (RunState.SameButKeys files files') (inSession wrap m) (inSession wrap m') := by
  intro s s' h
  obtain ⟨hresult, hsession⟩ := hm _ _ h.session
  rw [run_inSession, run_inSession]
  exact ⟨congrArg (Except.mapError wrap) hresult, hsession, h.notices, h.files⟩

lemma agrees_warn (truncated : List Fetch.Truncation) :
    Agrees (RunState.SameButKeys files files') (warn truncated) (warn truncated) := by
  induction truncated with
  | nil => exact congruence_agrees.result (.ok ())
  | cons t truncated ih => exact congruence_agrees.bind (agrees_say _) fun _ => ih

/-- What can be written to one of the stores can be written to the other. -/
lemma agrees_save (hblank : files.blank = files'.blank) (report : Report) (path : String) :
    Agrees (RunState.SameButKeys files files') (save report path) (save report path) := by
  intro s s' h
  unfold save
  rw [run_get, run_get]
  rcases report.write_of_blank (h.files.blank_eq hblank) path with
    ⟨e, he, he'⟩ | ⟨text, gs, gs', hgs, hgs', hreport, hreport'⟩
  · rw [he, he']
    exact ⟨rfl, h⟩
  · rw [hreport, hreport']
    exact ⟨rfl, h.session, h.notices, h.files.write hgs hgs'⟩

lemma agrees_emit (hblank : files.blank = files'.blank) (report : Report) :
    Agrees (RunState.SameButKeys files files') (emit a around report)
      (emit { a with configFile := file } { around with environment } report) := by
  rw [emit_eq, emit_eq]
  refine congruence_agrees.bind ?_ fun _ => ?_
  · split_ifs
    · exact agrees_say _
    · exact congruence_agrees.result (.ok ())
  · split_ifs
    · exact agrees_save hblank report (a.output around)
    · exact congruence_agrees.result (.ok none)

/-- A report without rows is only mentioned. -/
lemma agrees_publish (hblank : files.blank = files'.blank) (empty : Bool)
    (nothing writing : Notice) (report : Report) {k : Option String → RunM Unit}
    (hk : ∀ path, Agrees (RunState.SameButKeys files files') (k path) (k path)) :
    Agrees (RunState.SameButKeys files files')
      (if empty then say nothing else do
        say writing
        let path ← emit a around report
        k path)
      (if empty then say nothing else do
        say writing
        let path ← emit { a with configFile := file } { around with environment } report
        k path) := by
  split_ifs
  · exact agrees_say _
  · exact congruence_agrees.bind (agrees_say _) fun _ =>
      congruence_agrees.bind (agrees_emit hblank report) hk

/-! ## Checks -/

/-- **Two starts of a command differ in the key only.**  There are the same files, the list of
services to leave out is the same, and the configurations, as the file and the environment together
give them, are the same but for the key, which neither lacks. -/
structure DiffersInKey (a : Arguments) (around : Surroundings) (files : FileSystem)
    (file : Option String) (environment : Environment) (files' : FileSystem) (c : Config)
    (key : String) : Prop where
  locations : files.blank = files'.blank
  exclusions : ∀ path ∈ a.exclusionFile, loadExclusions files path = loadExclusions files' path
  config : (Config.read files (Config.locate around.environment a.configFile)).map
    (Config.override around.environment) = .ok c
  config' : (Config.read files' (Config.locate environment file)).map
    (Config.override environment) = .ok (c.withKey key)
  key_ne : c.key ≠ ""
  key_ne' : key ≠ ""

/-- What was checked, with another key. -/
def Checked.withKey (k : Checked) (key : String) : Checked :=
  { k with config := k.config.withKey key }

/-- What the checks come to. -/
def checked (a : Arguments) (around : Surroundings) (files : FileSystem) :
    Except RunError Checked := do
  let intent ← (a.intent files around.today).mapError .flow
  let settings ← a.settings.mapError .flow
  let config ← (Config.load files around.environment a.configFile).mapError .config
  return { intent, settings, config }

lemma run_checkAll (s : RunState) :
    (checkAll a around).run.run s = (checked a around s.files, s) := by
  unfold checkAll checked
  rw [run_get]
  cases a.intent s.files around.today with
  | error e => rfl
  | ok intent =>
      cases a.settings with
      | error e => rfl
      | ok settings =>
          cases Config.load s.files around.environment a.configFile <;> rfl

/-- Whether a configuration is complete does not depend on which key it has. -/
lemma check_withKey (hkey : c.key ≠ "") (hkey' : key ≠ "") : (c.withKey key).check = c.check := by
  simp only [Config.check, Config.withKey, hkey, hkey']

lemma load_eq (files : FileSystem) (environment : Environment) (file : Option String) :
    Config.load files environment file =
      (Config.read files (Config.locate environment file)).map (Config.override environment) >>=
        fun c => c.check.map fun _ => c := by
  unfold Config.load
  cases Config.read files (Config.locate environment file) with
  | error e => rfl
  | ok c =>
      show (c.override environment).check >>= _ = (c.override environment).check.map _
      cases (c.override environment).check <;> rfl

namespace DiffersInKey

variable (h : DiffersInKey a around files file environment files' c key)

include h

lemma load : Config.load files' environment file =
    (Config.load files around.environment a.configFile).map (·.withKey key) := by
  rw [load_eq, load_eq, h.config, h.config']
  show ((c.withKey key).check.map _) = (c.check.map _).map _
  rw [check_withKey h.key_ne h.key_ne']
  cases c.check <;> rfl

lemma intent : { a with configFile := file }.intent files' around.today =
    a.intent files around.today := by
  unfold Arguments.intent
  cases hpath : a.exclusionFile with
  | none => rfl
  | some path => simp only [h.exclusions path hpath]

/-- **The checks come to the same.** -/
lemma checked_eq :
    checked { a with configFile := file } { around with environment } files' =
      (checked a around files).map (·.withKey key) := by
  unfold checked
  rw [h.intent, h.load]
  cases a.intent files around.today with
  | error e => rfl
  | ok intent =>
      have hsettings : { a with configFile := file }.settings = a.settings := rfl
      rw [hsettings]
      cases a.settings with
      | error e => rfl
      | ok settings =>
          cases Config.load files around.environment a.configFile <;> rfl

end DiffersInKey

/-! ## Commands -/

lemma agrees_loadQueries (k : Checked) :
    Agrees (RunState.SameButKeys files files') (loadQueries a k)
      (loadQueries { a with configFile := file } (k.withKey key)) :=
  congruence_agrees.bind (agrees_say _) fun _ =>
    congruence_agrees.bind (agrees_inSession _ Pce.agrees_labels) fun labels =>
      congruence_agrees.bind (agrees_check _ _) fun queries =>
        congruence_agrees.result (.ok (labels, queries))

lemma agrees_fetchSummary (settings : Fetch.Settings) (queries : List FlowQuery)
    (resolve : Resolver) :
    Agrees Session.SameButKeys (FlowSummary.fetch (Pce.source c) settings queries resolve)
      (FlowSummary.fetch (Pce.source (c.withKey key)) settings queries resolve) :=
  congruence_agrees.bind (congruence_agrees.fetchAll Pce.agrees_source settings queries)
    fun outcome => congruence_agrees.result (.ok (FlowSummary.ofOutcome resolve outcome))

/-- Which command is run does not depend on where its configuration is. -/
lemma run_cases (a : Arguments) :
    (∀ file around, run { a with configFile := file } around =
      runFlowSummary { a with configFile := file } around) ∨
    ∀ file around, run { a with configFile := file } around =
      runExplorer { a with configFile := file } around := by
  cases a.command with
  | flowSummary => exact Or.inl fun _ _ => rfl
  | explorer => exact Or.inr fun _ _ => rfl

namespace DiffersInKey

variable {s s' : RunState} (h : DiffersInKey a around s.files file environment s'.files c key)
  (hs : s.SameButKeys s.files s'.files s')

include h hs

/-- Commands come to the same if what they do after the checks does. -/
lemma run_checkAll_bind {k k' : Checked → RunM β}
    (hk : ∀ found, Agrees (RunState.SameButKeys s.files s'.files) (k found)
      (k' (found.withKey key))) :
    Alike s.files s'.files ((checkAll a around >>= k).run.run s)
      ((checkAll { a with configFile := file } { around with environment } >>= k').run.run s') := by
  rw [run_bind, run_bind, run_checkAll, run_checkAll, h.checked_eq]
  cases checked a around s.files with
  | error e => exact ⟨rfl, hs⟩
  | ok found =>
      obtain ⟨hresult, hstate⟩ := hk found s s' hs
      exact ⟨hresult, hstate⟩

lemma run_flowSummary :
    Alike s.files s'.files ((runFlowSummary a around).run.run s)
      ((runFlowSummary { a with configFile := file } { around with environment }).run.run s') := by
  refine h.run_checkAll_bind hs fun found => ?_
  refine congruence_agrees.bind (agrees_loadQueries found) fun ⟨labels, queries⟩ => ?_
  refine congruence_agrees.bind (agrees_say _) fun _ => ?_
  refine congruence_agrees.bind (agrees_inSession _ (agrees_fetchSummary _ _ _)) fun summary => ?_
  refine congruence_agrees.bind (agrees_warn _) fun _ => ?_
  refine congruence_agrees.bind (agrees_say _) fun _ => ?_
  exact agrees_publish h.locations _ _ _ _ fun _ => agrees_say _

lemma run_explorer :
    Alike s.files s'.files ((runExplorer a around).run.run s)
      ((runExplorer { a with configFile := file } { around with environment }).run.run s') := by
  refine h.run_checkAll_bind hs fun found => ?_
  refine congruence_agrees.bind (agrees_loadQueries found) fun ⟨labels, queries⟩ => ?_
  refine congruence_agrees.bind (agrees_inSession _ Pce.agrees_workloads) fun workloads => ?_
  refine congruence_agrees.bind (agrees_say _) fun _ => ?_
  refine congruence_agrees.bind
    (agrees_inSession _ (congruence_agrees.fetchAll Pce.agrees_source _ _)) fun outcome => ?_
  refine congruence_agrees.bind (agrees_warn _) fun _ => ?_
  refine congruence_agrees.bind (agrees_say _) fun _ => ?_
  refine agrees_publish h.locations _ _ _ _ fun path => ?_
  cases path with
  | none => exact congruence_agrees.result (.ok ())
  | some path => exact agrees_say _

/-- **Commands do not depend on the key.** -/
lemma run :
    Alike s.files s'.files ((run a around).run.run s)
      ((CommandLine.run { a with configFile := file } { around with environment }).run.run s') := by
  rcases run_cases a with hrun | hrun
  · rw [hrun file, show CommandLine.run a around = _ from hrun a.configFile around]
    exact h.run_flowSummary hs
  · rw [hrun file, show CommandLine.run a around = _ from hrun a.configFile around]
    exact h.run_explorer hs

end DiffersInKey

/-- **The key is for authentication only.**

* Calls to two policy engines whose configurations differ in the key, in sessions that differ in the
  keys that were sent, have the same answers and leave such sessions behind: the requests are the
  same but for the key, and so are the waits.
* Commands whose configurations differ in the key come to the same result, say the same, send the
  same requests at the same times but for the key, and write the same.  Of two labels of the
  application asked for, both runs pick the one loaded last (`LabelDirectory.find?`). -/
theorem key_only_authenticates :
    (∀ (c : Config) (key : String) (calls : List Pce.Call) (s s' : Session), s.SameButKeys s' →
      ((Pce.runAll c calls).run s).1 = ((Pce.runAll (c.withKey key) calls).run s').1 ∧
      ((Pce.runAll c calls).run s).2.SameButKeys ((Pce.runAll (c.withKey key) calls).run s').2) ∧
    ∀ (a : Arguments) (around : Surroundings) (files : FileSystem) (file : Option String)
      (environment : Environment) (files' : FileSystem) (c : Config) (key : String),
      DiffersInKey a around files file environment files' c key →
      ∀ replies : List Http.Reply, Alike files files' (runWith a around replies files)
        (runWith { a with configFile := file } { around with environment } replies files') := by
  refine ⟨fun c key calls s s' h => Pce.agrees_runAll calls h, ?_⟩
  intro a around files file environment files' c key h replies
  let s : RunState := { session := { replies }, files }
  let s' : RunState := { session := { replies }, files := files' }
  have hfiles : DiffersInKey a around s.files file environment s'.files c key := h
  have hs : s.SameButKeys s.files s'.files s' := ⟨⟨rfl, rfl, rfl⟩, rfl, .none⟩
  exact hfiles.run hs

/-- A variable that replaces the key in the file. -/
def otherKey : Environment := [("FLOWSCOPE_PCE_KEY", "other")]

/-- **The key does change:** it is sent.  But nothing else changes, and the same is written. -/
theorem key_only_authenticates_twoDays :
    ((Pce.runAll Pce.samplePce [.labels]).run { replies := oneFlow }).2.log.map
        (·.credentials.key) = #["secret"] ∧
      ((Pce.runAll (Pce.samplePce.withKey "other") [.labels]).run
        { replies := oneFlow }).2.log.map (·.credentials.key) = #["other"] ∧
      ((Pce.runAll Pce.samplePce [.labels]).run { replies := oneFlow }).2.SameButKeys
        ((Pce.runAll (Pce.samplePce.withKey "other") [.labels]).run { replies := oneFlow }).2 ∧
      (runWith summaryOfTwoDays noVariables oneFlow configOnly).2.files =
        (runWith summaryOfTwoDays { noVariables with environment := otherKey } oneFlow
          configOnly).2.files := by
  have hsession : ({ replies := oneFlow } : Session).SameButKeys { replies := oneFlow } :=
    ⟨rfl, rfl, rfl⟩
  have hdiffers : DiffersInKey summaryOfTwoDays noVariables configOnly (some "pce.toml") otherKey
      configOnly Pce.samplePce "other" := {
    locations := rfl
    exclusions := fun _ hpath => nomatch hpath
    config := congrArg (Except.map (Config.override [])) read_configOnly
    config' := congrArg (Except.map (Config.override otherKey)) read_configOnly
    key_ne := by decide
    key_ne' := by decide }
  obtain ⟨hcalls, hcommands⟩ := key_only_authenticates
  exact ⟨by decide +kernel, by decide +kernel,
    (hcalls Pce.samplePce "other" [.labels] _ _ hsession).2,
    (hcommands _ _ _ _ _ _ _ _ hdiffers oneFlow).state.files.eq⟩

end TrafficDigest.CommandLine
