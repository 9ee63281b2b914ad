import TrafficDigest.CommandLine
import TrafficDigest.Proofs.Fetch.Summary
import TrafficDigest.Proofs.Pce.Interval

/-!
# A policy engine with the flows of a list

What comes of a fetch when the policy engine holds a list of flows and answers each body with the
page that it asks for.  The engine sees the windows cut to whole milliseconds, so it may give a flow
to another window than the one it belongs to, but never to two or to none:

* neighbouring windows share a bound, and cutting it moves it for both of them
  (`capped_engineAnswer`, `Tiles.flatMap_filter_moved_perm`);
* the outer bounds are midnights, which cutting does not move (`of_parseDate`).

`fetchAll_engine_exact` — so a fetch for the queries of a command line that ends without a warning
has exactly the flows that the queries want, as if the engine had been asked for them to the
nanosecond.
-/

namespace TrafficDigest

/-! ## Command lines -/

namespace CommandLine.Arguments

lemma of_settings {a : Arguments} {settings : Fetch.Settings} (h : a.settings = .ok settings) :
    settings.threshold = min a.threshold a.maxRecords ∧ 0 < settings.threshold := by
  unfold Arguments.settings at h
  obtain ⟨_, hcheck, h⟩ := exists_ok_of_bind h
  cases h
  refine ⟨rfl, Nat.pos_of_ne_zero fun hzero => ?_⟩
  rw [Fetch.Settings.check, if_pos hzero] at hcheck
  cases hcheck

lemma maxRecords_of_intent {a : Arguments} {fs : FileSystem} {today : Date} {i : Intent}
    (h : a.intent fs today = .ok i) : i.maxRecords = a.maxRecords := by
  unfold Arguments.intent at h
  obtain ⟨_, -, h⟩ := exists_ok_of_bind h
  obtain ⟨_, -, h⟩ := exists_ok_of_bind h
  split at h
  · cases h
    rfl
  · obtain ⟨_, -, h⟩ := exists_ok_of_bind h
    cases h
    rfl

end CommandLine.Arguments

namespace Pce

open Http (Reply Response Session)
open Fetch

/-! ## The engine -/

/-- **The reply is what an engine with these flows answers to a body:** a success with the page that
the body asks for. -/
def Serves (flows : List ObservedFlow) (body : Json) (reply : Reply) : Prop :=
  ∃ a r, ask.decode body = some a ∧ reply = .response r ∧ Http.isSuccess r.status = true ∧
    flows? r = some (a.page flows)

/-- **The answers of the client when it talks to that engine:** in some session it posts a body, and
the next reply is what the engine answers to it. -/
def engineAnswers (c : Config) (flows : List ObservedFlow) : Answers := fun q answer =>
  ∃ (s : Session) (body : Json) (reply : Reply), Posts c q s body ∧
    s.replies.head? = some reply ∧ Serves flows body reply ∧
    ((source c q).run.run s).1 = answer

/-- Every flow has a verdict that is understood. -/
def Understood (flows : List ObservedFlow) : Prop :=
  ∀ f ∈ flows, ∃ v, Verdict.parse f.decision = .ok v

/-- The one answer to a query. -/
def engineAnswer (flows : List ObservedFlow) (q : FlowQuery) :
    Except FlowError (List FlowRecord) :=
  .ok (recordsOf (((ask.decode (queryBody q)).map (·.page flows)).getD []))

lemma eq_engineAnswer {c : Config} {flows : List ObservedFlow} {q : FlowQuery}
    {answer : Except FlowError (List FlowRecord)} (h : engineAnswers c flows q answer) :
    Answers.ofFunction (engineAnswer flows) q answer := by
  obtain ⟨s, body, reply, hposts, hreply, ⟨a, r, hask, rfl, hsuccess, hflows⟩, rfl⟩ := h
  rw [posts_iff.mp hposts] at hask
  have hnext : s.next = .response r := by
    rw [Session.next, List.headD_eq_head?_getD, hreply, Option.getD_some]
  show _ = engineAnswer flows q
  rw [run_source, hnext, reading_response c q hsuccess hflows, engineAnswer, hask,
    Option.map_some, Option.getD_some]

/-- The engine has an answer to a query if the page for it has a text. -/
lemma engineAnswers_of_page (c : Config) {flows page : List ObservedFlow} {q : FlowQuery}
    (hq : OnCalendar q) (hpage : (Ask.ofQuery q).page flows = page) {r : Response}
    (hsuccess : Http.isSuccess r.status = true) (hflows : flows? r = some page) :
    engineAnswers c flows q (.ok (recordsOf page)) := by
  rw [← hpage] at hflows
  refine ⟨{ replies := [.response r] }, queryBody q, .response r, posts_iff.mpr rfl, rfl,
    ⟨_, r, decode_queryBody hq, rfl, hsuccess, hflows⟩, ?_⟩
  rw [run_source, ← hpage]
  exact reading_response c q hsuccess hflows

/-! ## What the engine admits -/

lemma EndpointFilter.admits_ofGroup (group : Option String) (e : Endpoint) :
    (ofGroup group).admits e = group.all e.carries := by
  cases group <;> simp [admits, ofGroup]

/-- The flow lies between two instants when it is first seen. -/
def seenWithin (start stop : Instant) (r : FlowRecord) : Bool :=
  start ≤ r.firstSeen && r.firstSeen < stop

/-- A record has what the engine goes by as it was reported. -/
lemma of_toRecord {f : ObservedFlow} {r : FlowRecord} (h : f.toRecord = .ok r) :
    Verdict.parse f.decision = .ok r.verdict ∧ f.src = r.src ∧ f.dst = r.dst ∧
      f.service = r.service ∧ f.seen.1 = r.firstSeen := by
  unfold ObservedFlow.toRecord at h
  obtain ⟨v, hv, h⟩ := exists_ok_of_bind h
  cases h
  exact ⟨hv, rfl, rfl, rfl, rfl⟩

/-- The engine and the query differ in the bounds of the window only. -/
lemma admits_ofQuery (q : FlowQuery) {f : ObservedFlow} {r : FlowRecord}
    (h : f.toRecord = .ok r) :
    (Ask.ofQuery q).admits f
      = (seenWithin q.start.floorMillis q.stop.floorMillis r && q.passes r) := by
  obtain ⟨hverdict, hsrc, hdst, hservice, hseen⟩ := of_toRecord h
  have hends : (Ask.ofQuery q).admitsEnds f = q.group.all (·.admits r) := by
    simp only [Ask.admitsEnds, Ask.ofQuery, EndpointFilter.admits_ofGroup, FlowQuery.groupOn?,
      hsrc, hdst]
    rcases q.group with _ | ⟨side, href⟩
    · rfl
    · cases side <;> simp [Option.filter, GroupFilter.admits, FlowRecord.endpoint]
  have hservices : (Ask.ofQuery q).services.admits f.service
      = !q.excluded.contains r.service := by
    simp [ServiceFilter.admits, Ask.ofQuery, hservice]
  rw [Ask.admits, hends, hservices, hverdict, hseen]
  simp only [seenWithin, FlowQuery.passes, Ask.ofQuery, Except.toOption, Option.any_some,
    VerdictSet.contains_toList, Bool.and_assoc]
  rfl

lemma recordsOf_cons {f : ObservedFlow} {r : FlowRecord} (h : f.toRecord = .ok r)
    (flows : List ObservedFlow) : recordsOf (f :: flows) = r :: recordsOf flows :=
  List.filterMap_cons_some (by rw [h]; rfl)

/-- One record is made of each flow. -/
lemma Understood.induction {P : List ObservedFlow → Prop} (nil : P [])
    (cons : ∀ f r flows, f.toRecord = .ok r → P flows → P (f :: flows)) :
    ∀ {flows : List ObservedFlow}, Understood flows → P flows
  | [], _ => nil
  | f :: flows, h => by
      obtain ⟨⟨v, hv⟩, hflows⟩ := List.forall_mem_cons.mp h
      obtain ⟨r, hr⟩ : ∃ r, f.toRecord = .ok r := by
        unfold ObservedFlow.toRecord
        rw [hv]
        exact ⟨_, rfl⟩
      exact cons f r flows hr (Understood.induction nil cons hflows)

lemma recordsOf_filter {flows : List ObservedFlow} (hflows : Understood flows)
    {A : ObservedFlow → Bool} {P : FlowRecord → Bool}
    (h : ∀ f r, f.toRecord = .ok r → A f = P r) :
    recordsOf (flows.filter A) = (recordsOf flows).filter P := by
  refine hflows.induction (P := fun flows =>
    recordsOf (flows.filter A) = (recordsOf flows).filter P) rfl fun f r flows hf ih => ?_
  rw [List.filter_cons, recordsOf_cons hf, List.filter_cons, h f r hf]
  split
  · rw [recordsOf_cons hf, ih]
  · exact ih

lemma recordsOf_take {flows : List ObservedFlow} (hflows : Understood flows) (n : Nat) :
    recordsOf (flows.take n) = (recordsOf flows).take n := by
  refine hflows.induction (P := fun flows =>
    ∀ n, recordsOf (flows.take n) = (recordsOf flows).take n) (fun n => ?_)
    (fun f r flows hf ih n => ?_) n
  · rw [List.take_nil]
    exact List.take_nil.symm
  · cases n with
    | zero => rfl
    | succ n => rw [List.take_succ_cons, recordsOf_cons hf, recordsOf_cons hf, ih,
        List.take_succ_cons]

lemma Understood.filter {flows : List ObservedFlow} (h : Understood flows)
    (A : ObservedFlow → Bool) : Understood (flows.filter A) :=
  fun f hf => h f (List.mem_of_mem_filter hf)

/-- **The engine cuts its answers**, and the windows that it goes by are cut to milliseconds. -/
lemma capped_engineAnswer {flows : List ObservedFlow} (hflows : Understood flows) {q : FlowQuery}
    (hq : OnCalendar q) (threshold : Nat) :
    Capped (engineAnswer flows) threshold q fun w =>
      ((recordsOf flows).filter q.passes).filter
        (seenWithin w.start.floorMillis w.stop.floorMillis) := by
  intro w hw
  have hcalendar := hw.of_passes passesToHalves_onCalendar hq
  have hwindow : w = q.withWindow w.window := hw.of_passes (passesToHalves_eq_withWindow q) rfl
  have hadmits : ∀ f r, f.toRecord = .ok r → (Ask.ofQuery w).admits f
      = (seenWithin w.start.floorMillis w.stop.floorMillis r && q.passes r) := by
    intro f r hr
    rw [admits_ofQuery w hr, hwindow]
    rfl
  have hmax : w.maxRecords = q.maxRecords := by rw [hwindow]; rfl
  rw [engineAnswer, decode_queryBody hcalendar, Option.map_some, Option.getD_some, Ask.page,
    recordsOf_take (hflows.filter _), recordsOf_filter hflows hadmits, ← hmax,
    ← List.filter_filter]
  rfl

/-! ## Fetching -/

variable {c : Config} {flows : List ObservedFlow} {settings : Settings}

/-- **A query over whole milliseconds is fetched exactly.** -/
lemma fetch_engine_exact (hflows : Understood flows) {q : FlowQuery} (hq : OnCalendar q)
    (hwhole : q.start.floorMillis = q.start ∧ q.stop.floorMillis = q.stop)
    (hpos : 0 < settings.threshold) (hcap : settings.threshold ≤ q.maxRecords)
    {r : Except FlowError Outcome} (h : Fetches (engineAnswers c flows) settings q r) :
    ∃ o, r = .ok o ∧ (o.truncated = [] → o.records.Perm (q.wanted (recordsOf flows))) := by
  have hcut := capped_engineAnswer hflows hq settings.threshold
  obtain ⟨o, rfl, -, -, hall⟩ :=
    Fetches.of_capped hpos hcap hcut (h.mono fun _ _ => eq_engineAnswer)
  refine ⟨o, rfl, fun hnone => ?_⟩
  rw [hall hnone, FlowQuery.wanted_eq]
  -- neighbouring leaves share a bound, so cutting the bounds loses no flow between them
  have hmoved := (tiles_leavesOf hcut.neverFails).flatMap_filter_moved_perm
    ((recordsOf flows).filter q.passes) Instant.floorMillis Instant.floorMillis_mono
  rw [hwhole.1, hwhole.2] at hmoved
  exact hmoved

/-- **A fetch from an engine with these flows is exact unless it warns.**  With the queries and the
settings of a command line it succeeds under every schedule.  Without a warning its records are,
for one query after the other, those of the flows that the query wants, although the engine was
asked about windows that were cut to whole milliseconds. -/
theorem fetchAll_engine_exact {a : CommandLine.Arguments} {fs : FileSystem} {today : Date}
    {i : Intent} (hi : a.intent fs today = .ok i) {settings : Settings}
    (hsettings : a.settings = .ok settings) {labels : LabelDirectory} {qs : List FlowQuery}
    (hqs : i.queries labels = .ok qs) (hflows : Understood flows)
    {r : Except FlowError Outcome} (h : FetchesAll (engineAnswers c flows) settings qs r) :
    ∃ o, r = .ok o ∧ (o.truncated = [] →
      o.records.Perm (qs.flatMap fun q => (recordsOf flows).filter q.admits)) := by
  obtain ⟨hthreshold, hpos⟩ := CommandLine.Arguments.of_settings hsettings
  refine h.of_each fun q hq r hr => ?_
  obtain ⟨hstart, hstop, hmax⟩ := Intent.shared_of_queries hqs q hq
  obtain ⟨hstart, hwhole⟩ := of_parseDate hstart
  obtain ⟨hstop, hwhole'⟩ := of_parseDate hstop
  refine fetch_engine_exact hflows ⟨hstart, hstop⟩ ⟨hwhole, hwhole'⟩ hpos ?_ hr
  rw [hthreshold, hmax, CommandLine.Arguments.maxRecords_of_intent hi]
  exact Nat.min_le_right ..

/-! ### One day of two, in two halves -/

/-- A command line for the flows of the first day of 2024. -/
def dayArguments : CommandLine.Arguments where
  command := .explorer
  configFile := none
  out := .csv
  debug := false
  app := none
  start := some "2024-01-01"
  stop := some "2024-01-02"
  verdicts := ⟨true, true, true⟩
  exclusionFile := none
  maxRecords := 2
  threshold := 2
  concurrency := 2
  outputFile := none
  withLocation := false

/-- What that command line asks for. -/
def dayIntent : Intent where
  start := "2024-01-01"
  stop := "2024-01-02"
  maxRecords := 2

/-- The query for it, over some hours of 2024. -/
def hoursQuery (start stop : Nat) (h : hourOf2024 start < hourOf2024 stop) : FlowQuery :=
  fourNanos.withWindow ⟨hourOf2024 start, hourOf2024 stop, h⟩

/-- A flow that was first seen in the given hour of 2024. -/
def flowAtHour (hour : Nat) : ObservedFlow :=
  ⟨⟨"10.0.0.1", none⟩, ⟨"10.0.0.9", none⟩, ⟨443, 6⟩, 12, "allowed", hourOf2024 hour,
    hourOf2024 hour⟩

/-- The page with the flows of some times. -/
def pageOf (times : List String) : Response where
  status := 200
  headers := []
  body := String.join
    (["["] ++ ((times.map (reportedFlow "10.0.0.1" "12" "allowed")).intersperse [","]).flatten
      ++ ["]"])

lemma flows_wholePage :
    flows? (pageOf ["2024-01-01T06:00:00Z", "2024-01-01T18:00:00Z"])
      = some [flowAtHour 6, flowAtHour 18] := by
  rw [flows?, Json.read?, pageOf, String.toList_join]
  decide +kernel

lemma flows_leftPage : flows? (pageOf ["2024-01-01T06:00:00Z"]) = some [flowAtHour 6] := by
  rw [flows?, Json.read?, pageOf, String.toList_join]
  decide +kernel

lemma flows_rightPage : flows? (pageOf ["2024-01-01T18:00:00Z"]) = some [flowAtHour 18] := by
  rw [flows?, Json.read?, pageOf, String.toList_join]
  decide +kernel

/-- The page for the first day is full, so its halves are fetched.  The second half is answered
first; the flow of the next day is not there. -/
theorem fetchAll_engine_halves :
    ∃ fs today i settings q o, dayArguments.intent fs today = .ok i ∧
      dayArguments.settings = .ok settings ∧ i.queries (.ofList []) = .ok [q] ∧
      FetchesAll (engineAnswers samplePce ([6, 18, 30].map flowAtHour)) settings [q] (.ok o) ∧
      o.windows = 2 ∧ o.truncated = [] ∧
      o.records.Perm (recordsOf ([6, 18].map flowAtHour)) := by
  let flows : List ObservedFlow := [6, 18, 30].map flowAtHour
  let day := hoursQuery 0 24 (by decide)
  let left := hoursQuery 0 12 (by decide)
  let right := hoursQuery 12 24 (by decide)
  have hi : dayArguments.intent ⟨[], []⟩ ⟨2024, 6, 1⟩ = .ok dayIntent := by decide +kernel
  have hsettings : dayArguments.settings = .ok ⟨2, 2⟩ := rfl
  have hqs : dayIntent.queries (.ofList []) = .ok [day] := rfl
  have hflows : Understood flows := by
    intro f hf
    obtain ⟨hour, -, rfl⟩ := List.mem_map.mp hf
    exact ⟨.allowed, (by decide : Verdict.parse "allowed" = .ok .allowed)⟩
  have hsuccess : Http.isSuccess 200 = true := by decide
  have hday : engineAnswers samplePce flows day _ :=
    engineAnswers_of_page samplePce (by decide) (by decide) hsuccess flows_wholePage
  have hleft : engineAnswers samplePce flows left _ :=
    engineAnswers_of_page samplePce (by decide) (by decide) hsuccess flows_leftPage
  have hright : engineAnswers samplePce flows right _ :=
    engineAnswers_of_page samplePce (by decide) (by decide) hsuccess flows_rightPage
  let leaf : Leaf := ⟨right.window, recordsOf [flowAtHour 18]⟩
  have htakes : Takes ⟨2, 2⟩ (.start day) day ⟨[], [], [], []⟩ :=
    @Takes.mk _ (.start day) [] [] day rfl
  have htakes₁ : Takes ⟨2, 2⟩ ⟨[left, right], [], [], []⟩ right ⟨[], [left], [], []⟩ :=
    @Takes.mk _ ⟨[left, right], [], [], []⟩ [left] [] right rfl
  have htakes₂ : Takes ⟨2, 2⟩ ⟨[], [left], [leaf], []⟩ left ⟨[], [], [leaf], []⟩ :=
    @Takes.mk _ ⟨[], [left], [leaf], []⟩ [] [] left rfl
  have hsplit : day.split? = some (left, right) := by decide
  have hhalves : Progress.settle 2 day (recordsOf [flowAtHour 6, flowAtHour 18]) ⟨[], [], [], []⟩
      = ⟨[left, right], [], [], []⟩ := by
    have hfull : 2 ≤ (recordsOf [flowAtHour 6, flowAtHour 18]).length := by decide
    simp only [Progress.settle, hfull, if_true, hsplit, List.nil_append]
  have hrun := Run.step (.settle htakes₂ hleft) (.done rfl)
  have hrun := Run.step (.settle htakes₁ hright) hrun
  rw [← hhalves] at hrun
  have hrun := Run.step (.settle htakes hday) hrun
  have h := FetchesAll.cons (.ended rfl hrun) .nil
  obtain ⟨o, ho, hrecords⟩ := fetchAll_engine_exact hi hsettings hqs hflows h
  cases ho
  refine ⟨_, _, _, _, _, _, hi, hsettings, hqs, h, rfl, rfl, ?_⟩
  exact hrecords rfl

end Pce

end TrafficDigest
