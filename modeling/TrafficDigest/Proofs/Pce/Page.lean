import TrafficDigest.Proofs.Fetch.Confluence
import TrafficDigest.Proofs.Fetch.Windows
import TrafficDigest.Proofs.Pce.Send

/-!
# Pages of flows and truncation

The limit of a traffic query applies to the flows in the reply, its *page*.  The client leaves out
the flows whose verdict it does not understand, and a fetch judges truncation by the records that
are left.  So a full page may pass for a complete answer.

* `answers_source` — the policy engine as a source answers with the `reading` of some reply, and
  any reply may come at any time.
* `exists_page` — a reply that is read as records has a page, with as many understood flows as
  there are records.
* `nothingSilent_iff` — windows without a warning had short pages exactly as long as no full page
  lost so many flows that what was left fell below the threshold.
* `silent_truncation` — a run in which that happens.
-/

namespace TrafficDigest.Pce

open Http (Reply Response Session)
open Fetch

/-! ## Replies as answers -/

/-- The flows in the body of a reply. -/
def flows? (r : Response) : Option (List ObservedFlow) :=
  (Json.read? r.body).bind (Json.Decoder.list observedFlow.decode)

/-- **What the client makes of the reply to a traffic query.** -/
def trafficAnswer (c : Config) (reply : Reply) : Except ClientError (List FlowRecord) :=
  (checked c "traffic query" reply).bind fun r =>
    match flows? r with
    | some flows => .ok (recordsOf flows)
    | none => .error .badTraffic

/-- The same, with the errors of a source of flows. -/
def reading (c : Config) : Reading Reply := fun _ reply =>
  (trafficAnswer c reply).mapError fun e => .sourceFailure e.message

lemma reading_response (c : Config) (q : FlowQuery) {r : Response} {flows : List ObservedFlow}
    (hsuccess : Http.isSuccess r.status = true) (h : flows? r = some flows) :
    reading c q (.response r) = .ok (recordsOf flows) := by
  simp only [reading, trafficAnswer, checked, hsuccess, if_true, Except.bind, h]
  rfl

/-- The request for the flows of a query. -/
def trafficRequest (c : Config) (q : FlowQuery) : Http.Request where
  method := .post
  url := c.baseUrl ++ "/traffic_flows/traffic_analysis_queries"
  body := some (queryBody q)

/-- **A query is posted and the next reply is its answer.** -/
lemma run_traffic (c : Config) (q : FlowQuery) (s : Session) :
    (traffic c q).run.run s
      = (trafficAnswer c s.next, s.after (sentBy c s (trafficRequest c q))) := by
  unfold traffic
  simp only
  rw [run_bind, run_send]
  unfold trafficAnswer
  cases checked c "traffic query" s.next with
  | error e => rfl
  | ok r =>
      unfold decodeOr
      simp only [Except.bind, flows?]
      rw [run_bind]
      cases (Json.read? r.body).bind (Json.Decoder.list observedFlow.decode) <;> rfl

lemma run_source (c : Config) (q : FlowQuery) (s : Session) :
    (source c q).run.run s
      = (reading c q s.next, s.after (sentBy c s (trafficRequest c q))) := by
  show (((traffic c q).run.run s).1.mapError fun e => FlowError.sourceFailure e.message,
    ((traffic c q).run.run s).2) = _
  rw [run_traffic]
  rfl

/-- **The answers of a policy engine** are the readings of all replies. -/
theorem answers_source (c : Config) : Answers.ofSource (source c) = .ofReading (reading c) := by
  funext q a
  apply propext
  constructor
  · rintro ⟨s, rfl⟩
    exact ⟨s.next, by rw [run_source]⟩
  · rintro ⟨reply, rfl⟩
    exact ⟨{ replies := [reply] }, by rw [run_source]; rfl⟩

/-- Every state that a fetch from a policy engine may come to has a history of replies. -/
theorem exists_history {c : Config} {settings : Settings} {q : FlowQuery} {p : Progress}
    (h : Reachable (Answers.ofSource (source c)) settings q p) :
    ∃ log, History (reading c) settings q log p := by
  rw [answers_source] at h
  exact h.exists_history

/-! ## Pages -/

/-- The page of a reply: the items of the array in its body. -/
def page? : Reply → Option (List Json)
  | .response r =>
    match Json.read? r.body with
    | some (.array items) => some items
    | _ => none
  | _ => none

/-- The item of a page is a flow with a verdict that is understood. -/
def isUnderstood (item : Json) : Bool :=
  (observedFlow.decode item).any fun f => (Verdict.parse f.decision).toOption.isSome

lemma isSome_toRecord (f : ObservedFlow) :
    f.toRecord.toOption.isSome = (Verdict.parse f.decision).toOption.isSome := by
  unfold ObservedFlow.toRecord
  cases Verdict.parse f.decision <;> rfl

/-- One record is made of each flow that is understood. -/
lemma length_recordsOf {items : List Json} {flows : List ObservedFlow}
    (h : items.mapM observedFlow.decode = some flows) :
    flows.length = items.length ∧ (recordsOf flows).length = items.countP isUnderstood := by
  induction items generalizing flows with
  | nil =>
      cases h
      exact ⟨rfl, rfl⟩
  | cons item items ih =>
      rw [List.mapM_cons, Option.bind_eq_bind, Option.bind_eq_some_iff] at h
      obtain ⟨f, hf, h⟩ := h
      obtain ⟨fs, hfs, h⟩ := Option.bind_eq_some_iff.mp h
      cases h
      obtain ⟨hlen, hcount⟩ := ih hfs
      refine ⟨by rw [List.length_cons, List.length_cons, hlen], ?_⟩
      have hitem : isUnderstood item = f.toRecord.toOption.isSome := by
        rw [isUnderstood, hf, Option.any_some, isSome_toRecord]
      rw [List.countP_cons, hitem, ← hcount]
      unfold recordsOf
      cases hrec : f.toRecord.toOption <;> simp [hrec]

lemma page_of_flows {r : Response} {flows : List ObservedFlow} (h : flows? r = some flows) :
    ∃ items, page? (.response r) = some items ∧ flows.length = items.length ∧
      (recordsOf flows).length = items.countP isUnderstood := by
  obtain ⟨json, hjson, hflows⟩ := Option.bind_eq_some_iff.mp h
  cases json with
  | array items => exact ⟨items, by simp only [page?, hjson], length_recordsOf hflows⟩
  | _ => cases hflows

/-- **A reply that is read as records has a page**, with as many understood flows as there are
records. -/
theorem exists_page {c : Config} {q : FlowQuery} {reply : Reply} {records : List FlowRecord}
    (h : reading c q reply = .ok records) :
    ∃ items, page? reply = some items ∧ records.length = items.countP isUnderstood := by
  cases reply with
  | unsent text => cases h
  | unreadable text => cases h
  | response r =>
      simp only [reading, trafficAnswer, checked] at h
      split at h
      · simp only [Except.bind] at h
        cases hflows : flows? r with
        | none =>
            rw [hflows] at h
            cases h
        | some flows =>
            rw [hflows] at h
            cases h
            obtain ⟨items, hitems, -, hcount⟩ := page_of_flows hflows
            exact ⟨items, hitems, hcount⟩
      · cases h

/-! ## Truncation -/

variable {c : Config} {settings : Settings} {q : FlowQuery} {log : List (Exchange Reply)}
  {p : Progress}

/-- **Nothing was cut silently:** every leaf without a warning was answered with a page that stayed
below the threshold. -/
def NothingSilent (threshold : Nat) (log : List (Exchange Reply)) (p : Progress) : Prop :=
  ∀ l ∈ p.leaves, (∀ t ∈ p.truncated, t.window ≠ l.window) →
    ∃ x ∈ log, x.query.window = l.window ∧
      ∃ items, page? x.reply = some items ∧ items.length < threshold

/-- **Nothing was cut silently exactly if every page that reached the threshold still did without
the flows that are not understood.** -/
theorem nothingSilent_iff (h : History (reading c) settings q log p) :
    NothingSilent settings.threshold log p ↔
      ∀ x ∈ log, ∀ items, page? x.reply = some items → settings.threshold ≤ items.length →
        settings.threshold ≤ items.countP isUnderstood := by
  constructor
  · intro hsilent x hx items hitems hfull
    by_contra hlost
    obtain ⟨records, hr, hleaf⟩ := h.leaf_or_full x hx
    obtain ⟨items', hitems', hcount⟩ := exists_page hr
    cases hitems.symm.trans hitems'
    -- the page was full but its records were not, so it became a leaf without a warning
    have hleaf : ⟨x.query.window, records⟩ ∈ p.leaves := hleaf.resolve_right (by omega)
    have hshort : records.length < settings.threshold := by omega
    have hunwarned := (h.reachable.unwarned_iff hleaf).mpr hshort
    obtain ⟨y, hy, hwindow, items'', hitems'', hshort'⟩ := hsilent _ hleaf hunwarned
    obtain rfl := h.exchange_inj hy hx hwindow
    cases hitems.symm.trans hitems''
    omega
  · intro hpages l hl hunwarned
    have hshort := (h.reachable.unwarned_iff hl).mp hunwarned
    obtain ⟨x, hx, hwindow, hr⟩ := h.exists_exchange l hl
    obtain ⟨items, hitems, hcount⟩ := exists_page hr
    refine ⟨x, hx, hwindow, items, hitems, ?_⟩
    by_contra hfull
    have := hpages x hx items hitems (by omega)
    omega

/-! ### A full page with one flow that is not understood -/

/-- A policy engine. -/
def samplePce : Config where
  fqdn := "pce.example.com"
  user := "api_1"
  key := "secret"

/-- The start of the given hour of 2024, as an instant. -/
def hourOf2024 (hour : Nat) : Instant := .ofNanos ((1704067200 + 3600 * hour) * nanosPerSecond)

/-- A query for the flows of the first two days of 2024, with at most two to an answer. -/
def twoDays : FlowQuery :=
  fourNanos.withWindow ⟨hourOf2024 0, hourOf2024 48, by decide⟩

/-- A flow as it is reported, in pieces of text. -/
def reportedFlow (ip connections decision time : String) : List String :=
  ["\x7b\"src\":\x7b\"ip\":\"", ip, "\"\x7d,\"dst\":\x7b\"ip\":\"10.0.0.9\"\x7d,",
    "\"service\":\x7b\"port\":443,\"proto\":6\x7d,\"num_connections\":", connections,
    ",\"policy_decision\":\"", decision, "\",\"timestamp_range\":\x7b\"first_detected\":\"", time,
    "\",\"last_detected\":\"", time, "\"\x7d\x7d"]

/-- Two flows; the word for the verdict of the second is not known. -/
def mixedPage : Response where
  status := 200
  headers := []
  body := String.join (["["] ++ reportedFlow "10.0.0.1" "12" "allowed" "2024-01-01T06:00:00Z" ++
    [","] ++ reportedFlow "10.0.0.2" "1" "unknown" "2024-01-01T07:00:00Z" ++ ["]"])

/-- The flows of that page. -/
def mixedFlows : List ObservedFlow :=
  [⟨⟨"10.0.0.1", none⟩, ⟨"10.0.0.9", none⟩, ⟨443, 6⟩, 12, "allowed", hourOf2024 6, hourOf2024 6⟩,
    ⟨⟨"10.0.0.2", none⟩, ⟨"10.0.0.9", none⟩, ⟨443, 6⟩, 1, "unknown", hourOf2024 7, hourOf2024 7⟩]

lemma flows_mixedPage : flows? mixedPage = some mixedFlows := by
  rw [flows?, Json.read?, mixedPage, String.toList_join]
  decide +kernel

/-- One page is enough for all of the two days if its records stay below the threshold. -/
lemma history_mixedPage {threshold : Nat} (h : 1 < threshold) :
    History (reading samplePce) ⟨threshold, 1⟩ twoDays [⟨twoDays, .response mixedPage⟩]
      ⟨[], [], [⟨twoDays.window, recordsOf mixedFlows⟩], []⟩ := by
  have hw : Takes ⟨threshold, 1⟩ (.start twoDays) twoDays ⟨[], [], [], []⟩ :=
    @Takes.mk _ (.start twoDays) [] [] twoDays rfl
  have hr := reading_response samplePce twoDays (show Http.isSuccess 200 = true by decide)
    flows_mixedPage
  have hstep := History.step .start hw hr
  have hshort : ¬threshold ≤ (recordsOf mixedFlows).length := Nat.not_le.mpr h
  simpa only [Progress.settle, hshort, if_false, List.nil_append] using hstep

/-- **A fetch that cuts silently:** it ends after one page, which is full, and has no warning. -/
theorem silent_truncation :
    ∃ log p, History (reading samplePce) ⟨2, 1⟩ twoDays log p ∧ p.inPlay = [] ∧
      p.truncated = [] ∧ ¬NothingSilent 2 log p := by
  refine ⟨_, _, history_mixedPage (by decide), rfl, rfl, fun hsilent => ?_⟩
  obtain ⟨x, hx, -, items, hitems, hshort⟩ := hsilent _ (List.mem_singleton_self _) (by simp)
  rw [List.mem_singleton.mp hx] at hitems
  obtain ⟨items', hitems', hlen, -⟩ := page_of_flows flows_mixedPage
  cases hitems.symm.trans hitems'
  exact absurd (hlen.symm ▸ hshort) (by decide)

/-- With a threshold that the page does not reach the same answer is complete. -/
theorem nothingSilent_mixedPage :
    ∃ log p, History (reading samplePce) ⟨3, 1⟩ twoDays log p ∧ NothingSilent 3 log p := by
  have h := history_mixedPage (show 1 < 3 by decide)
  refine ⟨_, _, h, (nothingSilent_iff h).mpr fun x hx items hitems hfull => ?_⟩
  rw [List.mem_singleton.mp hx] at hitems
  obtain ⟨items', hitems', hlen, -⟩ := page_of_flows flows_mixedPage
  cases hitems.symm.trans hitems'
  exact absurd (hlen.symm ▸ hfull) (by decide)

end TrafficDigest.Pce
