import Mathlib.Data.List.Basic
import TrafficDigest.Proofs.Pce.Job

/-!
# How a collection is asked for

A call for a collection is a short protocol: a page, and if that falls short, a job, its status
again and again, and its result.  The exchanges of a call are put in order by what they are for, in
a `Conversation`, and the rules of the protocol, `Conversation.Follows`, are said of that.

* `collection_course` — every call goes by the rules, and what it delivers comes from the page or
  from the result of the job.
* `calls_go_by_protocol` — so do the calls for labels and for workloads, whatever the replies are,
  and they end within the bounds.
-/

namespace TrafficDigest.Pce

open Http (Exchange Course Reply Request Response Session)

variable {α : Type} {c : Config} {path : String} {d : Json.Decoder α} {s s' : Session}
  {x : Exchange} {polls : List Exchange} {result : Option Exchange}

/-! ## What replies say -/

/-- How many objects the reply announces. -/
def announced? : Reply → Option Nat
  | .response r => totalCount? r
  | _ => none

/-- The reply is a page that announces more objects than it holds. -/
def FallsShort (d : Json.Decoder α) (reply : Reply) : Prop :=
  ∃ items total, items? d reply = some items ∧ announced? reply = some total ∧
    items.length < total

/-- Where the reply says that the job is. -/
def jobHref? (reply : Reply) : Option String := reply.success?.bind (·.headerText? "location")

/-! ## Requests -/

def pageRequest (c : Config) (path : String) : Request where
  method := .get
  url := c.baseUrl ++ path
  query := [("max_results", "100000")]

/-- The request for a job. -/
def jobRequest (c : Config) (path : String) : Request where
  method := .get
  url := c.baseUrl ++ path
  headers := [("Prefer", "respond-async")]

/-! ## The exchanges of a call -/

/-- The exchanges of a call for a collection, by what they are for. -/
structure Conversation where
  page : Exchange
  /-- The request for a job. -/
  order : Option Exchange := none
  polls : List Exchange := []
  result : Option Exchange := none

namespace Conversation

/-- The exchanges in their order. -/
def exchanges (v : Conversation) : List Exchange :=
  v.page :: (v.order.toList ++ (v.polls ++ v.result.toList))

/-- The request for the result is the last. -/
lemma getLast?_exchanges {v : Conversation} (h : v.result = some x) :
    v.exchanges.getLast? = some x := by
  rw [exchanges, h, Option.toList_some, ← List.append_assoc, ← List.cons_append,
    List.getLast?_concat]

/-- **The rules for a call.**  There is a request for a page first, one for a job exactly if the
page falls short, and requests about the job exactly if the reply to that one says where the job
is.  Those go by the rules for a job, whose status may be asked for 360 times, each time after a
wait. -/
structure Follows (c : Config) (path : String) (d : Json.Decoder α) (v : Conversation) : Prop where
  page_request : v.page.sent.request = pageRequest c path
  order_iff : v.order.isSome ↔ FallsShort d v.page.reply
  order_request : ∀ o ∈ v.order, o.sent.request = jobRequest c path ∧
    o.sent.time = v.page.sent.time
  polls_iff : v.polls ≠ [] ↔ ∃ o ∈ v.order, ∃ href, jobHref? o.reply = some href
  polls_result : v.polls = [] → v.result = none
  job : ∀ o ∈ v.order, ∀ href, jobHref? o.reply = some href →
    JobPhase c href 360 v.polls v.result ∧
      ∀ x ∈ v.polls.head?, WaitAfter o.reply (x.sent.time - o.sent.time)

end Conversation

/-- What happens while a job is ordered and waited for. -/
structure OrderCourse (c : Config) (path : String) (d : Json.Decoder α) (s s' : Session)
    (r : Except ClientError (List α)) (order : Exchange) (polls : List Exchange)
    (result : Option Exchange) : Prop where
  course : Course s (order :: (polls ++ result.toList)) s'
  request : order.sent.request = jobRequest c path ∧ order.sent.time = s.clock
  polls_iff : polls ≠ [] ↔ ∃ href, jobHref? order.reply = some href
  polls_result : polls = [] → result = none
  job : ∀ href, jobHref? order.reply = some href → JobPhase c href 360 polls result ∧
    ∀ x ∈ polls.head?, WaitAfter order.reply (x.sent.time - order.sent.time)
  clock : s'.clock = timeOfLast s.clock (order :: (polls ++ result.toList))
  delivers : ∀ items, r = .ok items ↔ ∃ x ∈ result, items? d x.reply = some items

/-- Ordering a job and waiting for it goes by the rules. -/
lemma wholeCollection_course {r : Except ClientError (List α)}
    (h : (wholeCollection c path d).run.run s = (r, s')) :
    ∃ order polls result, OrderCourse c path d s s' r order polls result := by
  -- the reply says where the job is, or the call is over
  let order : Exchange := ⟨sentBy c s (jobRequest c path), s.next⟩
  have ended : jobHref? s.next = none → s' = s.after order.sent → (∃ e, r = .error e) →
      ∃ order polls result, OrderCourse c path d s s' r order polls result := by
    rintro hnone rfl ⟨e, rfl⟩
    refine ⟨order, [], none, .single rfl, ⟨rfl, rfl⟩, ?_, fun _ => rfl, ?_, rfl, by simp⟩
    · simp [order, hnone]
    · intro href hhref
      cases hnone.symm.trans hhref
  rcases of_run_send h with ⟨hnone, hs, he⟩ | ⟨resp, hresp, h⟩
  · exact ended (by rw [jobHref?, hnone, Option.bind_none]) hs he
  have hhref : jobHref? s.next = resp.headerText? "location" := by
    rw [jobHref?, hresp, Option.bind_some]
  cases hlocation : resp.headerText? "location" with
  | none =>
      rw [hlocation] at h
      cases h
      exact ended (hhref.trans hlocation) rfl ⟨_, rfl⟩
  | some href =>
      rw [hlocation] at h
      obtain ⟨polls, result, hjob⟩ := awaitJob_course h
      have hne : polls ≠ [] := fun hnil => absurd (hjob.asks hnil) (by decide)
      refine ⟨order, polls, result, ?_, ⟨rfl, rfl⟩, ?_, fun hnil => absurd hnil hne, ?_, ?_,
        hjob.delivers⟩
      · exact (Course.single rfl).trans hjob.course
      · exact iff_of_true hne ⟨href, hhref.trans hlocation⟩
      · intro href' hhref'
        cases (hhref.trans hlocation).symm.trans hhref'
        refine ⟨hjob.phase, fun x hx => ?_⟩
        have htime : x.sent.time - order.sent.time = retryAfter resp := by
          rw [hjob.first x hx]
          exact Nat.add_sub_cancel_left ..
        have hreply : order.reply = .response resp := Reply.eq_response_of_success? hresp
        rw [htime, hreply]
        exact waitAfter_retryAfter resp
      · rw [timeOfLast_cons]
        exact hjob.clock

/-- **The call supplies these objects:** they are in its last reply, which is the page, or the
result of the job if one was ordered, and they are no fewer than the first reply announced. -/
def Conversation.Supplies (d : Json.Decoder α) (v : Conversation) (items : List α) : Prop :=
  (∃ x, v.exchanges.getLast? = some x ∧ (v.order = none ∨ v.result = some x) ∧
    items? d x.reply = some items) ∧
  ∀ total, announced? v.page.reply = some total → total ≤ items.length

/-- **What happens in a call for a collection**, from one state of the session to another.  What
comes of it is what its exchanges supply. -/
structure CallCourse (c : Config) (path : String) (d : Json.Decoder α) (s s' : Session)
    (r : Except ClientError (List α)) (v : Conversation) : Prop where
  course : Course s v.exchanges s'
  follows : v.Follows c path d
  time : v.page.sent.time = s.clock
  clock : s'.clock = timeOfLast s.clock v.exchanges
  delivers : ∀ items, r = .ok items ↔ v.Supplies d items

/-- The page is all that is asked for. -/
lemma CallCourse.page {r : Except ClientError (List α)} (hshort : ¬FallsShort d s.next)
    (hitems : ∀ items, r = .ok items ↔ items? d s.next = some items) :
    CallCourse c path d s (s.after (sentBy c s (pageRequest c path))) r
      { page := ⟨sentBy c s (pageRequest c path), s.next⟩ } where
  course := .single rfl
  follows := by
    refine ⟨rfl, ?_, by simp, by simp, fun _ => rfl, by simp⟩
    simpa using hshort
  time := rfl
  clock := rfl
  delivers := by
    intro items
    rw [hitems]
    constructor
    · intro h
      refine ⟨⟨_, rfl, Or.inl rfl, h⟩, fun total htotal => ?_⟩
      by_contra hless
      exact hshort ⟨items, total, h, htotal, by omega⟩
    · rintro ⟨⟨_, ⟨⟩, -, h⟩, -⟩
      exact h

/-- The page falls short, so a job is ordered. -/
lemma CallCourse.ordered {r whole : Except ClientError (List α)} {order : Exchange}
    (hshort : FallsShort d s.next)
    (h : OrderCourse c path d (s.after (sentBy c s (pageRequest c path))) s' whole order polls
      result)
    (hr : ∀ items, r = .ok items ↔ whole = .ok items ∧
      ∀ total, announced? s.next = some total → total ≤ items.length) :
    CallCourse c path d s s' r
      ⟨⟨sentBy c s (pageRequest c path), s.next⟩, some order, polls, result⟩ where
  course := (Course.single rfl).trans h.course
  follows := by
    refine ⟨rfl, iff_of_true rfl hshort, ?_, ?_, h.polls_result, ?_⟩
    · rintro _ ⟨⟩
      exact h.request
    · simpa using h.polls_iff
    · rintro _ ⟨⟩
      exact h.job
  time := rfl
  clock := by
    show _ = timeOfLast s.clock (_ :: order :: (polls ++ result.toList))
    rw [timeOfLast_cons]
    exact h.clock
  delivers := by
    intro items
    rw [hr, h.delivers]
    refine and_congr_left fun _ => ⟨?_, ?_⟩
    · rintro ⟨x, hx, hitems⟩
      exact ⟨x, Conversation.getLast?_exchanges hx, Or.inr hx, hitems⟩
    · rintro ⟨x, -, hnone | hx, hitems⟩
      · cases hnone
      · exact ⟨x, hx, hitems⟩

/-- **A call goes by the rules**, whatever the replies are. -/
theorem collection_course (c : Config) (path : String) (d : Json.Decoder α) (s : Session) :
    ∃ v, CallCourse c path d s ((collection c path d).run.run s).2
      ((collection c path d).run.run s).1 v := by
  rcases h : (collection c path d).run.run s with ⟨r, s'⟩
  show ∃ v, CallCourse c path d s s' r v
  rcases of_run_ask h with ⟨hnone, rfl, e, rfl⟩ | ⟨resp, items, hresp, hitems, h⟩
  · refine ⟨_, .page ?_ (by simp [items?, hnone])⟩
    rintro ⟨items, -, hitems, -⟩
    cases hnone.symm.trans hitems
  have htotal : announced? s.next = totalCount? resp := by
    rw [Reply.eq_response_of_success? hresp, announced?]
  cases hcount : totalCount? resp with
  | none =>
      rw [hcount] at h
      cases h
      refine ⟨_, .page ?_ ?_⟩
      · rintro ⟨-, total, -, hsome, -⟩
        cases (htotal.trans hcount).symm.trans hsome
      · simp [items?, hitems]
  | some total =>
      rw [hcount] at h
      simp only at h
      by_cases hall : total ≤ items.length
      · rw [if_pos hall] at h
        cases h
        refine ⟨_, .page ?_ ?_⟩
        · rintro ⟨items', total', hitems', hsome, hless⟩
          cases hitems.symm.trans hitems'
          cases (htotal.trans hcount).symm.trans hsome
          omega
        · simp [items?, hitems]
      · rw [if_neg hall] at h
        have hshort : FallsShort d s.next :=
          ⟨items, total, hitems, htotal.trans hcount, Nat.not_le.mp hall⟩
        rcases of_run_bind h with ⟨e, hwhole, rfl⟩ | ⟨whole, middle, hwhole, h⟩
        · obtain ⟨order, polls, result, hcourse⟩ := wholeCollection_course hwhole
          exact ⟨_, .ordered hshort hcourse (by simp)⟩
        obtain ⟨order, polls, result, hcourse⟩ := wholeCollection_course hwhole
        have hannounced : announced? s.next = some total := htotal.trans hcount
        by_cases hless : whole.length < total
        · rw [if_pos hless] at h
          cases h
          refine ⟨_, .ordered hshort hcourse fun items => iff_of_false (by simp) ?_⟩
          rintro ⟨⟨⟩, hcomplete⟩
          exact absurd (hcomplete total hannounced) (Nat.not_le.mpr hless)
        · rw [if_neg hless] at h
          cases h
          refine ⟨_, .ordered hshort hcourse fun items => (and_iff_left_of_imp ?_).symm⟩
          rintro ⟨⟩ total' htotal'
          cases hannounced.symm.trans htotal'
          exact Nat.not_lt.mp hless

/-! ## What the rules come to -/

/-- **The reply leads on:** it is a success, and it holds a page that falls short, or the place of
a job, or the status of a job that goes on or is done with a result. -/
def LeadsOn (d : Json.Decoder α) (reply : Reply) : Prop :=
  reply.success?.isSome ∧ (FallsShort d reply ∨ (jobHref? reply).isSome ∨ Pending reply ∨
    ∃ found, DoneWith reply found)

lemma isSome_success_of_bind {β : Type} {reply : Reply} {f : Response → Option β} {b : β}
    (h : reply.success?.bind f = some b) : reply.success?.isSome := by
  obtain ⟨r, hr, -⟩ := Option.bind_eq_some_iff.mp h
  rw [hr]
  rfl

namespace Conversation.Follows

variable {v : Conversation}

lemma of_order_none (h : v.Follows c path d) (hnone : v.order = none) :
    v.polls = [] ∧ v.result = none := by
  have hpolls : v.polls = [] := by
    by_contra hne
    obtain ⟨o, ho, -⟩ := h.polls_iff.mp hne
    cases hnone.symm.trans ho
  exact ⟨hpolls, h.polls_result hpolls⟩

lemma exists_phase (h : v.Follows c path d) (hne : v.polls ≠ []) :
    ∃ href, JobPhase c href 360 v.polls v.result := by
  obtain ⟨o, ho, href, hhref⟩ := h.polls_iff.mp hne
  exact ⟨href, (h.job o ho href hhref).1⟩

lemma length_polls_le (h : v.Follows c path d) : v.polls.length ≤ 360 := by
  by_cases hnil : v.polls = []
  · simp [hnil]
  · obtain ⟨href, hphase⟩ := h.exists_phase hnil
    exact hphase.limited

lemma length_exchanges_le (h : v.Follows c path d) : v.exchanges.length ≤ 363 := by
  have hpolls := h.length_polls_le
  have horder : v.order.toList.length ≤ 1 := by cases v.order <;> simp
  have hresult : v.result.toList.length ≤ 1 := by cases v.result <;> simp
  simp only [exchanges, List.length_cons, List.length_append]
  omega

lemma method_eq_get (h : v.Follows c path d) :
    ∀ x ∈ v.exchanges, x.sent.request.method = .get := by
  have hjob : ∀ x ∈ v.polls ++ v.result.toList, x.sent.request.method = .get := by
    by_cases hnil : v.polls = []
    · simp [hnil, h.polls_result hnil]
    obtain ⟨href, hphase⟩ := h.exists_phase hnil
    intro x hx
    rcases List.mem_append.mp hx with hx | hx
    · rw [hphase.request x hx]
      rfl
    · have hx : v.result = some x := Option.mem_toList.mp hx
      obtain ⟨last, hlast, found, hdone⟩ := hphase.result_iff.mp (by rw [hx]; rfl)
      rw [(hphase.result_request last hlast found hdone x hx).1]
      rfl
  refine List.forall_mem_cons.mpr ⟨?_, List.forall_mem_append.mpr ⟨fun o ho => ?_, hjob⟩⟩
  · rw [h.page_request]
    rfl
  · rw [(h.order_request o (Option.mem_toList.mp ho)).1]
    rfl

/-- Every reply about a job but the last of the call leads on. -/
lemma leadsOn_polls (h : v.Follows c path d) :
    ∀ x ∈ (v.polls ++ v.result.toList).dropLast, LeadsOn d x.reply := by
  by_cases hnil : v.polls = []
  · simp [hnil, h.polls_result hnil]
  obtain ⟨href, hphase⟩ := h.exists_phase hnil
  have hpending : ∀ x ∈ v.polls.dropLast, LeadsOn d x.reply := by
    intro x hx
    obtain ⟨j, hj, hrest⟩ := hphase.pending x hx
    exact ⟨isSome_success_of_bind hj, Or.inr (Or.inr (Or.inl ⟨j, hj, hrest⟩))⟩
  cases hresult : v.result with
  | none => simpa [hresult] using hpending
  | some y =>
      obtain ⟨last, hlast, found, j, hj, hrest⟩ := hphase.result_iff.mp (by rw [hresult]; rfl)
      rw [Option.toList_some, List.dropLast_concat]
      intro x hx
      rw [← List.dropLast_append_getLast? last hlast] at hx
      rcases List.mem_append.mp hx with hx | hx
      · exact hpending x hx
      · rw [List.mem_singleton.mp hx]
        exact ⟨isSome_success_of_bind hj, Or.inr (Or.inr (Or.inr ⟨found, j, hj, hrest⟩))⟩

/-- **Every reply but the last of a call leads on.** -/
lemma leadsOn (h : v.Follows c path d) : ∀ x ∈ v.exchanges.dropLast, LeadsOn d x.reply := by
  cases horder : v.order with
  | none =>
      obtain ⟨hpolls, hresult⟩ := h.of_order_none horder
      simp [exchanges, horder, hpolls, hresult]
  | some o =>
      have hpage : LeadsOn d v.page.reply := by
        obtain ⟨items, total, hitems, hrest⟩ := h.order_iff.mp (by rw [horder]; rfl)
        exact ⟨isSome_success_of_bind hitems, Or.inl ⟨items, total, hitems, hrest⟩⟩
      have hexchanges : v.exchanges = v.page :: o :: (v.polls ++ v.result.toList) := by
        rw [exchanges, horder]
        rfl
      rw [hexchanges, List.dropLast_cons_cons]
      refine List.forall_mem_cons.mpr ⟨hpage, ?_⟩
      by_cases hnil : v.polls = []
      · simp [hnil, h.polls_result hnil]
      obtain ⟨o', ho', href, hhref⟩ := h.polls_iff.mp hnil
      cases horder.symm.trans ho'
      rw [List.dropLast_cons_of_ne_nil (by simp [hnil])]
      refine List.forall_mem_cons.mpr ⟨?_, h.leadsOn_polls⟩
      exact ⟨isSome_success_of_bind hhref, Or.inr (Or.inl (by rw [hhref]; rfl))⟩

end Conversation.Follows

/-! ## Calls -/

lemma run_labels (c : Config) (s : Session) :
    (labels c).run.run s = (((collection c "/labels" label.decode).run.run s).1.map .ofList,
      ((collection c "/labels" label.decode).run.run s).2) := by
  unfold labels
  rw [run_bind]
  rcases (collection c "/labels" label.decode).run.run s with ⟨e | ls, s'⟩ <;> rfl

lemma run_workloads (c : Config) (s : Session) :
    (workloads c).run.run s
      = (((collection c "/workloads" workload.decode).run.run s).1.map .ofList,
        ((collection c "/workloads" workload.decode).run.run s).2) := by
  unfold workloads
  rw [run_bind]
  rcases (collection c "/workloads" workload.decode).run.run s with ⟨e | ws, s'⟩ <;> rfl

/-- **There were requests between two states of a session**, and nothing was posted. -/
def Asks (s s' : Session) : Prop :=
  ∃ xs, Course s xs s' ∧ xs ≠ [] ∧ ∀ x ∈ xs, x.sent.request.method = .get

lemma Asks.trans {s s' s'' : Session} (h : Asks s s') (h' : Asks s' s'') : Asks s s'' := by
  obtain ⟨xs, hcourse, hne, hget⟩ := h
  obtain ⟨ys, hcourse', -, hget'⟩ := h'
  exact ⟨xs ++ ys, hcourse.trans hcourse', List.append_ne_nil_of_left_ne_nil hne ys,
    List.forall_mem_append.mpr ⟨hget, hget'⟩⟩

lemma CallCourse.asks {r : Except ClientError (List α)} {v : Conversation}
    (h : CallCourse c path d s s' r v) : Asks s s' :=
  ⟨v.exchanges, h.course, List.cons_ne_nil _ _, h.follows.method_eq_get⟩

lemma asks_of_labels {r : Except ClientError LabelDirectory}
    (h : (labels c).run.run s = (r, s')) : Asks s s' := by
  rw [run_labels] at h
  cases h
  obtain ⟨v, hv⟩ := collection_course c "/labels" label.decode s
  exact hv.asks

lemma asks_of_workloads {r : Except ClientError WorkloadDirectory}
    (h : (workloads c).run.run s = (r, s')) : Asks s s' := by
  rw [run_workloads] at h
  cases h
  obtain ⟨v, hv⟩ := collection_course c "/workloads" workload.decode s
  exact hv.asks

/-- **A call between two states of a session goes by the protocol.**  Its exchanges follow the rules
from the first moment on, and no wait comes after the last of them.  There are at most 363 of them,
and at most 360 with a wait before it.  Every reply but the last leads on.  A call that ordered a
job succeeds only if the last reply is that to the request for the result, and holds objects. -/
structure GoesByProtocol (c : Config) (path : String) (d : Json.Decoder α) (s s' : Session)
    (succeeds : Prop) (v : Conversation) : Prop where
  course : Course s v.exchanges s'
  follows : v.Follows c path d
  start : v.page.sent.time = s.clock
  stop : s'.clock = timeOfLast s.clock v.exchanges
  bounded : v.exchanges.length ≤ 363 ∧ v.polls.length ≤ 360
  leadsOn : ∀ x ∈ v.exchanges.dropLast, LeadsOn d x.reply
  fetched : succeeds → v.order.isSome → ∃ x, v.result = some x ∧
    v.exchanges.getLast? = some x ∧ (items? d x.reply).isSome

lemma CallCourse.goesByProtocol {r : Except ClientError (List α)} {v : Conversation}
    (h : CallCourse c path d s s' r v) :
    GoesByProtocol c path d s s' (∃ items, r = .ok items) v where
  course := h.course
  follows := h.follows
  start := h.time
  stop := h.clock
  bounded := ⟨h.follows.length_exchanges_le, h.follows.length_polls_le⟩
  leadsOn := h.follows.leadsOn
  fetched := by
    rintro ⟨items, hok⟩ horder
    obtain ⟨⟨x, hlast, hnone | hx, hitems⟩, -⟩ := (h.delivers items).mp hok
    · rw [hnone] at horder
      cases horder
    · exact ⟨x, hx, hlast, by rw [hitems]; rfl⟩

/-- **Calls for labels and workloads go by the protocol**, whatever the configuration, the state of
the session and the replies to come. -/
theorem calls_go_by_protocol (c : Config) (s : Session) :
    (∃ v, GoesByProtocol c "/labels" label.decode s ((labels c).run.run s).2
      (∃ directory, ((labels c).run.run s).1 = .ok directory) v) ∧
    ∃ v, GoesByProtocol c "/workloads" workload.decode s ((workloads c).run.run s).2
      (∃ directory, ((workloads c).run.run s).1 = .ok directory) v := by
  rw [run_labels, run_workloads]
  obtain ⟨v, hv⟩ := collection_course c "/labels" label.decode s
  obtain ⟨w, hw⟩ := collection_course c "/workloads" workload.decode s
  simp only [map_eq_ok, exists_comm, exists_and_left, exists_eq', and_true]
  exact ⟨⟨v, hv.goesByProtocol⟩, w, hw.goesByProtocol⟩

end TrafficDigest.Pce
