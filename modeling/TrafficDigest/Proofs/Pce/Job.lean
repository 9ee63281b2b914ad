import TrafficDigest.Proofs.Pce.Send

/-!
# How a job is waited for

A job prepares a collection.  Its status is asked for again and again, with a wait before each time,
until the job is done, fails, or has been asked for too often; a job that is done says where its
result is.  `JobPhase` has the rules for the exchanges in which this happens, and
`awaitJob_course` says that waiting for a job goes by them, whatever the replies are, by induction
on the number of times that are left to ask.
-/

namespace TrafficDigest.Pce

open Http (Exchange Course Reply Request Response Session)

variable {α : Type} {c : Config} {path href : String} {d : Json.Decoder α} {s s' : Session}
  {limit : Nat} {x y : Exchange} {polls : List Exchange} {result : Option Exchange}

/-! ## What replies say -/

/-- The objects on a page, or in the result of a job. -/
def items? (d : Json.Decoder α) (reply : Reply) : Option (List α) :=
  reply.document? (Json.Decoder.list d)

/-- The reply says that the job goes on. -/
def Pending (reply : Reply) : Prop :=
  ∃ j, reply.document? job.decode = some j ∧ j.isFailed = false ∧ j.isDone = false

/-- The reply says that the job is done and where its result is. -/
def DoneWith (reply : Reply) (href : String) : Prop :=
  ∃ j, reply.document? job.decode = some j ∧ j.isDone = true ∧ j.result = some href

/-- **The wait that a reply asks for:** as many seconds as it says, but between one and sixty, and
five if it does not say so in a way that can be read. -/
structure WaitAfter (reply : Reply) (seconds : Nat) : Prop where
  bounded : 1 ≤ seconds ∧ seconds ≤ 60
  asked : ∀ r n, reply = .response r → headerNumber? r "retry-after" = some n →
    seconds = min (max n 1) 60
  unasked : ∀ r, reply = .response r → headerNumber? r "retry-after" = none → seconds = 5

lemma waitAfter_retryAfter (r : Response) : WaitAfter (.response r) (retryAfter r) := by
  unfold retryAfter
  refine ⟨by omega, ?_, ?_⟩
  · rintro _ n ⟨⟩ hn
    rw [hn, Option.getD_some]
  · rintro _ ⟨⟩ hnone
    rw [hnone]
    decide

lemma Job.not_isDone_of_isFailed {j : Job} (hfailed : j.isFailed = true) : ¬j.isDone = true := by
  simp only [isFailed, isDone, beq_iff_eq] at *
  rw [hfailed]
  decide

/-- The request for what an href refers to. -/
def hrefRequest (c : Config) (href : String) : Request where
  method := .get
  url := hrefUrl c.apiRoot href

/-! ## The exchanges about a job -/

/-- **The rules for a job** whose status may be asked for `limit` times: there is a wait before
each time but the first, the reply to each but the last says that the job goes on, and there is a
request for the result exactly if the last reply says where that is. -/
structure JobPhase (c : Config) (href : String) (limit : Nat) (polls : List Exchange)
    (result : Option Exchange) : Prop where
  request : ∀ x ∈ polls, x.sent.request = hrefRequest c href
  limited : polls.length ≤ limit
  waits : polls.IsChain fun x y => WaitAfter x.reply (y.sent.time - x.sent.time)
  pending : ∀ x ∈ polls.dropLast, Pending x.reply
  patient : (∀ x ∈ polls.getLast?, Pending x.reply) → polls.length = limit
  result_iff : result.isSome ↔ ∃ x ∈ polls.getLast?, ∃ found, DoneWith x.reply found
  result_request : ∀ x ∈ polls.getLast?, ∀ found, DoneWith x.reply found → ∀ y ∈ result,
    y.sent.request = hrefRequest c found ∧ y.sent.time = x.sent.time

namespace JobPhase

lemma none_left : JobPhase c href 0 [] none := by
  constructor <;> simp

lemma ended (hx : x.sent.request = hrefRequest c href) (hpending : ¬Pending x.reply)
    (hdone : ∀ found, ¬DoneWith x.reply found) : JobPhase c href (limit + 1) [x] none := by
  constructor <;> simp_all

lemma fetched {found : String} (hx : x.sent.request = hrefRequest c href)
    (hdone : DoneWith x.reply found) (hy : y.sent.request = hrefRequest c found)
    (htime : y.sent.time = x.sent.time) : JobPhase c href (limit + 1) [x] (some y) := by
  obtain ⟨j, hj, hisDone, hresult⟩ := hdone
  constructor
  · simpa using hx
  · simp
  · simp
  · simp
  · intro h
    obtain ⟨j', hj', -, hnot⟩ := h x rfl
    cases hj.symm.trans hj'
    cases hisDone.symm.trans hnot
  · simp only [Option.isSome_some, true_iff]
    exact ⟨x, rfl, found, j, hj, hisDone, hresult⟩
  · rintro _ ⟨⟩ found' ⟨j', hj', -, hresult'⟩ _ ⟨⟩
    cases hj.symm.trans hj'
    cases hresult.symm.trans hresult'
    exact ⟨hy, htime⟩

/-- **The reply says that the job goes on**, and the rest goes by the rules. -/
lemma cons (hx : x.sent.request = hrefRequest c href) (hpending : Pending x.reply)
    (hwait : ∀ y ∈ polls.head?, WaitAfter x.reply (y.sent.time - x.sent.time))
    (hempty : polls = [] → limit = 0) (h : JobPhase c href limit polls result) :
    JobPhase c href (limit + 1) (x :: polls) result := by
  have hnot : ∀ found, ¬DoneWith x.reply found := by
    rintro found ⟨j, hj, hdone, -⟩
    obtain ⟨j', hj', -, hnot⟩ := hpending
    cases hj.symm.trans hj'
    cases hdone.symm.trans hnot
  -- what is said of the last exchange is said of the same one as before, unless there was none
  cases polls with
  | nil =>
      obtain rfl := hempty rfl
      have hnone : result = none := by
        rw [← Option.not_isSome_iff_eq_none, h.result_iff]
        simp
      constructor <;> simp_all
  | cons y polls =>
      have hlast : (x :: y :: polls).getLast? = (y :: polls).getLast? := by simp
      constructor
      · exact List.forall_mem_cons.mpr ⟨hx, h.request⟩
      · exact Nat.succ_le_succ h.limited
      · exact List.isChain_cons_cons.mpr ⟨hwait y rfl, h.waits⟩
      · rw [List.dropLast_cons_cons]
        exact List.forall_mem_cons.mpr ⟨hpending, h.pending⟩
      · rw [hlast]
        exact fun hall => congrArg (· + 1) (h.patient hall)
      · rw [hlast]
        exact h.result_iff
      · rw [hlast]
        exact h.result_request

end JobPhase

/-- When the last of some exchanges took place; some other time if there was none. -/
def timeOfLast (otherwise : Nat) (xs : List Exchange) : Nat :=
  (xs.getLast?.map (·.sent.time)).getD otherwise

lemma timeOfLast_cons (otherwise : Nat) (x : Exchange) (xs : List Exchange) :
    timeOfLast otherwise (x :: xs) = timeOfLast x.sent.time xs := by
  unfold timeOfLast
  rw [List.getLast?_cons]
  cases xs.getLast? <;> rfl

/-- **What happens while a job is waited for**, from one state of the session to another: exchanges
that go by the rules, of which the first comes after the given wait, and no wait after the last
one.  The objects are those in the reply to the request for the result. -/
structure JobCourse (c : Config) (href : String) (d : Json.Decoder α) (limit seconds : Nat)
    (s s' : Session) (r : Except ClientError (List α)) (polls : List Exchange)
    (result : Option Exchange) : Prop where
  course : Course s (polls ++ result.toList) s'
  phase : JobPhase c href limit polls result
  first : ∀ x ∈ polls.head?, x.sent.time = s.clock + seconds
  asks : polls = [] → limit = 0
  clock : s'.clock = timeOfLast s.clock (polls ++ result.toList)
  delivers : ∀ items, r = .ok items ↔ ∃ x ∈ result, items? d x.reply = some items

/-- The exchange in which the status of a job is asked for after a wait. -/
def pollOf (c : Config) (href : String) (seconds : Nat) (s : Session) : Exchange :=
  ⟨sentBy c (s.later seconds) (hrefRequest c href), s.next⟩

lemma course_pollOf (c : Config) (href : String) (seconds : Nat) (s : Session) :
    Course s [pollOf c href seconds s] ((s.later seconds).after (pollOf c href seconds s).sent) :=
  .wait seconds (.single rfl)

namespace JobCourse

variable {seconds : Nat} {r : Except ClientError (List α)}

lemma ended {e : ClientError} (hpending : ¬Pending s.next)
    (hdone : ∀ found, ¬DoneWith s.next found) :
    JobCourse c href d (limit + 1) seconds s
      ((s.later seconds).after (pollOf c href seconds s).sent) (.error e)
      [pollOf c href seconds s] none where
  course := course_pollOf c href seconds s
  phase := .ended rfl hpending hdone
  first := by simp [pollOf, sentBy, Session.later]
  asks := by simp
  clock := rfl
  delivers := by simp

lemma fetched {found : String} {s₁ : Session} (hdone : DoneWith s.next found)
    (hs₁ : s₁ = (s.later seconds).after (pollOf c href seconds s).sent)
    (hitems : ∀ items, r = .ok items ↔ items? d s₁.next = some items) :
    JobCourse c href d (limit + 1) seconds s (s₁.after (sentBy c s₁ (hrefRequest c found))) r
      [pollOf c href seconds s] (some ⟨sentBy c s₁ (hrefRequest c found), s₁.next⟩) where
  course := by
    subst hs₁
    exact (course_pollOf c href seconds s).trans (.single rfl)
  phase := by
    subst hs₁
    exact .fetched rfl hdone rfl rfl
  first := by simp [pollOf, sentBy, Session.later]
  asks := by simp
  clock := rfl
  delivers := by simpa using hitems

lemma cons {resp : Response} (hnext : s.next = .response resp) (hpending : Pending s.next)
    (h : JobCourse c href d limit (retryAfter resp)
      ((s.later seconds).after (pollOf c href seconds s).sent) s' r polls result) :
    JobCourse c href d (limit + 1) seconds s s' r (pollOf c href seconds s :: polls) result where
  course := (course_pollOf c href seconds s).trans h.course
  phase := by
    refine h.phase.cons rfl hpending (fun y hy => ?_) h.asks
    have htime : y.sent.time - (pollOf c href seconds s).sent.time = retryAfter resp := by
      rw [h.first y hy]
      exact Nat.add_sub_cancel_left ..
    rw [htime, pollOf, hnext]
    exact waitAfter_retryAfter resp
  first := by simp [pollOf, sentBy, Session.later]
  asks := by simp
  clock := by
    rw [List.cons_append, timeOfLast_cons]
    exact h.clock
  delivers := h.delivers

end JobCourse

/-- The result of a job is asked for if the job says where it is. -/
lemma of_run_jobResult {j : Job} {r : Except ClientError (List α)}
    (h : (jobResult c path href d j).run.run s = (r, s')) :
    (j.result = none ∧ s' = s ∧ ∃ e, r = .error e) ∨
      ∃ found, j.result = some found ∧ s' = s.after (sentBy c s (hrefRequest c found)) ∧
        ∀ items, r = .ok items ↔ items? d s.next = some items := by
  unfold jobResult at h
  cases hresult : j.result with
  | none =>
      rw [hresult] at h
      cases h
      exact Or.inl ⟨rfl, rfl, _, rfl⟩
  | some found =>
      rw [hresult] at h
      simp only at h
      refine Or.inr ⟨found, rfl, ?_⟩
      rw [← bind_pure (send c _ _ >>= _), bind_assoc] at h
      rcases of_run_ask h with ⟨hnone, hs, e, rfl⟩ | ⟨resp, items, -, hitems, h⟩
      · exact ⟨hs, by simp [items?, hnone]⟩
      · cases h
        exact ⟨rfl, by simp [items?, hitems]⟩

/-- **Waiting for a job goes by the rules**, whatever the replies are. -/
lemma awaitJob_course {seconds : Nat} {r : Except ClientError (List α)}
    (h : (awaitJob c path href d limit seconds).run.run s = (r, s')) :
    ∃ polls result, JobCourse c href d limit seconds s s' r polls result := by
  induction limit generalizing seconds s with
  | zero =>
      cases h
      exact ⟨[], none, .refl _, .none_left, by simp, by simp, rfl, by simp⟩
  | succ limit ih =>
      rw [awaitJob] at h
      -- no status, one that says failed, one that says done, or one that says neither
      rcases of_run_ask (s := s.later seconds) h with
        ⟨hnone, rfl, e, rfl⟩ | ⟨resp, j, hresp, hj, h⟩
      · refine ⟨_, _, .ended ?_ ?_⟩
        · rintro ⟨j, hj, -⟩
          cases hnone.symm.trans hj
        · rintro found ⟨j, hj, -⟩
          cases hnone.symm.trans hj
      by_cases hfailed : j.isFailed = true
      · rw [if_pos hfailed] at h
        cases h
        refine ⟨_, _, .ended ?_ ?_⟩
        · rintro ⟨j', hj', hnot, -⟩
          cases hj.symm.trans hj'
          cases hfailed.symm.trans hnot
        · rintro found ⟨j', hj', hdone, -⟩
          cases hj.symm.trans hj'
          exact Job.not_isDone_of_isFailed hfailed hdone
      rw [if_neg hfailed] at h
      by_cases hdone : j.isDone = true
      · rw [if_pos hdone] at h
        rcases of_run_jobResult h with ⟨hnone, rfl, e, rfl⟩ | ⟨found, hfound, rfl, hitems⟩
        · refine ⟨_, _, .ended ?_ ?_⟩
          · rintro ⟨j', hj', -, hnot⟩
            cases hj.symm.trans hj'
            cases hdone.symm.trans hnot
          · rintro found ⟨j', hj', -, hresult⟩
            cases hj.symm.trans hj'
            cases hnone.symm.trans hresult
        · exact ⟨_, _, .fetched ⟨j, hj, hdone, hfound⟩ rfl hitems⟩
      · rw [if_neg hdone] at h
        obtain ⟨polls, result, hrest⟩ := ih h
        refine ⟨_, _, .cons (Reply.eq_response_of_success? hresp) ⟨j, hj, ?_, ?_⟩ hrest⟩
        · simpa using hfailed
        · simpa using hdone

end TrafficDigest.Pce
