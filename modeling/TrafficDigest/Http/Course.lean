import TrafficDigest.Http

/-!
# The course of a session

A session keeps a log of what was sent.  Its course, between two of its states, also says which
reply each request got.  `Http.Course` has one case for each thing that can be done in a session,
so a course is all that happened: what was sent is what the log has gained, and the replies are
those that were to come.
-/

namespace TrafficDigest.Http

/-- A request as it was sent, with the reply that it got. -/
structure Exchange where
  sent : Sent
  reply : Reply

namespace Session

/-- The reply to the request that is sent next. -/
def next (s : Session) : Reply := s.replies.headD exhausted

/-- The session after a request was sent. -/
def after (s : Session) (sent : Sent) : Session :=
  { s with replies := s.replies.tail, log := s.log.push sent }

/-- The session after a wait. -/
def later (s : Session) (seconds : Nat) : Session := { s with clock := s.clock + seconds }

end Session

/-- **From one state of a session to a later one by these exchanges**, with waits between them. -/
inductive Course : Session → List Exchange → Session → Prop
  | refl (s : Session) : Course s [] s
  | send {s s' : Session} {xs : List Exchange} {sent : Sent} (time : sent.time = s.clock)
      (h : Course (s.after sent) xs s') : Course s (⟨sent, s.next⟩ :: xs) s'
  | wait {s s' : Session} {xs : List Exchange} (seconds : Nat)
      (h : Course (s.later seconds) xs s') : Course s xs s'

namespace Course

variable {s s' s'' : Session} {xs ys : List Exchange}

/-- One request. -/
theorem single {sent : Sent} (time : sent.time = s.clock) :
    Course s [⟨sent, s.next⟩] (s.after sent) :=
  .send time (.refl _)

/-- One course after the other. -/
theorem trans (h : Course s xs s') (h' : Course s' ys s'') : Course s (xs ++ ys) s'' := by
  induction h with
  | refl => exact h'
  | send time _ ih => exact .send time (ih h')
  | wait seconds _ ih => exact .wait seconds (ih h')

/-- What was sent is what the log has gained. -/
theorem log_eq (h : Course s xs s') : s'.log.toList = s.log.toList ++ xs.map (·.sent) := by
  induction h with
  | refl => simp
  | send _ _ ih => simp [ih, Session.after]
  | wait _ _ ih => exact ih

/-- Every reply was to come, unless none was left. -/
theorem reply_mem (h : Course s xs s') :
    ∀ x ∈ xs, x.reply ∈ s.replies ∨ x.reply = Session.exhausted := by
  induction h with
  | refl => simp
  | @send s s' xs sent time _ ih =>
    refine List.forall_mem_cons.2 ⟨?_, fun x hx => ?_⟩
    · cases hr : s.replies <;> simp [Session.next, hr]
    · exact (ih x hx).imp_left List.mem_of_mem_tail
  | wait _ _ ih => exact ih

/-- The first reply was the next one. -/
theorem head_reply (h : Course s xs s') : ∀ x ∈ xs.head?, x.reply = s.next := by
  induction h with
  | refl => simp
  | send => simp
  | wait _ _ ih => exact ih

end Course

end TrafficDigest.Http
