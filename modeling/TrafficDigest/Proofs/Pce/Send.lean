import TrafficDigest.Http.Course
import TrafficDigest.Pce.Client
import TrafficDigest.Proofs.Run

/-!
# What comes of a request

A request takes the next reply of the session, and the reply decides what comes of it: `run_send`
for any request, and `run_ask` for one whose reply is read as a document.
-/

namespace TrafficDigest

namespace Http.Reply

/-- The response in a reply that reports success. -/
def success? : Reply → Option Response
  | .response r => if isSuccess r.status then some r else none
  | _ => none

lemma eq_response_of_success? {reply : Reply} {r : Response} (h : reply.success? = some r) :
    reply = .response r := by
  cases reply with
  | response r' =>
      simp only [success?, Option.ite_none_right_eq_some, Option.some.injEq] at h
      rw [h.2]
  | _ => cases h

/-- What the body of a reply that reports success decodes to. -/
def document? {β : Type} (d : Json.Decoder β) (reply : Reply) : Option β :=
  reply.success?.bind fun r => (Json.read? r.body).bind d

end Http.Reply

namespace Pce

open Http (Reply Request Response Sent Session Course)

/-- What a reply amounts to when its request is called `what` in errors. -/
def checked (c : Config) (what : String) : Reply → Except ClientError Response
  | .unsent text => .error (.unreachable c.displayName text)
  | .unreadable text => .error (.unreadable text)
  | .response r =>
    if Http.isSuccess r.status then .ok r else .error (.refused r.status what r.body)

lemma checked_eq_ok {c : Config} {what : String} {reply : Reply} {r : Response} :
    checked c what reply = .ok r ↔ reply.success? = some r := by
  cases reply with
  | response r' =>
      simp only [checked, Reply.success?]
      cases Http.isSuccess r'.status <;> simp
  | _ => simp [checked, Reply.success?]

/-- A request as the client sends it. -/
def sentBy (c : Config) (s : Session) (request : Request) : Sent :=
  ⟨request, ⟨c.user, c.key⟩, c.disableTlsVerification, s.clock⟩

/-- **A request is sent as it is and takes the next reply.** -/
lemma run_send (c : Config) (request : Request) (what : String) (s : Session) :
    (send c request what).run.run s = (checked c what s.next, s.after (sentBy c s request)) := by
  obtain ⟨_ | ⟨reply, replies⟩, log, clock⟩ := s
  · rfl
  cases reply with
  | unsent text => rfl
  | unreadable text => rfl
  | response r =>
      show StateT.run (ExceptT.run
        (if Http.isSuccess r.status = true then (pure r : ClientM Response) else throw _)) _ = _
      simp only [checked, Session.next, List.headD_cons]
      cases Http.isSuccess r.status <;> rfl

variable {β γ : Type} {c : Config} {request : Request} {what : String} {d : Json.Decoder β}
  {s s' : Session}

/-- Going on after a request needs a reply that reports success. -/
lemma of_run_send {k : Response → ClientM γ} {result : Except ClientError γ}
    (h : (send c request what >>= k).run.run s = (result, s')) :
    (s.next.success? = none ∧ s' = s.after (sentBy c s request) ∧ ∃ e, result = .error e) ∨
      ∃ r, s.next.success? = some r ∧
        (k r).run.run (s.after (sentBy c s request)) = (result, s') := by
  rw [run_bind, run_send] at h
  cases hr : checked c what s.next with
  | error e =>
      rw [hr] at h
      cases h
      refine Or.inl ⟨Option.eq_none_iff_forall_ne_some.mpr fun r hsome => ?_, rfl, e, rfl⟩
      cases hr.symm.trans (checked_eq_ok.mpr hsome)
  | ok r =>
      rw [hr] at h
      exact Or.inr ⟨r, checked_eq_ok.mp hr, h⟩

/-- **Going on after a request for a document** needs a reply that holds one. -/
lemma of_run_ask {e : ClientError} {k : Response → β → ClientM γ} {result : Except ClientError γ}
    (h : (send c request what >>= fun r => decodeOr d r.body e >>= k r).run.run s
      = (result, s')) :
    (s.next.document? d = none ∧ s' = s.after (sentBy c s request) ∧ ∃ e, result = .error e) ∨
      ∃ r b, s.next.success? = some r ∧ s.next.document? d = some b ∧
        (k r b).run.run (s.after (sentBy c s request)) = (result, s') := by
  rcases of_run_send h with ⟨hnone, hs, herror⟩ | ⟨r, hr, h⟩
  · exact Or.inl ⟨by rw [Reply.document?, hnone, Option.bind_none], hs, herror⟩
  · have hdocument : s.next.document? d = (Json.read? r.body).bind d := by
      rw [Reply.document?, hr, Option.bind_some]
    unfold decodeOr at h
    cases hb : (Json.read? r.body).bind d with
    | none =>
        rw [hb] at h
        cases h
        exact Or.inl ⟨hdocument.trans hb, rfl, e, rfl⟩
    | some b =>
        rw [hb] at h
        exact Or.inr ⟨r, b, hr, hdocument.trans hb, h⟩

end Pce

end TrafficDigest
