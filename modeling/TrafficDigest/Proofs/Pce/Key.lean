import TrafficDigest.Proofs.Pce.Congruence
import TrafficDigest.Proofs.Pce.Page

/-!
# The key is for authentication only

Two clients whose configurations differ in the key do the same: from sessions that differ in the
keys that were sent, they come to the same results and to sessions that differ in nothing else
(`agrees_collection`, `agrees_source`, `agrees_runAll`).  It is enough to look at a request
(`agrees_send`), because neither the addresses nor the errors depend on the key, and everything else
is made of requests.
-/

namespace TrafficDigest

namespace Http

/-- The request as it was sent, but for the key. -/
def Sent.withoutKey (sent : Sent) : Sent :=
  { sent with credentials := { sent.credentials with key := "" } }

/-- **Only the keys that were sent may differ.**  The requests are the same, each with its method,
address, query, headers and body, and so are the users, the times at which they were sent, the
replies that are still to come, and the clock. -/
structure Session.SameButKeys (s s' : Session) : Prop where
  replies : s.replies = s'.replies
  log : s.log.map Sent.withoutKey = s'.log.map Sent.withoutKey
  clock : s.clock = s'.clock

end Http

namespace Pce

open Http (Session)

variable {c : Config} {key path : String} {α : Type} {d : Json.Decoder α} {s s' : Session}

/-- The same configuration with another key. -/
def Config.withKey (c : Config) (key : String) : Config := { c with key }

/-! ## Requests -/

lemma next_eq (h : s.SameButKeys s') : s.next = s'.next := congrArg (List.headD · _) h.replies

lemma sameButKeys_after (h : s.SameButKeys s') (request : Http.Request) :
    (s.after (sentBy c s request)).SameButKeys
      (s'.after (sentBy (c.withKey key) s' request)) where
  replies := congrArg List.tail h.replies
  log := by
    have hsent : (sentBy c s request).withoutKey
        = (sentBy (c.withKey key) s' request).withoutKey := by
      rw [sentBy, h.clock]
      rfl
    simp only [Session.after, Array.map_push, h.log, hsent]
  clock := h.clock

lemma agrees_send (request : Http.Request) (what : String) :
    Agrees Session.SameButKeys (send c request what) (send (c.withKey key) request what) := by
  intro s s' h
  rw [run_send, run_send, next_eq h]
  exact ⟨rfl, sameButKeys_after h request⟩

lemma agrees_wait (seconds : Nat) :
    Agrees Session.SameButKeys ((Session.wait seconds : StateM Session Unit) : ClientM Unit)
      ((Session.wait seconds : StateM Session Unit) : ClientM Unit) := by
  intro s s' h
  exact ⟨rfl, h.replies, h.log, congrArg (· + seconds) h.clock⟩

/-! ## Calls -/

lemma agrees_collection :
    Agrees Session.SameButKeys (collection c path d) (collection (c.withKey key) path d) := by
  have hparts : Parts c (c.withKey key)
      fun α (m m' : ClientM α) => Agrees Session.SameButKeys m m' :=
    { congruence_agrees with
      send := agrees_send
      wait := agrees_wait
      apiRoot := rfl
      baseUrl := rfl }
  exact hparts.collection

lemma agrees_labels : Agrees Session.SameButKeys (labels c) (labels (c.withKey key)) :=
  congruence_agrees.bind agrees_collection fun ls =>
    congruence_agrees.result (.ok (LabelDirectory.ofList ls))

lemma agrees_workloads : Agrees Session.SameButKeys (workloads c) (workloads (c.withKey key)) :=
  congruence_agrees.bind agrees_collection fun ws =>
    congruence_agrees.result (.ok (WorkloadDirectory.ofList ws))

lemma agrees_traffic (q : FlowQuery) :
    Agrees Session.SameButKeys (traffic c q) (traffic (c.withKey key) q) := by
  intro s s' h
  rw [run_traffic, run_traffic, next_eq h]
  exact ⟨rfl, sameButKeys_after h _⟩

lemma agrees_source (q : FlowQuery) :
    Agrees Session.SameButKeys (source c q) (source (c.withKey key) q) := by
  intro s s' h
  rw [run_source, run_source, next_eq h]
  exact ⟨rfl, sameButKeys_after h _⟩

/-- **What a client can be asked to do** does not depend on the key. -/
lemma agrees_call (call : Call) (h : s.SameButKeys s') :
    ((call.run c).run s).1 = ((call.run (c.withKey key)).run s').1 ∧
      ((call.run c).run s).2.SameButKeys ((call.run (c.withKey key)).run s').2 := by
  cases call with
  | labels =>
      obtain ⟨hresult, hsession⟩ := @agrees_labels c key s s' h
      exact ⟨congrArg Answer.labels hresult, hsession⟩
  | workloads =>
      obtain ⟨hresult, hsession⟩ := @agrees_workloads c key s s' h
      exact ⟨congrArg Answer.workloads hresult, hsession⟩
  | traffic q =>
      obtain ⟨hresult, hsession⟩ := @agrees_traffic c key q s s' h
      exact ⟨congrArg Answer.traffic hresult, hsession⟩
  | fetch settings qs =>
      obtain ⟨hresult, hsession⟩ :=
        congruence_agrees.fetchAll (@agrees_source c key) settings qs s s' h
      exact ⟨congrArg Answer.fetch hresult, hsession⟩

lemma run_runAll_nil (c : Config) (s : Session) : (runAll c []).run s = ([], s) := by
  rw [runAll, List.mapM_nil]
  rfl

lemma run_runAll_cons (c : Config) (call : Call) (calls : List Call) (s : Session) :
    (runAll c (call :: calls)).run s =
      (((call.run c).run s).1 :: ((runAll c calls).run ((call.run c).run s).2).1,
        ((runAll c calls).run ((call.run c).run s).2).2) := by
  rw [runAll, List.mapM_cons]
  rfl

/-- **Calls one after the other** do not depend on the key. -/
theorem agrees_runAll (calls : List Call) (h : s.SameButKeys s') :
    ((runAll c calls).run s).1 = ((runAll (c.withKey key) calls).run s').1 ∧
      ((runAll c calls).run s).2.SameButKeys ((runAll (c.withKey key) calls).run s').2 := by
  induction calls generalizing s s' with
  | nil =>
      rw [run_runAll_nil, run_runAll_nil]
      exact ⟨rfl, h⟩
  | cons call calls ih =>
      obtain ⟨hfirst, hmiddle⟩ := agrees_call call h
      obtain ⟨hrest, hlast⟩ := ih hmiddle
      rw [run_runAll_cons, run_runAll_cons]
      exact ⟨congrArg₂ List.cons hfirst hrest, hlast⟩

end Pce

end TrafficDigest
