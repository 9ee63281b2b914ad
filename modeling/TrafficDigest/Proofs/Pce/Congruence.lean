import TrafficDigest.Pce.Client
import TrafficDigest.Proofs.Run

/-!
# What fetches and collections are made of

A fetch asks its source and goes on from what it answers.  A call for a collection sends requests,
waits, and decodes.  So what passes from the parts of programs to the whole holds of two fetches if
it holds of their sources (`Congruence.fetchAll`), and of two calls for a collection if it holds of
sending and of waiting, as long as both ask for the same addresses (`Parts.collection`).
-/

namespace TrafficDigest

/-! ## Fetches -/

namespace Fetch

variable {σ : Type} (source : Source σ) {settings : Settings} {p : Progress}

lemma drain_of_nil (h : (p.fill settings.limit).inFlight = []) :
    drain source settings p = ExceptT.mk (pure (.ok (p.fill settings.limit))) := by
  rw [drain]
  split
  · rfl
  · rename_i heq
    cases h.symm.trans heq

lemma drain_of_cons {q : FlowQuery} {rest : List FlowQuery}
    (h : (p.fill settings.limit).inFlight = q :: rest) :
    drain source settings p = source q >>= fun records => drain source settings
      (({ p.fill settings.limit with inFlight := rest } : Progress).settle
        settings.threshold q records) := by
  rw [drain]
  split
  · rename_i heq
    cases h.symm.trans heq
  · rename_i heq
    cases h.symm.trans heq
    rfl

end Fetch

namespace Congruence

variable {σ : Type}
  {P : (α : Type) → ExceptT FlowError (StateM σ) α → ExceptT FlowError (StateM σ) α → Prop}
  {source source' : Source σ}

lemma drain (hP : Congruence P) (hsource : ∀ q, P _ (source q) (source' q))
    (settings : Fetch.Settings) (p : Fetch.Progress) :
    P _ (Fetch.drain source settings p) (Fetch.drain source' settings p) := by
  induction p using Fetch.drain.induct settings with
  | case1 p h =>
      rw [Fetch.drain_of_nil source h, Fetch.drain_of_nil source' h]
      exact hP.result _
  | case2 p q rest h ih =>
      rw [Fetch.drain_of_cons source h, Fetch.drain_of_cons source' h]
      exact hP.bind (hsource q) ih

/-- **Fetches are alike if their sources are.** -/
theorem fetchAll (hP : Congruence P) (hsource : ∀ q, P _ (source q) (source' q))
    (settings : Fetch.Settings) (qs : List FlowQuery) :
    P _ (Fetch.fetchAll source settings qs) (Fetch.fetchAll source' settings qs) := by
  have hfetch (q : FlowQuery) :
      P _ (Fetch.fetch source settings q) (Fetch.fetch source' settings q) :=
    hP.bind (hP.result _) fun _ => hP.bind (hP.drain hsource settings _) fun p =>
      hP.result (.ok p.outcome)
  induction qs with
  | nil => exact hP.result (.ok ({} : Fetch.Outcome))
  | cons q qs ih =>
      refine hP.bind (hfetch q) fun first => hP.bind ih fun others => ?_
      exact hP.result (.ok (first ++ others))

end Congruence

/-! ## Collections -/

namespace Pce

open Http (Session)

variable {c c' : Config} {P : (α : Type) → ClientM α → ClientM α → Prop} {α : Type}
  {path href : String} {d : Json.Decoder α}

/-- **A relation between what two clients do** that holds of sending and waiting.  The clients ask
for the same addresses. -/
structure Parts (c c' : Config) (P : (α : Type) → ClientM α → ClientM α → Prop) : Prop
    extends Congruence P where
  send : ∀ request what, P _ (Pce.send c request what) (Pce.send c' request what)
  wait : ∀ seconds, P _ ((Session.wait seconds : StateM Session Unit) : ClientM Unit)
    ((Session.wait seconds : StateM Session Unit) : ClientM Unit)
  apiRoot : c.apiRoot = c'.apiRoot
  baseUrl : c.baseUrl = c'.baseUrl

namespace Parts

lemma decodeOr (h : Parts c c' P) {text : String} {e : ClientError} :
    P _ (Pce.decodeOr d text e) (Pce.decodeOr d text e) := by
  unfold Pce.decodeOr
  split
  · exact h.result (.ok _)
  · exact h.result (.error e)

lemma jobResult (h : Parts c c' P) {j : Job} :
    P _ (Pce.jobResult c path href d j) (Pce.jobResult c' path href d j) := by
  unfold Pce.jobResult
  rw [h.apiRoot]
  split
  · exact h.result (.error _)
  · exact h.bind (h.send _ _) fun _ => h.decodeOr

lemma awaitJob (h : Parts c c' P) {polls seconds : Nat} :
    P _ (Pce.awaitJob c path href d polls seconds) (Pce.awaitJob c' path href d polls seconds) := by
  induction polls generalizing seconds with
  | zero => exact h.result (.error _)
  | succ polls ih =>
      unfold Pce.awaitJob
      rw [h.apiRoot]
      refine h.bind (h.wait _) fun _ => h.bind (h.send _ _) fun r => h.bind h.decodeOr fun j => ?_
      split_ifs
      · exact h.result (.error _)
      · exact h.jobResult
      · exact ih

lemma wholeCollection (h : Parts c c' P) :
    P _ (Pce.wholeCollection c path d) (Pce.wholeCollection c' path d) := by
  unfold Pce.wholeCollection
  rw [h.baseUrl]
  refine h.bind (h.send _ _) fun r => ?_
  split
  · exact h.result (.error _)
  · exact h.awaitJob

/-- **Calls for a collection are alike if sending and waiting are.** -/
theorem collection (h : Parts c c' P) :
    P _ (Pce.collection c path d) (Pce.collection c' path d) := by
  unfold Pce.collection
  rw [h.baseUrl]
  refine h.bind (h.send _ _) fun r => h.bind h.decodeOr fun page => ?_
  split
  · exact h.result (.ok page)
  split_ifs
  · exact h.result (.ok page)
  refine h.bind h.wholeCollection fun whole => ?_
  split_ifs
  · exact h.result (.error _)
  · exact h.result (.ok whole)

end Parts

end Pce

end TrafficDigest
