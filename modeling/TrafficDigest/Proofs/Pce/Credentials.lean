import TrafficDigest.Proofs.Pce.Congruence
import TrafficDigest.Proofs.Pce.Directory
import TrafficDigest.Proofs.Pce.Page

/-!
# Where the credentials go

Every request carries the credentials of the configuration, so it matters where requests go.  All
but two kinds go to addresses below that of the policy engine.  The requests about a job and for its
result go where an earlier reply says, and a reply may name another host: an href that has a scheme
is an address itself.

* `Led` — the request goes to an address that an earlier reply named in full.
* `safe_collection`, `safe_source` — each call for a collection or for flows sends only requests
  that go to the policy engine or are led elsewhere.
* `moves_fetchAll` — so does a fetch, which is made of such calls.
-/

namespace TrafficDigest

/-- **A fetch changes the state only as its source does.** -/
lemma Fetch.moves_fetchAll {σ : Type} {R : σ → σ → Prop} [IsPreorder σ R] {source : Source σ}
    (settings : Settings) (hsource : ∀ q, Moves R (source q)) (qs : List FlowQuery) :
    Moves R (fetchAll source settings qs) :=
  @Congruence.fetchAll σ _ source source congruence_moves hsource settings qs

namespace Pce

open Http (Course Exchange Reply Sent Session)

variable {α : Type} {c : Config} {path href : String} {d : Json.Decoder α} {s s' : Session}
  {x y : Exchange} {xs ys : List Exchange}

/-! ## Addresses -/

/-- The address is below that of the policy engine. -/
def AtHome (c : Config) (url : String) : Prop := ∃ rest, url = c.apiRoot ++ rest

/-- The href has a scheme, so it is an address itself. -/
def IsAbsolute (href : String) : Prop :=
  href.startsWith "http://" = true ∨ href.startsWith "https://" = true

lemma atHome_baseUrl (c : Config) (path : String) : AtHome c (c.baseUrl ++ path) :=
  ⟨"/orgs/" ++ toString c.org.toNat ++ path, by simp only [Config.baseUrl, String.append_assoc]⟩

lemma hrefUrl_cases (root href : String) :
    IsAbsolute href ∧ hrefUrl root href = href ∨ hrefUrl root href = root ++ href := by
  unfold hrefUrl IsAbsolute
  split_ifs with h
  · exact Or.inl ⟨by simpa using h, rfl⟩
  · exact Or.inr rfl

/-- The reply says that a job, or the result of one, is under the href. -/
def Names (reply : Reply) (href : String) : Prop :=
  jobHref? reply = some href ∨ DoneWith reply href

/-- **The request was led away:** it gets what an earlier reply gave the full address of. -/
def Led (xs : List Exchange) (x : Exchange) : Prop :=
  ∃ y href, [y, x].Sublist xs ∧ Names y.reply href ∧ IsAbsolute href ∧
    x.sent.request = { method := .get, url := href }

lemma Led.mono (h : Led xs x) (hsublist : xs.Sublist ys) : Led ys x := by
  obtain ⟨y, href, hbefore, hrest⟩ := h
  exact ⟨y, href, hbefore.trans hsublist, hrest⟩

/-- A request for what an earlier reply refers to. -/
lemma atHome_or_led (hbefore : [y, x].Sublist xs) (hnames : Names y.reply href)
    (hx : x.sent.request = hrefRequest c href) : AtHome c x.sent.request.url ∨ Led xs x := by
  rcases hrefUrl_cases c.apiRoot href with ⟨habsolute, hurl⟩ | hurl
  · refine Or.inr ⟨y, href, hbefore, hnames, habsolute, ?_⟩
    rw [hx, hrefRequest, hurl]
  · refine Or.inl ⟨href, ?_⟩
    rw [hx, hrefRequest, hurl]

/-- **The requests of a call for a collection** go to the policy engine, or are led away by the
reply that gave the place of the job or of its result. -/
lemma Conversation.Follows.atHome_or_led {v : Conversation} (h : v.Follows c path d) :
    ∀ x ∈ v.exchanges, AtHome c x.sent.request.url ∨ Led v.exchanges x := by
  have horder : ∀ o ∈ v.order.toList, AtHome c o.sent.request.url := by
    intro o ho
    rw [(h.order_request o (Option.mem_toList.mp ho)).1]
    exact atHome_baseUrl c path
  have hjob : ∀ x ∈ v.polls ++ v.result.toList,
      AtHome c x.sent.request.url ∨ Led v.exchanges x := by
    by_cases hnil : v.polls = []
    · simp [hnil, h.polls_result hnil]
    obtain ⟨o, ho, href, hhref⟩ := h.polls_iff.mp hnil
    obtain ⟨hphase, -⟩ := h.job o ho href hhref
    have hexchanges : v.exchanges = v.page :: o :: (v.polls ++ v.result.toList) := by
      rw [exchanges, Option.mem_def.mp ho]
      rfl
    rw [hexchanges]
    intro x hx
    rcases List.mem_append.mp hx with hpoll | hresult
    · -- the place of the job is in the reply to the request for it
      have hbefore : [o, x].Sublist (o :: (v.polls ++ v.result.toList)) :=
        (List.singleton_sublist.mpr hx).cons_cons o
      exact Pce.atHome_or_led (hbefore.cons _) (Or.inl hhref) (hphase.request x hpoll)
    · -- the place of the result is in the last reply about the job
      have hsome : v.result.isSome := by
        rw [Option.mem_toList.mp hresult]
        rfl
      obtain ⟨last, hlast, found, hdone⟩ := hphase.result_iff.mp hsome
      have hrequest := (hphase.result_request last hlast found hdone x
        (Option.mem_toList.mp hresult)).1
      have hbefore : [last, x].Sublist (v.polls ++ v.result.toList) :=
        (List.singleton_sublist.mpr (List.mem_of_getLast? hlast)).append
          (List.singleton_sublist.mpr hresult)
      exact Pce.atHome_or_led ((hbefore.cons _).cons _) (Or.inr hdone) hrequest
  refine List.forall_mem_cons.mpr ⟨Or.inl ?_, List.forall_mem_append.mpr ⟨?_, hjob⟩⟩
  · rw [h.page_request]
    exact atHome_baseUrl c path
  · exact fun o ho => Or.inl (horder o ho)

/-! ## Credentials -/

/-- All that was sent in between carries the credentials. -/
def Signed (c : Config) (s s' : Session) : Prop :=
  ∃ sents, s'.log.toList = s.log.toList ++ sents ∧
    ∀ sent ∈ sents, sent.credentials = ⟨c.user, c.key⟩

instance : IsPreorder Session (Signed c) where
  refl s := ⟨[], by simp, by simp⟩
  trans := by
    rintro s s' s'' ⟨sents, hlog, hsents⟩ ⟨sents', hlog', hsents'⟩
    refine ⟨sents ++ sents', ?_, List.forall_mem_append.mpr ⟨hsents, hsents'⟩⟩
    rw [hlog', hlog, List.append_assoc]

lemma signed_send {request : Http.Request} {what : String} :
    Moves (Signed c) (send c request what) := by
  intro s
  rw [run_send]
  exact ⟨[sentBy c s request], by simp [Session.after], by simp [sentBy]⟩

lemma signed_wait {seconds : Nat} :
    Moves (Signed c) ((Session.wait seconds : StateM Session Unit) : ClientM Unit) :=
  fun _ => ⟨[], (List.append_nil _).symm, by simp⟩

/-- **A call for a collection signs all it sends.** -/
lemma signed_collection : Moves (Signed c) (collection c path d) := by
  have hparts : Parts c c fun α (m _ : ClientM α) => Moves (Signed c) m :=
    { congruence_moves with
      send := fun _ _ => signed_send
      wait := fun _ => signed_wait
      apiRoot := rfl
      baseUrl := rfl }
  exact hparts.collection

/-- What was sent in a course carries the credentials if all that was sent does. -/
lemma Signed.credentials (h : Signed c s s') (hcourse : Course s xs s') :
    ∀ x ∈ xs, x.sent.credentials = ⟨c.user, c.key⟩ := by
  obtain ⟨sents, hlog, hsents⟩ := h
  have hsame : xs.map (·.sent) = sents :=
    List.append_cancel_left (hcourse.log_eq.symm.trans hlog)
  intro x hx
  exact hsents _ (hsame ▸ List.mem_map_of_mem hx)

/-! ## Calls -/

/-- **Requests carry the credentials and go to the policy engine, or are led away.** -/
def Safe (c : Config) (s s' : Session) : Prop :=
  ∃ xs, Course s xs s' ∧ ∀ x ∈ xs, x.sent.credentials = ⟨c.user, c.key⟩ ∧
    (AtHome c x.sent.request.url ∨ Led xs x)

instance : IsPreorder Session (Safe c) where
  refl s := ⟨[], .refl s, by simp⟩
  trans := by
    rintro s s' s'' ⟨xs, hcourse, hxs⟩ ⟨ys, hcourse', hys⟩
    refine ⟨xs ++ ys, hcourse.trans hcourse', List.forall_mem_append.mpr ⟨?_, ?_⟩⟩
    · intro x hx
      exact (hxs x hx).imp_right fun h => h.imp_right fun h => h.mono (List.sublist_append_left ..)
    · intro y hy
      exact (hys y hy).imp_right fun h => h.imp_right fun h => h.mono (List.sublist_append_right ..)

lemma safe_collection (c : Config) (path : String) (d : Json.Decoder α) :
    Moves (Safe c) (collection c path d) := by
  intro s
  obtain ⟨v, hv⟩ := collection_course c path d s
  have hsigned := (signed_collection s).credentials hv.course
  exact ⟨v.exchanges, hv.course, fun x hx => ⟨hsigned x hx, hv.follows.atHome_or_led x hx⟩⟩

lemma safe_post (c : Config) (q : FlowQuery) (s : Session) :
    Safe c s (s.after (sentBy c s (trafficRequest c q))) := by
  refine ⟨_, .single rfl, ?_⟩
  simp only [List.mem_singleton, forall_eq]
  exact ⟨rfl, Or.inl (atHome_baseUrl c _)⟩

lemma safe_source (c : Config) (q : FlowQuery) : Moves (Safe c) (source c q) := by
  intro s
  rw [run_source]
  exact safe_post c q s

/-- What one call does to the session. -/
lemma safe_call (c : Config) (call : Call) (s : Session) : Safe c s ((call.run c).run s).2 := by
  cases call with
  | labels =>
      show Safe c s ((labels c).run.run s).2
      rw [run_labels]
      exact safe_collection c "/labels" label.decode s
  | workloads =>
      show Safe c s ((workloads c).run.run s).2
      rw [run_workloads]
      exact safe_collection c "/workloads" workload.decode s
  | traffic q =>
      show Safe c s ((traffic c q).run.run s).2
      rw [run_traffic]
      exact safe_post c q s
  | fetch settings qs => exact Fetch.moves_fetchAll settings (safe_source c) qs s

/-- What calls do to the session, one after the other. -/
lemma safe_runAll (c : Config) (calls : List Call) (s : Session) :
    Safe c s ((runAll c calls).run s).2 := by
  unfold runAll
  induction calls generalizing s with
  | nil => exact refl_of (Safe c) s
  | cons call calls ih =>
      rw [List.mapM_cons]
      exact trans_of (Safe c) (safe_call c call s) (ih _)

/-- **The credentials go to the policy engine, or where a reply leads.**  Whatever the configuration,
the calls, the state of the session and the replies to come, every request carries the credentials,
and its address is below that of the policy engine unless it gets a job or its result from an
address that an earlier reply gave in full. -/
theorem credentials_go_home_or_are_led (c : Config) (calls : List Call) (s : Session) :
    ∃ xs, Course s xs ((runAll c calls).run s).2 ∧
      ∀ x ∈ xs, x.sent.credentials = ⟨c.user, c.key⟩ ∧
        (AtHome c x.sent.request.url ∨ Led xs x) :=
  safe_runAll c calls s

/-- Replies of which the second has the job on another host. -/
def abroad : Session where
  replies := [success [("x-total-count", "2")] "[]",
    success [("location", "http://other.example.com/jobs/7")] ""]

/-- **Credentials are sent to another host**, without encryption, when a reply leads there. -/
theorem credentials_sent_abroad :
    ∃ sent ∈ ((runAll samplePce [.labels]).run abroad).2.log.toList,
      sent.credentials = ⟨samplePce.user, samplePce.key⟩ ∧
        ¬AtHome samplePce sent.request.url := by
  have hlog : ((runAll samplePce [.labels]).run abroad).2.log.toList.map
        (fun sent => (sent.request.url, sent.credentials))
      = [("https://pce.example.com:8443/api/v2/orgs/1/labels", ⟨"api_1", "secret"⟩),
        ("https://pce.example.com:8443/api/v2/orgs/1/labels", ⟨"api_1", "secret"⟩),
        ("http://other.example.com/jobs/7", ⟨"api_1", "secret"⟩)] := by
    decide +kernel
  have hmem : ("http://other.example.com/jobs/7", (⟨"api_1", "secret"⟩ : Http.Credentials)) ∈
      ((runAll samplePce [.labels]).run abroad).2.log.toList.map
        (fun sent => (sent.request.url, sent.credentials)) := by
    simp [hlog]
  obtain ⟨sent, hsent, heq⟩ := List.mem_map.mp hmem
  obtain ⟨hurl, hcredentials⟩ := Prod.mk.inj heq
  refine ⟨sent, hsent, hcredentials, ?_⟩
  rintro ⟨rest, hrest⟩
  have hchars := congrArg (fun url => url.toList.take 5) (hurl.symm.trans hrest)
  simp [Config.apiRoot] at hchars

end Pce

end TrafficDigest
