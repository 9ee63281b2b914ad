import TrafficDigest.Pce.Engine
import TrafficDigest.Proofs.Instant.Text
import TrafficDigest.Proofs.Json.Decode
import TrafficDigest.Proofs.Pce.Page

/-!
# What the client asks a policy engine for

A traffic query is posted as a body, and `Pce.ask` reads a body the way a policy engine does.  The
two are put together here.

* `decode_queryBody` — the body of a query asks for what the query asks for, only with its bounds
  cut to whole milliseconds (`Ask.ofQuery`).
* `posts_iff` — in any session the client posts this body for the query.
-/

namespace TrafficDigest.Pce

open Json (Decoder RecordDecoder)
open Http (Reply Response Session)

/-! ## The parts of a body -/

lemma decode_href (s : String) : href.decode (.obj [("href", .str s)]) = some s := by
  rw [RecordDecoder.decode_obj _ rfl]
  rfl

lemma decode_actor (s : String) :
    actor.decode (.obj [("label", .obj [("href", .str s)])]) = some s := by
  rw [RecordDecoder.decode_obj _ rfl]
  exact decode_href s

/-- The endpoints of a group, or all. -/
def EndpointFilter.ofGroup (group : Option String) : EndpointFilter := ⟨[group.toList], []⟩

lemma decode_selector (group : Option String) :
    endpointFilter.decode (selector group) = some (.ofGroup group) := by
  unfold selector
  rw [RecordDecoder.decode_obj _ rfl]
  cases group with
  | none => rfl
  | some s =>
      simp [endpointFilter, List.lookup_cons, Decoder.list, decode_actor, EndpointFilter.ofGroup]

lemma list_map {α : Type} {d : Decoder α} {f : α → Json} (h : ∀ a, d (f a) = some a)
    (l : List α) : Decoder.list d (.array (l.map f)) = some l :=
  mapM_map_eq_some fun a _ => h a

lemma natural_nat {max n : Nat} (h : n ≤ max) : Decoder.natural max (.nat n) = some n := by
  show (Text.readDigits (toString n).toList).filter _ = _
  rw [Text.readDigits_toString]
  simpa using h

lemma port_nat (p : UInt16) : Decoder.port (.nat p.toNat) = some p := by
  rw [Decoder.port, natural_nat (Nat.le_of_lt_succ p.toNat_lt)]
  simp

lemma octet_nat (n : UInt8) : Decoder.octet (.nat n.toNat) = some n := by
  rw [Decoder.octet, natural_nat (Nat.le_of_lt_succ n.toNat_lt)]
  simp

lemma decode_serviceEntry (s : ServicePort) :
    listedService.decode (serviceEntry s) = some s := by
  rw [serviceEntry, RecordDecoder.decode_obj _ rfl]
  simp [listedService, List.lookup_cons, port_nat, octet_nat]

lemma count_nat (n : Nat) : count (.nat n) = some n := Text.readDigits_toString n

lemma decision_name (v : Verdict) : decision (.str v.name) = some v := by
  cases v <;> decide

/-! ## The body -/

/-- What a query asks for when its bounds are cut to whole milliseconds. -/
def Ask.ofQuery (q : FlowQuery) : Ask where
  sources := .ofGroup (q.groupOn? .source)
  destinations := .ofGroup (q.groupOn? .destination)
  services := ⟨[], q.excluded⟩
  sides := .both
  start := q.start.floorMillis
  stop := q.stop.floorMillis
  verdicts := q.verdicts.toList
  maxResults := q.maxRecords

/-- The bounds of the query's window can be written: they lie in the years that the calendar
reaches, and in no leap second but one at the end of a minute. -/
def OnCalendar (q : FlowQuery) : Prop := q.start.OnCalendar ∧ q.stop.OnCalendar

instance (q : FlowQuery) : Decidable (OnCalendar q) := by unfold OnCalendar; infer_instance

lemma instant_str (s : String) : Decoder.instant (.str s) = Instant.read? s := rfl

lemma instant_rfc3339 {t : Instant} (h : t.OnCalendar) :
    Decoder.instant (.str (t.rfc3339 .millis)) = some t.floorMillis := by
  rw [instant_str, Instant.read?_rfc3339 h]

lemma decode_services (excluded : List ServicePort) :
    serviceFilter.decode (.obj [("include", .array []),
      ("exclude", .array (excluded.map serviceEntry))]) = some ⟨[], excluded⟩ := by
  rw [RecordDecoder.decode_obj _ rfl]
  have hnone : Decoder.list listedService.decode (.array []) = some [] := rfl
  simp [serviceFilter, List.lookup_cons, hnone, list_map decode_serviceEntry]

/-- Each member of a body decides about one part of what is asked for. -/
lemma ofMembers_ask {s d v o t u p m : Json} {a : Ask}
    (hs : endpointFilter.decode s = some a.sources)
    (hd : endpointFilter.decode d = some a.destinations)
    (hv : serviceFilter.decode v = some a.services) (ho : sides o = some a.sides)
    (ht : Decoder.instant t = some a.start) (hu : Decoder.instant u = some a.stop)
    (hp : Decoder.list decision p = some a.verdicts) (hm : count m = some a.maxResults) :
    ask.ofMembers [("sources", s), ("destinations", d), ("services", v),
      ("sources_destinations_query_op", o), ("start_date", t), ("end_date", u),
      ("policy_decisions", p), ("max_results", m)] = some a := by
  simp [ask, List.lookup_cons, hs, hd, hv, ho, ht, hu, hp, hm]

/-- **The body of a query asks for what the query asks for**, with the bounds of the window cut to
whole milliseconds. -/
theorem decode_queryBody {q : FlowQuery} (h : OnCalendar q) :
    ask.decode (queryBody q) = some (.ofQuery q) := by
  have hop : sides (.str "and") = some .both := rfl
  unfold queryBody
  rw [RecordDecoder.decode_obj _ rfl]
  exact ofMembers_ask (decode_selector _) (decode_selector _) (decode_services _) hop
    (instant_rfc3339 h.1) (instant_rfc3339 h.2) (list_map decision_name _) (count_nat _)

/-! ## What is posted -/

/-- **The request that the client sends** for a query in a session is a post with this body. -/
def Posts (c : Config) (q : FlowQuery) (s : Session) (body : Json) : Prop :=
  ∃ sent : Http.Sent, ((source c q).run.run s).2.log = s.log.push sent ∧
    sent.request.method = .post ∧ sent.request.body = some body

/-- **Whatever the session, the client posts the body of the query.** -/
theorem posts_iff {c : Config} {q : FlowQuery} {s : Session} {body : Json} :
    Posts c q s body ↔ body = queryBody q := by
  have hlog := congrArg (·.2.log) (run_source c q s)
  simp only [Session.after] at hlog
  constructor
  · rintro ⟨sent, hsent, -, hbody⟩
    obtain ⟨rfl, -⟩ := Array.push_eq_push.mp (hlog.symm.trans hsent)
    exact (Option.some.inj hbody).symm
  · rintro rfl
    exact ⟨_, hlog, rfl, rfl⟩

end TrafficDigest.Pce
