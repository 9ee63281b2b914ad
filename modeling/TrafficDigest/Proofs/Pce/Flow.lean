import TrafficDigest.Pce.Document
import TrafficDigest.Proofs.Json.Decode
import TrafficDigest.Proofs.Json.Reader
import TrafficDigest.Proofs.Text.Decimal

/-!
# The record of a reported flow

A policy engine may report the same flow in many ways: with the members of an object in another
order, with members that nobody asks for, with other white space.  All of these give the same
record, the same unknown verdict, or nothing.

* `respects_observedFlow` — the decoder of a flow does not see edits of any of its objects.
* `connections_of_decode` — the connections of a flow are those that its object counts, or none.
* `connections_of_toRecord` — a record stands for at least one.
* `readFlow?_of_edits` — all of it together, for the texts of reports.
-/

namespace TrafficDigest.Pce

open Json (Decoder Edit HasText Members RecordDecoder Respects Shape WrittenAs)
open Json.RecordDecoder (Follows named)

/-! ## The shape of a flow -/

/-- The members of a reference. -/
def hrefFields : List (String × Shape) := [("href", .plain)]

/-- The members of a workload that a flow refers to. -/
def workloadFields : List (String × Shape) :=
  [("href", .plain), ("hostname", .plain), ("labels", .list (.record hrefFields))]

/-- The members of one side of a flow. -/
def endpointFields : List (String × Shape) :=
  [("ip", .plain), ("workload", .record workloadFields)]

/-- The members of the service of a flow. -/
def serviceFields : List (String × Shape) := [("port", .plain), ("proto", .plain)]

/-- The members of a range of time. -/
def rangeFields : List (String × Shape) := [("first_detected", .plain), ("last_detected", .plain)]

/-- The members of a reported flow. -/
def flowFields : List (String × Shape) :=
  [("src", .record endpointFields), ("dst", .record endpointFields),
    ("service", .record serviceFields), ("num_connections", .plain), ("policy_decision", .plain),
    ("timestamp_range", .record rangeFields)]

/-! ## Edits are not seen -/

lemma respects_href : Respects (.record hrefFields) href.decode :=
  (Follows.required "href" (.plain _)).decode (by decide)

lemma respects_flowWorkload : Respects (.record workloadFields) flowWorkload.decode :=
  ((Follows.required "href" (.plain _)).map WorkloadRef.mk
    |>.seq (.defaulted "hostname" (.plain _) "")
    |>.seq (.defaulted "labels" respects_href.list [])).decode (by decide)

lemma respects_flowEndpoint : Respects (.record endpointFields) flowEndpoint.decode :=
  ((Follows.required "ip" (.plain _)).map Endpoint.mk
    |>.seq (.optional "workload" respects_flowWorkload)).decode (by decide)

lemma respects_flowService : Respects (.record serviceFields) flowService.decode :=
  ((Follows.defaulted "port" (.plain _) 0).map ServicePort.mk
    |>.seq (.required "proto" (.plain _))).decode (by decide)

lemma respects_timestampRange : Respects (.record rangeFields) timestampRange.decode :=
  ((Follows.required "first_detected" (.plain _)).map Prod.mk
    |>.seq (.required "last_detected" (.plain _))).decode (by decide)

/-- **The decoder of a flow does not see edits** of any of its objects. -/
theorem respects_observedFlow : Respects (.record flowFields) observedFlow.decode :=
  ((Follows.required "src" respects_flowEndpoint).map ObservedFlow.mk
    |>.seq (.required "dst" respects_flowEndpoint)
    |>.seq (.required "service" respects_flowService)
    |>.seq (.defaulted "num_connections" (.plain _) 0)
    |>.seq (.required "policy_decision" (.plain _))
    |>.seq (.required "timestamp_range" respects_timestampRange)).decode (by decide)

/-! ## Connections -/

/-- A natural number that is a member of an object has one written form. -/
lemma eq_nat_of_natural {members : List (Option String × Json)} {text : String}
    {name : Option String} {v : Json} {max n : Nat}
    (hwritten : (Json.object members).WrittenAs text) (hmember : (name, v) ∈ members)
    (h : Decoder.natural max v = some n) : v = .nat n := by
  cases v with
  | number literal =>
      obtain ⟨hread, -⟩ := Option.filter_eq_some_iff.mp h
      obtain ⟨hne, hdigits, hn⟩ := Text.readDigits_eq_some_iff.mp hread
      have hwhole := (hwritten.number_form hmember).whole hdigits
      have htext := Text.toList_toString_digitsValue hne hdigits hwhole.2
      exact congrArg Json.number (String.toList_injective (hn ▸ htext.symm))
  | _ => cases h

lemma le_of_natural {v : Json} {max n : Nat} (h : Decoder.natural max v = some n) : n ≤ max := by
  cases v with
  | number literal =>
      obtain ⟨-, hle⟩ := Option.filter_eq_some_iff.mp h
      simpa using hle
  | _ => cases h

/-- A number of connections that is a member of an object has one written form. -/
lemma eq_nat_of_count {members : List (Option String × Json)} {text : String}
    {name : Option String} {v : Json} {n : UInt64} (hwritten : (Json.object members).WrittenAs text)
    (hmember : (name, v) ∈ members) (h : Decoder.count v = some n) : v = .nat n.toNat := by
  obtain ⟨m, hm, rfl⟩ := Option.map_eq_some_iff.mp h
  have hlt : m < UInt64.size := Nat.lt_of_le_of_lt (le_of_natural hm) (by decide)
  rw [eq_nat_of_natural hwritten hmember hm, Nat.toUInt64_eq, UInt64.toNat_ofNat_of_lt' hlt]

lemma count_of_ofMembers {members : Members} {f : ObservedFlow}
    (h : observedFlow.ofMembers members = some f) :
    (members.lookup "num_connections").elim (some 0) Decoder.count = some f.connections := by
  simp only [observedFlow, RecordDecoder.ofMembers_seq, RecordDecoder.ofMembers_map,
    RecordDecoder.ofMembers_required, RecordDecoder.ofMembers_defaulted, Option.bind_eq_some_iff,
    Option.map_eq_some_iff] at h
  -- One layer for each member, the last member outermost.
  obtain ⟨_, ⟨_, ⟨_, ⟨_, ⟨_, ⟨_, -, rfl⟩, _, -, rfl⟩, _, -, rfl⟩, _, hcount, rfl⟩, _, -, rfl⟩, _, -,
    rfl⟩ := h
  exact hcount

/-- **The connections that a flow counts:** the number that its object gives, or none. -/
lemma connections_of_decode {members : List (Option String × Json)} {text : String}
    {f : ObservedFlow} (hwritten : (Json.object members).WrittenAs text)
    (h : observedFlow.decode (.object members) = some f) :
    (∀ v, (some "num_connections", v) ∈ members → v = .nat f.connections.toNat) ∧
      ((∀ v, (some "num_connections", v) ∉ members) → f.connections = 0) := by
  obtain ⟨-, hone, hmembers⟩ := RecordDecoder.decode_object_eq_some.mp h
  have hcount := count_of_ofMembers hmembers
  have hlookup {v : Json} := RecordDecoder.lookup_named_eq_some_iff
    (show "num_connections" ∈ observedFlow.names by decide) hone (v := v)
  constructor
  · intro v hv
    rw [hlookup.mpr hv] at hcount
    exact eq_nat_of_count hwritten hv hcount
  · intro hnone
    rw [Option.eq_none_iff_forall_ne_some.mpr fun v hv => hnone v (hlookup.mp hv)] at hcount
    exact (Option.some.inj hcount).symm

/-- **A record stands for at least one connection**, and for as many as were reported otherwise. -/
lemma connections_of_toRecord {f : ObservedFlow} {record : FlowRecord}
    (h : f.toRecord = .ok record) : record.connections.toNat = max f.connections.toNat 1 := by
  unfold ObservedFlow.toRecord at h
  cases hverdict : Verdict.parse f.decision with
  | error e =>
      rw [hverdict] at h
      cases h
  | ok verdict =>
      rw [hverdict] at h
      cases h
      exact UInt64.toNat_max _ _

/-! ## Texts of reports -/

lemma readFlow?_eq {text : String} {v : Json} (h : v.WrittenAs text) :
    readFlow? text = (observedFlow.decode v).map ObservedFlow.toRecord := by
  rw [readFlow?, Json.read?_eq_some_iff.mpr h]
  exact Option.map_eq_bind.symm

/-- **The record of a report depends on the members that it names and on nothing else.**  Whatever
the order of members, the members that nobody asks for and the white space, two reports give the
same record, the same unknown verdict, or nothing.  And a record stands for the connections that
the report counts, or for one. -/
theorem readFlow?_of_edits {text text' : String} {v v' : Json} (hwritten : v.WrittenAs text)
    (hwritten' : v'.WrittenAs text')
    (hedits : Relation.ReflTransGen (Edit HasText (.record flowFields)) v v') :
    readFlow? text' = readFlow? text ∧
      ∀ record, readFlow? text = some (.ok record) → 1 ≤ record.connections ∧
        ∀ members, v = .object members →
          (∀ w, (some "num_connections", w) ∈ members →
            ∃ n, w = .nat n ∧ record.connections.toNat = max n 1) ∧
          ((∀ w, (some "num_connections", w) ∉ members) → record.connections = 1) := by
  refine ⟨?_, fun record hrecord => ?_⟩
  · rw [readFlow?_eq hwritten, readFlow?_eq hwritten',
      respects_observedFlow.of_reflTransGen hedits]
  rw [readFlow?_eq hwritten] at hrecord
  obtain ⟨f, hf, hconvert⟩ := Option.map_eq_some_iff.mp hrecord
  have hconnections := connections_of_toRecord hconvert
  refine ⟨UInt64.le_iff_toNat_le.mpr (hconnections ▸ Nat.le_max_right ..), fun members hv => ?_⟩
  subst hv
  obtain ⟨hcounted, huncounted⟩ := connections_of_decode hwritten hf
  refine ⟨fun w hw => ⟨_, hcounted w hw, hconnections⟩, fun hnone => ?_⟩
  rw [← UInt64.toNat_inj, hconnections, huncounted hnone]
  rfl

/-! ### One flow in several reports -/

/-- The members of a report of a flow between two hosts, the first with one label. -/
def pingMembers (label : Json) : List (Option String × Json) :=
  [(some "src", .obj [("ip", .str "10.0.0.1"),
      ("workload", .obj [("href", .str "w1"), ("labels", .array [label])])]),
    (some "dst", .obj [("ip", .str "10.0.0.9")]),
    (some "service", .obj [("proto", .nat 1)]),
    (some "num_connections", .nat 12),
    (some "policy_decision", .str "allowed"),
    (some "timestamp_range", .obj [("first_detected", .str "2024-01-01T06:00:00Z"),
      ("last_detected", .str "2024-01-01T07:00:00Z")])]

/-- The report in its compact form, with what follows the href of the label. -/
def pingText (rest : String) : String :=
  String.join ["\x7b\"src\":\x7b\"ip\":\"10.0.0.1\",\"workload\":\x7b\"href\":\"w1\",",
    "\"labels\":[\x7b\"href\":\"l1\"", rest, "\x7d]\x7d\x7d,\"dst\":\x7b\"ip\":\"10.0.0.9\"\x7d,",
    "\"service\":\x7b\"proto\":1\x7d,\"num_connections\":12,\"policy_decision\":\"allowed\",",
    "\"timestamp_range\":\x7b\"first_detected\":\"2024-01-01T06:00:00Z\",",
    "\"last_detected\":\"2024-01-01T07:00:00Z\"\x7d\x7d"]

/-- The report backwards, with white space and a note in the label. -/
def notedPingText : String :=
  String.join ["\x7b \"timestamp_range\":\x7b\"first_detected\":\"2024-01-01T06:00:00Z\",",
    "\"last_detected\":\"2024-01-01T07:00:00Z\"\x7d,\n\"policy_decision\" : \"allowed\",",
    "\"num_connections\":12,\"service\":\x7b\"proto\":1\x7d,\"dst\":\x7b\"ip\":\"10.0.0.9\"\x7d,",
    "\"src\":\x7b\"ip\":\"10.0.0.1\",\"workload\":\x7b\"href\":\"w1\",\"labels\":[\x7b",
    "\"href\":\"l1\", \"note\":[\x7b\"n\":[]\x7d, -1.5e3]\x7d]\x7d\x7d\t\x7d"]

/-- The record of the report. -/
def pingRecord : FlowRecord where
  src := ⟨"10.0.0.1", some ⟨"w1", "", ["l1"]⟩⟩
  dst := ⟨"10.0.0.9", none⟩
  service := ⟨0, 1⟩
  verdict := .allowed
  firstSeen := .ofNanos (1704088800 * nanosPerSecond)
  lastSeen := .ofNanos (1704092400 * nanosPerSecond)
  connections := 12

/-- The label as it is asked for. -/
def plainLabel : Json := .object [(some "href", .str "l1")]

/-- The label with one more member. -/
def labelWith (name : Option String) (v : Json) : Json :=
  .object [(some "href", .str "l1"), (name, v)]

/-- What the note says: values that nest, and a number. -/
def note : Json := .array [.obj [("n", .array [])], .number "-1.5e3"]

/-- One more member deep down in the report. -/
lemma edit_ping {Allowed : Option String → Prop} {name : Option String} (v : Json)
    (allowed : Allowed name) (hname : name ≠ some "href") :
    Edit Allowed (.record flowFields) (.object (pingMembers plainLabel))
      (.object (pingMembers (labelWith name v))) := by
  have hlabel : Edit Allowed (.record hrefFields) plainLabel (labelWith name v) :=
    .inserted [(some "href", .str "l1")] [] v allowed (by simpa [hrefFields] using hname)
  have hworkload : Edit Allowed (.record workloadFields) _ _ :=
    .member [(some "href", .str "w1")] [] ("labels", .list (.record hrefFields))
      (by simp [workloadFields]) (.item [] [] hlabel)
  have hsrc : Edit Allowed (.record endpointFields) _ _ :=
    .member [(some "ip", .str "10.0.0.1")] [] ("workload", .record workloadFields)
      (by simp [endpointFields]) hworkload
  exact .member [] (pingMembers plainLabel).tail ("src", .record endpointFields)
    (by simp [flowFields]) hsrc

lemma writtenAs_pingText :
    (Json.object (pingMembers plainLabel)).WrittenAs (pingText "") := by
  rw [WrittenAs, pingText, String.toList_join]
  exact .of_tokens (by decide +kernel)

lemma readFlow?_pingText : readFlow? (pingText "") = some (.ok pingRecord) := by
  rw [readFlow?_eq writtenAs_pingText]
  decide +kernel

/-- The report backwards and with a note gives the record of the compact report. -/
theorem readFlow?_of_edits_notedPing :
    (Json.object (pingMembers plainLabel)).WrittenAs (pingText "") ∧
      (Json.object (pingMembers (labelWith (some "note") note)).reverse).WrittenAs notedPingText ∧
      Relation.ReflTransGen (Edit HasText (.record flowFields)) (.object (pingMembers plainLabel))
        (.object (pingMembers (labelWith (some "note") note)).reverse) ∧
      readFlow? notedPingText = some (.ok pingRecord) ∧ 1 ≤ pingRecord.connections ∧
      ∃ n, Json.nat 12 = .nat n ∧ pingRecord.connections.toNat = max n 1 := by
  have hwritten : (Json.object (pingMembers (labelWith (some "note") note)).reverse).WrittenAs
      notedPingText := by
    rw [WrittenAs, notedPingText, String.toList_join]
    exact .of_tokens (by decide +kernel)
  have hedits : Relation.ReflTransGen (Edit HasText (.record flowFields))
      (.object (pingMembers plainLabel))
      (.object (pingMembers (labelWith (some "note") note)).reverse) :=
    .tail (.single (edit_ping note (show HasText (some "note") from rfl) (by decide)))
      (.permuted (List.reverse_perm _).symm)
  obtain ⟨hsame, hrecords⟩ := readFlow?_of_edits writtenAs_pingText hwritten hedits
  obtain ⟨hpositive, hmembers⟩ := hrecords pingRecord readFlow?_pingText
  refine ⟨writtenAs_pingText, hwritten, hedits, hsame.trans readFlow?_pingText, hpositive, ?_⟩
  exact (hmembers _ rfl).1 (.nat 12) (by simp [pingMembers])

/-- **A name has to be a text:** one more member whose name is half of a surrogate pair makes a
report undecodable. -/
theorem readFlow?_textless_name :
    (Json.object (pingMembers plainLabel)).WrittenAs (pingText "") ∧
      (Json.object (pingMembers (labelWith none (.nat 1)))).WrittenAs
        (pingText ",\"\\ud800\":1") ∧
      Edit (fun _ => True) (.record flowFields) (.object (pingMembers plainLabel))
        (.object (pingMembers (labelWith none (.nat 1)))) ∧
      readFlow? (pingText "") = some (.ok pingRecord) ∧
      readFlow? (pingText ",\"\\ud800\":1") = none := by
  have hwritten : (Json.object (pingMembers (labelWith none (.nat 1)))).WrittenAs
      (pingText ",\"\\ud800\":1") := by
    rw [WrittenAs, pingText, String.toList_join]
    exact .of_tokens (by decide +kernel)
  refine ⟨writtenAs_pingText, hwritten, edit_ping _ trivial (by decide), readFlow?_pingText, ?_⟩
  rw [readFlow?_eq hwritten]
  decide +kernel

end TrafficDigest.Pce
