import TrafficDigest.Proofs.Pce.Ask
import TrafficDigest.Proofs.Query.Revision

/-!
# The body carries the whole query

What a policy engine reads from a body is known (`decode_queryBody`), so two queries with the same
body ask for the same: nothing of a query is left out of its body except what lies below the
milliseconds of its bounds (`queryBody_eq_iff`).

The ingredients are `Instant.rfc3339_floorMillis`, that the text of an instant does not depend on
what lies below its milliseconds, and `Ask.ofQuery_eq_iff`, that what is asked for tells the parts
of the query apart.  The two sides of a group are never confused because only one of them is
restricted (`FlowQuery.groupOn?_inj`).
-/

namespace TrafficDigest

/-! ## Texts of instants -/

namespace Instant

/-- What lies below the milliseconds is not written. -/
lemma rfc3339_floorMillis (t : Instant) : t.floorMillis.rfc3339 .millis = t.rfc3339 .millis := by
  have hleap : t.floorMillis.IsLeap ↔ t.IsLeap := by
    simp only [IsLeap, floorMillis, nanosPerMilli, nanosPerSecond]
    omega
  have hclock : t.floorMillis.clock = t.clock := by
    simp only [clock, hleap]
    rfl
  have hfraction : t.floorMillis.fraction / 1000000 = t.fraction / 1000000 := by
    simp only [fraction, floorMillis, nanosPerMilli, nanosPerSecond]
    omega
  simp only [rfc3339, clockText, hclock, FractionDigits.write, hfraction]
  rfl

lemma rfc3339_eq_of_floorMillis_eq {a b : Instant} (h : a.floorMillis = b.floorMillis) :
    a.rfc3339 .millis = b.rfc3339 .millis := by
  rw [← rfc3339_floorMillis a, h, rfc3339_floorMillis]

end Instant

/-! ## Parts of a query -/

lemma VerdictSet.ofList_toList (s : VerdictSet) : ofList s.toList = s := by
  simp only [ofList, contains_toList, contains]

namespace FlowQuery

/-- The restrictions of both sides are the one of the query. -/
lemma groupOn?_inj {q q' : FlowQuery} :
    (∀ side, q.groupOn? side = q'.groupOn? side) ↔ q.group = q'.group := by
  constructor
  · intro h
    refine Option.ext fun g => ?_
    rw [← groupOn?_eq_some_iff, h, groupOn?_eq_some_iff]
  · intro h side
    rw [groupOn?, h]
    rfl

end FlowQuery

namespace Pce

/-! ## What is asked for -/

lemma EndpointFilter.ofGroup_inj {g g' : Option String} : ofGroup g = ofGroup g' ↔ g = g' := by
  refine ⟨fun h => ?_, congrArg _⟩
  cases g <;> cases g' <;> simp_all [ofGroup]

/-- **Queries that ask for the same**, whatever lies below the milliseconds of their bounds. -/
structure AskTheSame (q q' : FlowQuery) : Prop where
  verdicts : q.verdicts = q'.verdicts
  group : q.group = q'.group
  excluded : q.excluded = q'.excluded
  maxRecords : q.maxRecords = q'.maxRecords
  start : q.start.floorMillis = q'.start.floorMillis
  stop : q.stop.floorMillis = q'.stop.floorMillis

lemma Ask.ofQuery_eq_iff {q q' : FlowQuery} :
    Ask.ofQuery q = Ask.ofQuery q' ↔ AskTheSame q q' := by
  simp only [ofQuery, Ask.mk.injEq, ServiceFilter.mk.injEq, EndpointFilter.ofGroup_inj, true_and]
  constructor
  · rintro ⟨hsource, hdestination, hexcluded, hstart, hstop, hverdicts, hmax⟩
    have hgroup : q.group = q'.group := by
      refine FlowQuery.groupOn?_inj.mp fun side => ?_
      cases side with
      | source => exact hsource
      | destination => exact hdestination
    have hverdicts : q.verdicts = q'.verdicts := by
      rw [← VerdictSet.ofList_toList q.verdicts, hverdicts, VerdictSet.ofList_toList]
    exact ⟨hverdicts, hgroup, hexcluded, hmax, hstart, hstop⟩
  · rintro ⟨hverdicts, hgroup, hexcluded, hmax, hstart, hstop⟩
    have hsides := FlowQuery.groupOn?_inj.mpr hgroup
    exact ⟨hsides _, hsides _, hexcluded, hstart, hstop, congrArg _ hverdicts, hmax⟩

/-! ## What the body tells -/

lemma AskTheSame.queryBody_eq {q q' : FlowQuery} (h : AskTheSame q q') :
    queryBody q = queryBody q' := by
  have hsides := FlowQuery.groupOn?_inj.mpr h.group
  rw [queryBody, queryBody, hsides, hsides, h.excluded, h.verdicts, h.maxRecords,
    Instant.rfc3339_eq_of_floorMillis_eq h.start, Instant.rfc3339_eq_of_floorMillis_eq h.stop]

/-- **The body carries the whole query.**  Two queries have the same body exactly if they have the
same verdicts, the same group on the same side or none, the same excluded services in the same
order, the same limit, and bounds that are the same once they are cut to whole milliseconds.  The
bounds that are read from the bodies are never in another order than those of the queries, though
they may be the same where those are not.

Left out are bounds that cannot be written (`OnCalendar`): those beyond the years that the calendar
reaches, and those in a leap second that does not end a minute. -/
theorem queryBody_eq_iff {q q' : FlowQuery} (hq : OnCalendar q) (hq' : OnCalendar q') :
    (queryBody q = queryBody q' ↔ AskTheSame q q') ∧
    ∃ a a', ask.decode (queryBody q) = some a ∧ ask.decode (queryBody q') = some a' ∧
      (q.start ≤ q'.start → a.start ≤ a'.start) ∧ (q.start ≤ q'.stop → a.start ≤ a'.stop) ∧
      (q.stop ≤ q'.start → a.stop ≤ a'.start) ∧ (q.stop ≤ q'.stop → a.stop ≤ a'.stop) := by
  constructor
  · refine ⟨fun h => ?_, AskTheSame.queryBody_eq⟩
    have hask := congrArg ask.decode h
    rw [decode_queryBody hq, decode_queryBody hq'] at hask
    exact Ask.ofQuery_eq_iff.mp (Option.some.inj hask)
  · exact ⟨.ofQuery q, .ofQuery q', decode_queryBody hq, decode_queryBody hq',
      Instant.floorMillis_mono, Instant.floorMillis_mono, Instant.floorMillis_mono,
      Instant.floorMillis_mono⟩

/-- Windows that start in one millisecond before 1970 and end in one after it have one body, and the
body tells on which side a group was asked for. -/
theorem queryBody_belowMillis :
    let q := Fetch.fourNanos.withWindow ⟨⟨-1, 999999999, by decide⟩, .ofNanos 4, by decide⟩
    let q' := Fetch.fourNanos.withWindow ⟨⟨-1, 999000000, by decide⟩, .ofNanos 0, by decide⟩
    OnCalendar q ∧ OnCalendar q' ∧ q ≠ q' ∧ queryBody q = queryBody q' ∧
      queryBody (q.restrictedTo .source "/orgs/1/labels/1")
        ≠ queryBody (q.restrictedTo .destination "/orgs/1/labels/1") := by
  intro q q'
  have hq : OnCalendar q := by decide
  have hq' : OnCalendar q' := by decide
  refine ⟨hq, hq', by decide, (queryBody_eq_iff hq hq').1.mpr ?_, fun h => ?_⟩
  · exact ⟨rfl, rfl, rfl, rfl, by decide, by decide⟩
  · have hsource : OnCalendar (q.restrictedTo .source "/orgs/1/labels/1") := hq
    have hdestination : OnCalendar (q.restrictedTo .destination "/orgs/1/labels/1") := hq
    have hsame := (queryBody_eq_iff hsource hdestination).1.mp h
    exact absurd hsame.group (by decide)

end Pce

end TrafficDigest
