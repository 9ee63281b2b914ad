import TrafficDigest.Proofs.Fetch.SplitTree
import TrafficDigest.Proofs.Query.Intent
import TrafficDigest.Proofs.Window.Halves

/-!
# Revisions of queries

A query that was made may be restricted to a group, told to leave out services, and halved, in any
order and any number of times.  What it asks for in the end is known from the revisions alone: the
restriction made last holds, whichever side it is for, and so do the exclusions made last; verdicts
and limit stay as they were given, and the window never reaches out of the one that was given
(`Follows`).

* `follows_revise` — what one revision does; `follows_reviseAll` — what a list of them does.
* `revised_wellFormed` — so a query stays well formed, and its halves share its window between them.
-/

namespace TrafficDigest

/-- What may be done to a query. -/
inductive Revision where
  | restrict (group : GroupFilter)
  | exclude (services : List ServicePort)
  | keepEarlierHalf
  | keepLaterHalf

namespace Revision

/-- The group that a revision asks for. -/
def group? : Revision → Option GroupFilter
  | restrict group => some group
  | _ => none

/-- The services that a revision leaves out. -/
def excluded? : Revision → Option (List ServicePort)
  | exclude services => some services
  | _ => none

/-- The last of what some of the revisions set. -/
def last? {α : Type} (set? : Revision → Option α) (revisions : List Revision) : Option α :=
  (revisions.filterMap set?).getLast?

/-- What the first revision sets counts only if no later one sets it. -/
lemma last?_cons {α : Type} (set? : Revision → Option α) (r : Revision)
    (revisions : List Revision) :
    last? set? (r :: revisions) = (last? set? revisions).or (set? r) := by
  rw [last?, List.filterMap_cons]
  cases set? r with
  | none => simp [last?]
  | some a => simp [last?, List.getLast?_cons, Option.or_some]

lemma last?_singleton {α : Type} (set? : Revision → Option α) (r : Revision) :
    last? set? [r] = set? r := last?_cons set? r []

end Revision

namespace FlowQuery

variable {q q' left right : FlowQuery} {r : Revision} {revisions : List Revision}

/-- **The query after a revision**; one whose window has no halves cannot be halved. -/
def revise (q : FlowQuery) : Revision → Option FlowQuery
  | .restrict group => some (q.restrictedTo group.side group.href)
  | .exclude services => some (q.excluding services)
  | .keepEarlierHalf => q.split?.map (·.1)
  | .keepLaterHalf => q.split?.map (·.2)

/-- The query after all the revisions, the first in the list first. -/
def reviseAll (q : FlowQuery) (revisions : List Revision) : Option FlowQuery :=
  revisions.foldlM revise q

/-! ## What revisions do -/

/-- **What a query is after some revisions**, by what it was before. -/
structure Follows (q : FlowQuery) (revisions : List Revision) (q' : FlowQuery) : Prop where
  verdicts : q'.verdicts = q.verdicts
  maxRecords : q'.maxRecords = q.maxRecords
  group : q'.group = (Revision.last? Revision.group? revisions).or q.group
  excluded : q'.excluded = (Revision.last? Revision.excluded? revisions).getD q.excluded
  start_le : q.start ≤ q'.start
  le_stop : q'.stop ≤ q.stop

lemma Follows.refl (q : FlowQuery) : Follows q [] q :=
  ⟨rfl, rfl, rfl, rfl, Instant.le_refl _, Instant.le_refl _⟩

/-- Either half of a query is the query over a part of its window. -/
lemma withWindow_of_split? (h : q.split? = some (left, right)) :
    left = q.withWindow left.window ∧ right = q.withWindow right.window := by
  obtain ⟨u, v, -, rfl, rfl⟩ := split?_eq_some.mp h
  exact ⟨rfl, rfl⟩

/-- A part of the window is kept, and nothing is set. -/
lemma Follows.of_withWindow (hr : r.group? = none ∧ r.excluded? = none)
    (hq : q' = q.withWindow q'.window) (hstart : q.start ≤ q'.start) (hstop : q'.stop ≤ q.stop) :
    Follows q [r] q' where
  verdicts := by
    rw [hq]
    rfl
  maxRecords := by
    rw [hq]
    rfl
  group := by
    rw [hq, Revision.last?_singleton, hr.1]
    rfl
  excluded := by
    rw [hq, Revision.last?_singleton, hr.2]
    rfl
  start_le := hstart
  le_stop := hstop

/-- **One revision** sets the group, or the services left out, or takes a part of the window. -/
lemma follows_revise (h : q.revise r = some q') : Follows q [r] q' := by
  cases r with
  | restrict group =>
      cases h
      exact ⟨rfl, rfl, rfl, rfl, Instant.le_refl _, Instant.le_refl _⟩
  | exclude services =>
      cases h
      exact ⟨rfl, rfl, rfl, rfl, Instant.le_refl _, Instant.le_refl _⟩
  | keepEarlierHalf =>
      obtain ⟨⟨left, right⟩, hs, rfl⟩ := Option.map_eq_some_iff.mp h
      obtain ⟨⟨-, hmid⟩, ⟨hstart, hstop⟩, -, -⟩ := bounds_split? hs
      refine .of_withWindow ⟨rfl, rfl⟩ (withWindow_of_split? hs).1 ?_ ?_
      · exact hstart ▸ Instant.le_refl _
      · exact hstop ▸ Instant.le_of_lt hmid
  | keepLaterHalf =>
      obtain ⟨⟨left, right⟩, hs, rfl⟩ := Option.map_eq_some_iff.mp h
      obtain ⟨⟨hmid, -⟩, -, hstart, hstop⟩ := bounds_split? hs
      refine .of_withWindow ⟨rfl, rfl⟩ (withWindow_of_split? hs).2 ?_ ?_
      · exact hstart ▸ Instant.le_of_lt hmid
      · exact hstop ▸ Instant.le_refl _

lemma Follows.cons {mid : FlowQuery} (h : Follows q [r] mid) (h' : Follows mid revisions q') :
    Follows q (r :: revisions) q' where
  verdicts := h'.verdicts.trans h.verdicts
  maxRecords := h'.maxRecords.trans h.maxRecords
  group := by
    rw [h'.group, h.group, Revision.last?_singleton, Revision.last?_cons, Option.or_assoc]
  excluded := by
    rw [h'.excluded, h.excluded, Revision.last?_singleton, Revision.last?_cons]
    cases Revision.last? Revision.excluded? revisions <;> rfl
  start_le := Instant.le_trans h.start_le h'.start_le
  le_stop := Instant.le_trans h'.le_stop h.le_stop

/-- **Revisions one after the other**, by induction on their list. -/
lemma follows_reviseAll (h : q.reviseAll revisions = some q') : Follows q revisions q' := by
  induction revisions generalizing q with
  | nil =>
      cases h
      exact .refl _
  | cons r revisions ih =>
      rw [reviseAll, List.foldlM_cons] at h
      obtain ⟨mid, hmid, hrest⟩ := Option.bind_eq_some_iff.mp h
      exact (follows_revise hmid).cons (ih hrest)

/-! ## Well-formed queries -/

lemma groupOn?_eq_some_iff {q : FlowQuery} {side : Side} {href : String} :
    q.groupOn? side = some href ↔ q.group = some ⟨side, href⟩ := by
  obtain ⟨window, verdicts, group, excluded, maxRecords, hpos, hne⟩ := q
  cases group with
  | none => simp [groupOn?]
  | some g =>
      obtain ⟨side', href'⟩ := g
      simp [groupOn?, Option.filter_some]

/-- **A query that makes sense:** its window is not empty, an answer may have a record, some verdict
is asked for, and not both sides are restricted to a group. -/
structure WellFormed (q : FlowQuery) : Prop where
  start_lt_stop : q.start < q.stop
  maxRecords_pos : 0 < q.maxRecords
  exists_verdict : ∃ v, v ∈ q.verdicts
  one_side : q.groupOn? .source = none ∨ q.groupOn? .destination = none

lemma wellFormed (q : FlowQuery) : q.WellFormed where
  start_lt_stop := q.window.start_lt_stop
  maxRecords_pos := q.maxRecords_pos
  exists_verdict := by
    have hsome := q.verdicts_nonempty
    simp only [VerdictSet.isEmpty, Bool.not_eq_false', Bool.or_eq_true] at hsome
    obtain (h | h) | h := hsome
    · exact ⟨.allowed, h⟩
    · exact ⟨.potentiallyBlocked, h⟩
    · exact ⟨.blocked, h⟩
  one_side := by
    by_contra hboth
    simp only [not_or, ← ne_eq, Option.ne_none_iff_exists'] at hboth
    obtain ⟨⟨href, hsource⟩, ⟨href', hdestination⟩⟩ := hboth
    rw [groupOn?_eq_some_iff] at hsource hdestination
    cases hsource.symm.trans hdestination

/-- **Two queries share a query between them:** its window at one instant, with the rest as it is.
Outside leap seconds their windows are equally wide, up to a nanosecond. -/
structure SharedBy (q left right : FlowQuery) : Prop where
  first : left.start = q.start
  middle : left.stop = q.start.midpoint q.stop ∧ right.start = q.start.midpoint q.stop
  last : right.stop = q.stop
  exactly_one (t : Instant) :
    q.window.contains t = (left.window.contains t ^^ right.window.contains t)
  widths : q.window.Plain →
    (left.stop.since left.start - right.stop.since right.start).natAbs ≤ 1
  others : left = q.withWindow left.window ∧ right = q.withWindow right.window

lemma sharedBy_of_split? (h : q.split? = some (left, right)) : q.SharedBy left right where
  first := (bounds_split? h).2.1.1
  middle := ⟨(bounds_split? h).2.1.2, (bounds_split? h).2.2.1⟩
  last := (bounds_split? h).2.2.2
  exactly_one t := by
    obtain ⟨u, v, huv, rfl, rfl⟩ := split?_eq_some.mp h
    exact Window.contains_halves huv t
  widths hplain := by
    obtain ⟨u, v, huv, rfl, rfl⟩ := split?_eq_some.mp h
    obtain ⟨hleft, hright⟩ := hplain.halves huv
    obtain ⟨hfirst, hlast⟩ := hplain.nanos_halves huv
    have hu : u.stop.since u.start = u.nanos := hleft.since_eq
    have hv : v.stop.since v.start = v.nanos := hright.since_eq
    show (u.stop.since u.start - v.stop.since v.start).natAbs ≤ 1
    omega
  others := withWindow_of_split? h

lemma split?_eq_none_iff (h : q.window.Plain) :
    q.split? = none ↔ q.stop.since q.start = 1 := by
  have hwidth : q.stop.since q.start = q.window.nanos := h.since_eq
  rw [split?, Option.map_eq_none_iff, h.split?_eq_none_iff, hwidth]
  omega

/-- **A query that was made stays well formed** however it is revised.  Its window lies in the one
that was given, its verdicts and its limit are those that were given, and at most one side is
restricted to a group: the side, and to the group, of the last restriction.  If the query has halves
they share it between them, and outside leap seconds it has none exactly if it is one nanosecond
wide. -/
theorem revised_wellFormed {start stop : Instant} {verdicts : VerdictSet} {maxRecords : Nat}
    {made q : FlowQuery} {revisions : List Revision}
    (hmake : make start stop verdicts maxRecords = .ok made)
    (h : made.reviseAll revisions = some q) :
    q.WellFormed ∧
    (start ≤ q.start ∧ q.stop ≤ stop ∧ q.verdicts = verdicts ∧ q.maxRecords = maxRecords) ∧
    (∀ side href, q.groupOn? side = some href ↔
      Revision.last? Revision.group? revisions = some ⟨side, href⟩) ∧
    q.excluded = (Revision.last? Revision.excluded? revisions).getD [] ∧
    (∀ left right, q.split? = some (left, right) → q.SharedBy left right) ∧
    (q.window.Plain → (q.split? = none ↔ q.stop.since q.start = 1)) := by
  obtain ⟨rfl, rfl, rfl, hgroup, hexcluded, rfl⟩ := of_make hmake
  have hq := follows_reviseAll h
  refine ⟨q.wellFormed, ⟨hq.start_le, hq.le_stop, hq.verdicts, hq.maxRecords⟩, fun side href => ?_,
    ?_, fun left right => sharedBy_of_split?, split?_eq_none_iff⟩
  · rw [groupOn?_eq_some_iff, hq.group, hgroup, Option.or_none]
  · rw [hq.excluded, hexcluded]

/-- A query over eleven nanoseconds, restricted on one side and then on the other with two halvings
in between, has a window of three nanoseconds, which its halves share as one and two. -/
theorem revised_wellFormed_threeNanos :
    let made : FlowQuery :=
      ⟨⟨.ofNanos 0, .ofNanos 11, by decide⟩, ⟨true, false, true⟩, none, [], 2, by decide, rfl⟩
    let q : FlowQuery :=
      ((made.restrictedTo .destination "/labels/2").excluding [⟨53, 17⟩]).withWindow
        ⟨.ofNanos 2, .ofNanos 5, by decide⟩
    let left := q.withWindow ⟨.ofNanos 2, .ofNanos 3, by decide⟩
    let right := q.withWindow ⟨.ofNanos 3, .ofNanos 5, by decide⟩
    make (.ofNanos 0) (.ofNanos 11) ⟨true, false, true⟩ 2 = .ok made ∧
      made.reviseAll [.restrict ⟨.source, "/labels/1"⟩, .keepEarlierHalf, .exclude [⟨53, 17⟩],
        .keepLaterHalf, .restrict ⟨.destination, "/labels/2"⟩] = some q ∧
      q.WellFormed ∧ q.groupOn? .source ≠ some "/labels/1" ∧ q.excluded = [⟨53, 17⟩] ∧
      q.SharedBy left right ∧ q.window.Plain ∧ q.stop.since q.start ≠ 1 := by
  intro made q left right
  have hmake : make (.ofNanos 0) (.ofNanos 11) ⟨true, false, true⟩ 2 = .ok made := rfl
  have hq : made.reviseAll [.restrict ⟨.source, "/labels/1"⟩, .keepEarlierHalf,
      .exclude [⟨53, 17⟩], .keepLaterHalf, .restrict ⟨.destination, "/labels/2"⟩] = some q := by
    decide
  have hhalves : q.split? = some (left, right) := by decide
  have hplain : q.window.Plain := ⟨by decide, by decide⟩
  obtain ⟨hwell, -, hgroup, hexcluded, hshared, hnone⟩ := revised_wellFormed hmake hq
  refine ⟨hmake, hq, hwell, ?_, hexcluded, hshared left right hhalves, hplain, ?_⟩
  · rw [Ne, hgroup]
    decide
  · rw [Ne, ← hnone hplain, hhalves]
    simp

end FlowQuery

end TrafficDigest
