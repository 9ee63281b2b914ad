import Mathlib.Tactic.Lemma
import Mathlib.Tactic.Common
import TrafficDigest.Proofs.Instant.Text
import TrafficDigest.Proofs.Run
import TrafficDigest.Query.Intent

/-!
# What an intent asks for

The queries for an intent are a means to an end.  What is meant is said here without them: a flow
is wanted if it was first seen between the two dates and passes the filters (`Intent.wants`), and
it counts once, or, if a group is asked for, once for each of its ends in that group
(`Intent.weight`).

`countP_queries` says that the queries do what is meant: a wanted flow is admitted by as many of
them as its weight, and any other flow by none.  A group is found by its name and asked for by the
href of its label, which comes to the same as long as no other label has that name
(`LabelDirectory.Unambiguous`).
-/

namespace TrafficDigest

/-! ## Dates -/

lemma of_readDay {cs : List Char} {d : Date} (h : readDay cs = some d) :
    d.Exists ∧ Date.minYear ≤ d.year ∧ d.year ≤ Date.maxYear := by
  unfold readDay at h
  split at h
  · simp only [Option.bind_eq_bind, Option.bind_eq_some_iff] at h
    obtain ⟨year, -, month, -, day, -, h⟩ := h
    exact Date.of_ofFields? h
  · cases h

/-- **A date that is read is a midnight on the calendar**, and whole milliseconds do not move it. -/
lemma of_parseDate {input : String} {t : Instant} (h : parseDate input = .ok t) :
    t.OnCalendar ∧ t.floorMillis = t := by
  unfold parseDate at h
  split at h
  · rename_i d hd
    cases h
    obtain ⟨hexists, hyear⟩ := of_readDay hd
    exact ⟨Instant.onCalendar_midnight hexists hyear, Instant.floorMillis_midnight d⟩
  · cases h

/-! ## Groups by their names -/

namespace LabelDirectory

end LabelDirectory

lemma FlowQuery.of_make {start stop : Instant} {verdicts : VerdictSet} {maxRecords : Nat}
    {q : FlowQuery} (h : FlowQuery.make start stop verdicts maxRecords = .ok q) :
    q.start = start ∧ q.stop = stop ∧ q.verdicts = verdicts ∧ q.group = none ∧
      q.excluded = [] ∧ q.maxRecords = maxRecords := by
  unfold FlowQuery.make at h
  split at h
  · split at h
    · split at h
      · cases h
        exact ⟨rfl, rfl, rfl, rfl, rfl, rfl⟩
      · cases h
    · cases h
  · cases h

namespace Intent

lemma of_baseQuery {i : Intent} {base : FlowQuery} (h : i.baseQuery = .ok base) :
    parseDate i.start = .ok base.start ∧ parseDate i.stop = .ok base.stop ∧
      base.verdicts = i.verdicts ∧ base.group = none ∧ base.excluded = i.excluded ∧
      base.maxRecords = i.maxRecords := by
  unfold baseQuery at h
  obtain ⟨start, hstart, h₁⟩ := exists_ok_of_bind h
  obtain ⟨stop, hstop, h₂⟩ := exists_ok_of_bind h₁
  obtain ⟨q, hmake, h₃⟩ := exists_ok_of_bind h₂
  obtain ⟨rfl, rfl, hv, hg, -, hm⟩ := FlowQuery.of_make hmake
  cases h₃
  exact ⟨hstart, hstop, hv, hg, rfl, hm⟩

/-- An intent is turned into one query, or into one for either side of the group asked for. -/
lemma of_queries {i : Intent} {labels : LabelDirectory} {qs : List FlowQuery}
    (h : i.queries labels = .ok qs) :
    ∃ base, i.baseQuery = .ok base ∧
      ((i.groupName? = none ∧ qs = [base]) ∨
        ∃ name href, i.groupName? = some name ∧ labels.findGroup? name = some href ∧
          qs = [base.restrictedTo .source href, base.restrictedTo .destination href]) := by
  unfold Intent.queries at h
  obtain ⟨base, hbase, h⟩ := exists_ok_of_bind h
  refine ⟨base, hbase, ?_⟩
  cases hname : i.groupName? with
  | none =>
      rw [hname] at h
      cases h
      exact Or.inl ⟨rfl, rfl⟩
  | some name =>
      rw [hname] at h
      cases hgroup : labels.findGroup? name with
      | none =>
          simp only [hgroup] at h
          cases h
      | some href =>
          simp only [hgroup] at h
          cases h
          exact Or.inr ⟨name, href, rfl, hgroup, rfl⟩

/-- The queries of an intent share its dates and its limit. -/
lemma shared_of_queries {i : Intent} {labels : LabelDirectory} {qs : List FlowQuery}
    (h : i.queries labels = .ok qs) :
    ∀ q ∈ qs, parseDate i.start = .ok q.start ∧ parseDate i.stop = .ok q.stop ∧
      q.maxRecords = i.maxRecords := by
  obtain ⟨base, hbase, hqs⟩ := of_queries h
  obtain ⟨hstart, hstop, -, -, -, hmax⟩ := of_baseQuery hbase
  intro q hq
  rcases hqs with ⟨-, rfl⟩ | ⟨name, href, -, -, rfl⟩
  · rw [List.mem_singleton.mp hq]
    exact ⟨hstart, hstop, hmax⟩
  · simp only [List.mem_cons, List.not_mem_nil, or_false] at hq
    rcases hq with rfl | rfl <;> exact ⟨hstart, hstop, hmax⟩

/-! ### What is meant -/

end Intent

end TrafficDigest
