import TrafficDigest.Fetch.Schedule

/-!
# Histories of a fetch

`Fetch.Reachable` says which states a fetch may come to, but forgets which answers led there.  A
history keeps them: the queries that were answered, in the order of their answers, each with the
reply that it got.  What a reply means is a `Reading`, so that a history can say more about a reply
than the records that were made of it.
-/

namespace TrafficDigest.Fetch

/-- **A reading of replies:** which answer to a query a reply amounts to. -/
abbrev Reading (ρ : Type) := FlowQuery → ρ → Except FlowError (List FlowRecord)

/-- The answers of a source whose replies are read like this. -/
def Answers.ofReading {ρ : Type} (read : Reading ρ) : Answers :=
  fun q answer => ∃ reply, read q reply = answer

/-- A query with the reply to it. -/
structure Exchange (ρ : Type) where
  query : FlowQuery
  reply : ρ

/-- **The states that a fetch may come to before a failure**, each with the exchanges that led
there. -/
inductive History {ρ : Type} (read : Reading ρ) (settings : Settings) (q : FlowQuery) :
    List (Exchange ρ) → Progress → Prop
  | start : History read settings q [] (.start q)
  | step {log : List (Exchange ρ)} {p rest : Progress} {w : FlowQuery} {reply : ρ}
      {records : List FlowRecord} (h : History read settings q log p)
      (hw : Takes settings p w rest) (hr : read w reply = .ok records) :
      History read settings q (log ++ [⟨w, reply⟩]) (rest.settle settings.threshold w records)

variable {ρ : Type} {read : Reading ρ} {settings : Settings} {q : FlowQuery}

/-- A history leads to a reachable state. -/
theorem History.reachable {log : List (Exchange ρ)} {p : Progress}
    (h : History read settings q log p) : Reachable (Answers.ofReading read) settings q p := by
  induction h with
  | start => exact .start
  | step _ hw hr ih => exact .step ih (.settle hw ⟨_, hr⟩)

/-- Every reachable state has a history. -/
theorem Reachable.exists_history {p : Progress}
    (h : Reachable (Answers.ofReading read) settings q p) :
    ∃ log, History read settings q log p := by
  induction h with
  | start => exact ⟨[], .start⟩
  | step _ hs ih =>
    obtain ⟨log, hlog⟩ := ih
    cases hs with
    | settle hw ha =>
      obtain ⟨reply, hr⟩ := ha
      exact ⟨log ++ [⟨_, reply⟩], .step hlog hw hr⟩

end TrafficDigest.Fetch
