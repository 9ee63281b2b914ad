import TrafficDigest.Proofs.Pce.Collection
import TrafficDigest.Proofs.Pce.Page

/-!
# Directories are never short

A directory is made from a collection.  `KnowsExactly` says what the directory made of some objects
answers: for each key the object with that key that came last.  `Builds` says what comes of a call:
it goes by the protocol, and it gives a directory exactly if its exchanges supply a collection that
is no shorter than the first reply announced.  `directories_complete` puts the two together.
-/

namespace TrafficDigest

/-- **The last member of a list with a property.** -/
def LastWith {α : Type} (p : α → Prop) (l : List α) (a : α) : Prop :=
  ∃ before after, l = before ++ a :: after ∧ p a ∧ ∀ b ∈ after, ¬p b

lemma find?_reverse_eq_some {α : Type} {p : α → Bool} {l : List α} {a : α} :
    l.reverse.find? p = some a ↔ LastWith (p · = true) l a := by
  rw [List.find?_eq_some_iff_append]
  constructor
  · rintro ⟨ha, after, before, heq, hafter⟩
    refine ⟨before.reverse, after.reverse, ?_, ha, fun b hb => ?_⟩
    · rw [← List.reverse_reverse l, heq]
      simp
    · simpa using hafter b (List.mem_reverse.mp hb)
  · rintro ⟨before, after, rfl, ha, hafter⟩
    refine ⟨ha, after.reverse, before.reverse, by simp, fun b hb => ?_⟩
    simpa using hafter b (List.mem_reverse.mp hb)

/-! ## What a directory knows -/

/-- The directory knows these labels and no others: an href leads to the last of them that has
it. -/
structure LabelDirectory.KnowsExactly (directory : LabelDirectory) (ls : List Label) : Prop where
  found : ∀ href l, directory.get? href = some l ↔ LastWith (·.href = href) ls l
  unknown : ∀ href, directory.get? href = none ↔ ∀ l ∈ ls, l.href ≠ href

lemma LabelDirectory.knowsExactly_ofList (ls : List Label) : (ofList ls).KnowsExactly ls where
  found href l := by
    rw [get?, ofList, find?_reverse_eq_some]
    simp only [beq_iff_eq]
  unknown href := by simp [get?, ofList]

/-- The directory knows these workloads, as far as they have a hostname, and no others: a hostname
leads to the last of them that has it. -/
structure WorkloadDirectory.KnowsExactly (directory : WorkloadDirectory) (ws : List Workload) :
    Prop where
  found : ∀ hostname w, directory.get? hostname = some w ↔
    hostname ≠ "" ∧ LastWith (·.hostname = hostname) ws w
  unknown : ∀ hostname, directory.get? hostname = none ↔
    hostname = "" ∨ ∀ w ∈ ws, w.hostname ≠ hostname

lemma WorkloadDirectory.get?_ofList (ws : List Workload) (hostname : String) :
    (ofList ws).get? hostname =
      if hostname = "" then none else ws.reverse.find? (·.hostname == hostname) := by
  rw [get?, ofList, ← List.filter_reverse, List.find?_filter]
  split
  next hempty =>
    rw [List.find?_eq_none]
    simp [hempty]
  next hne =>
    congr 1
    funext w
    by_cases hw : w.hostname = hostname
    · simp [hw, hne]
    · simp [hw]

lemma WorkloadDirectory.knowsExactly_ofList (ws : List Workload) :
    (ofList ws).KnowsExactly ws where
  found hostname w := by
    rw [get?_ofList, Option.ite_none_left_eq_some, find?_reverse_eq_some]
    simp only [beq_iff_eq]
  unknown hostname := by
    rw [get?_ofList]
    split
    next hempty => simp [hempty]
    next hne => simp [hne]

namespace Pce

open Http (Exchange Course Reply Request Response Session)

/-! ## Where a collection comes from -/

variable {α : Type} {c : Config} {path : String} {d : Json.Decoder α} {s s' : Session}

/-- **Objects as a call gets them:** it goes by the protocol, and its exchanges supply them. -/
structure Gets (c : Config) (path : String) (d : Json.Decoder α) (s s' : Session)
    (items : List α) (v : Conversation) : Prop where
  course : Course s v.exchanges s'
  follows : v.Follows c path d
  supplies : v.Supplies d items

/-- **What comes of a call for a directory.**  The call goes by the protocol, and there is a
directory exactly if its exchanges supply objects, which are then those that it knows. -/
structure Builds {δ : Type} (c : Config) (path : String) (d : Json.Decoder α) (s : Session)
    (run : Except ClientError δ × Session) (knows : δ → List α → Prop) (v : Conversation) :
    Prop where
  course : Course s v.exchanges run.2
  follows : v.Follows c path d
  first : v.page.reply = s.next
  succeeds : ∀ items, v.Supplies d items → ∃ directory, run.1 = .ok directory ∧
    knows directory items
  supplied : ∀ directory, run.1 = .ok directory → ∃ items, v.Supplies d items ∧
    knows directory items

/-- A directory made of a collection is built so. -/
lemma exists_builds {δ : Type} {make : List α → δ} {knows : δ → List α → Prop}
    (hmake : ∀ items, knows (make items) items) (c : Config) (path : String)
    (d : Json.Decoder α) (s : Session) :
    ∃ v, Builds c path d s (((collection c path d).run.run s).1.map make,
      ((collection c path d).run.run s).2) knows v := by
  obtain ⟨v, hv⟩ := collection_course c path d s
  refine ⟨v, hv.course, hv.follows, hv.course.head_reply v.page rfl, ?_, ?_⟩
  · intro items hitems
    exact ⟨make items, map_eq_ok.mpr ⟨items, (hv.delivers items).mpr hitems, rfl⟩, hmake items⟩
  · intro directory hok
    obtain ⟨items, hitems, rfl⟩ := map_eq_ok.mp hok
    exact ⟨items, (hv.delivers items).mp hitems, hmake items⟩

lemma exists_builds_labels (c : Config) (s : Session) :
    ∃ v, Builds c "/labels" label.decode s ((labels c).run.run s)
      LabelDirectory.KnowsExactly v := by
  rw [run_labels]
  exact exists_builds LabelDirectory.knowsExactly_ofList c "/labels" label.decode s

lemma exists_builds_workloads (c : Config) (s : Session) :
    ∃ v, Builds c "/workloads" workload.decode s ((workloads c).run.run s)
      WorkloadDirectory.KnowsExactly v := by
  rw [run_workloads]
  exact exists_builds WorkloadDirectory.knowsExactly_ofList c "/workloads" workload.decode s

namespace Builds

variable {δ : Type} {run : Except ClientError δ × Session} {knows : δ → List α → Prop}
  {v : Conversation}

lemma gets {directory : δ} (h : Builds c path d s run knows v) (hok : run = (.ok directory, s')) :
    ∃ items, Gets c path d s s' items v ∧ knows directory items := by
  subst hok
  obtain ⟨items, hitems, hknows⟩ := h.supplied directory rfl
  exact ⟨items, ⟨h.course, h.follows, hitems⟩, hknows⟩

/-- Objects that a call supplies were in a reply that was to come. -/
lemma exists_reply {items : List α} (h : Builds c path d s run knows v)
    (hitems : v.Supplies d items) : ∃ reply ∈ s.replies, items? d reply = some items := by
  obtain ⟨⟨x, hlast, -, hx⟩, -⟩ := hitems
  rcases h.course.reply_mem x (List.mem_of_getLast? hlast) with hmem | hexhausted
  · exact ⟨x.reply, hmem, hx⟩
  · rw [hexhausted] at hx
    cases hx

end Builds

/-- No reply that is to come holds as many objects. -/
def NeverHolds (d : Json.Decoder α) (s : Session) (total : Nat) : Prop :=
  ∀ reply ∈ s.replies, ∀ items, items? d reply = some items → items.length < total

/-- If what the first reply announced never comes, the call fails. -/
lemma Builds.exists_error {δ : Type} {run : Except ClientError δ × Session}
    {knows : δ → List α → Prop} {v : Conversation} {total : Nat}
    (h : Builds c path d s run knows v) (htotal : announced? s.next = some total)
    (hnever : NeverHolds d s total) : ∃ e, run.1 = .error e := by
  cases hrun : run.1 with
  | error e => exact ⟨e, rfl⟩
  | ok directory =>
      obtain ⟨items, hitems, -⟩ := h.supplied directory hrun
      obtain ⟨reply, hmem, hreply⟩ := h.exists_reply hitems
      have hless : items.length < total := hnever reply hmem items hreply
      have hall : total ≤ items.length := hitems.2 total (by rw [h.first, htotal])
      exact absurd hall (Nat.not_le.mpr hless)

/-! ## Directories -/

lemma labels_eq_ok {directory : LabelDirectory} (h : (labels c).run.run s = (.ok directory, s')) :
    ∃ ls v, Gets c "/labels" label.decode s s' ls v ∧ directory.KnowsExactly ls := by
  obtain ⟨v, hv⟩ := exists_builds_labels c s
  obtain ⟨ls, hls⟩ := hv.gets h
  exact ⟨ls, v, hls⟩

lemma workloads_eq_ok {directory : WorkloadDirectory}
    (h : (workloads c).run.run s = (.ok directory, s')) :
    ∃ ws v, Gets c "/workloads" workload.decode s s' ws v ∧ directory.KnowsExactly ws := by
  obtain ⟨v, hv⟩ := exists_builds_workloads c s
  obtain ⟨ws, hws⟩ := hv.gets h
  exact ⟨ws, v, hws⟩

/-- **Directories are never short.**  Whatever the configuration and the replies to come, there is a
directory of labels or workloads exactly if a collection is supplied that is no shorter than the
first reply announced, and the directory knows exactly its objects.  If no reply holds as many
objects as that, the call fails. -/
theorem directories_complete (c : Config) (s : Session) :
    (∃ v, Builds c "/labels" label.decode s ((labels c).run.run s)
      LabelDirectory.KnowsExactly v) ∧
    (∃ v, Builds c "/workloads" workload.decode s ((workloads c).run.run s)
      WorkloadDirectory.KnowsExactly v) ∧
    ∀ total, announced? s.next = some total →
      (NeverHolds label.decode s total → ∃ e, ((labels c).run.run s).1 = .error e) ∧
      (NeverHolds workload.decode s total → ∃ e, ((workloads c).run.run s).1 = .error e) := by
  obtain ⟨v, hv⟩ := exists_builds_labels c s
  obtain ⟨w, hw⟩ := exists_builds_workloads c s
  exact ⟨⟨v, hv⟩, ⟨w, hw⟩, fun total htotal => ⟨hv.exists_error htotal, hw.exists_error htotal⟩⟩

/-- A reply that reports success. -/
def success (headers : Http.Pairs) (body : String) : Reply := .response ⟨200, headers, body⟩

/-- The label of an application as it is listed, in pieces of text. -/
def listedLabel (href value : String) : List String :=
  ["\x7b\"href\":\"", href, "\",\"key\":\"app\",\"value\":\"", value, "\"\x7d"]

/-- Replies that lead to two labels by way of a job.  Both labels have the same href. -/
def byJob : Session where
  replies := [success [("x-total-count", "2")] "[]",
    success [("location", "/jobs/7"), ("retry-after", "600")] "",
    success [] "\x7b\"status\":\"pending\"\x7d",
    success [] "\x7b\"status\":\"done\",\"result\":\x7b\"href\":\"/datafiles/7\"\x7d\x7d",
    success [] (String.join (["["] ++ listedLabel "/labels/1" "old" ++ [","] ++
      listedLabel "/labels/1" "shop" ++ ["]"]))]

/-- The waits before the status is asked for are one of sixty seconds and one of five. -/
example : ((labels samplePce).run.run byJob).2.clock = 65 := by decide +kernel

/-- The directory that comes of them knows the later label. -/
theorem labels_byJob :
    ∃ v directory ls, Builds samplePce "/labels" label.decode byJob
        ((labels samplePce).run.run byJob) LabelDirectory.KnowsExactly v ∧
      ((labels samplePce).run.run byJob).1 = .ok directory ∧
      directory.get? "/labels/1" = some ⟨"/labels/1", "app", "shop"⟩ ∧
      v.Supplies label.decode ls ∧ directory.KnowsExactly ls := by
  have hrun : ((labels samplePce).run.run byJob).1.toOption.map (·.get? "/labels/1")
      = some (some ⟨"/labels/1", "app", "shop"⟩) := by
    decide +kernel
  obtain ⟨⟨v, hv⟩, -, -⟩ := directories_complete samplePce byJob
  cases hok : ((labels samplePce).run.run byJob).1 with
  | error e =>
      rw [hok] at hrun
      cases hrun
  | ok directory =>
      rw [hok] at hrun
      obtain ⟨ls, hls, hknows⟩ := hv.supplied directory hok
      exact ⟨v, directory, ls, hv, rfl, Option.some.inj hrun, hls, hknows⟩

end Pce

end TrafficDigest
