import Mathlib.Data.List.Perm.Lattice
import Mathlib.Logic.Relation
import TrafficDigest.Proofs.Fetch.Step
import TrafficDigest.Proofs.Window.Tiling

/-!
# The split tree

With a source whose answers depend on the query alone, which windows are asked for and which become
leaves is fixed before the first query is sent: a window whose answer reaches the threshold has its
halves below it, any other window has nothing below it.  `InTree` says which queries belong to the
tree, and `leavesOf` lists its leaves in the order of time.

A fetch walks through the tree in an order that the schedule chooses.  What every order has in
common is an invariant of `Reachable`:

* **`Reachable.leaves_perm`** — the leaves so far and those below what is in play are, up to their
  order, the leaves of the tree.
* `Reachable.inTree` and `Reachable.answered_or_inPlay` — nothing outside the tree is ever in play,
  and everything in the tree was answered or is still below something in play.
* `tiles_leavesOf` — the leaves of a tree without failures tile the window at its root.
-/

namespace TrafficDigest

/-! ## Halves of queries -/

namespace FlowQuery

lemma split?_eq_some {q left right : FlowQuery} :
    q.split? = some (left, right) ↔
      ∃ u v, q.window.split? = some (u, v) ∧ left = q.withWindow u ∧ right = q.withWindow v := by
  simp only [split?, Option.map_eq_some_iff, Prod.exists, Prod.mk.injEq]
  constructor
  · rintro ⟨u, v, huv, rfl, rfl⟩
    exact ⟨u, v, huv, rfl, rfl⟩
  · rintro ⟨u, v, huv, rfl, rfl⟩
    exact ⟨u, v, huv, rfl, rfl⟩

/-- The halves of a query share the midpoint of its bounds, which lies between them. -/
lemma bounds_split? {q left right : FlowQuery} (h : q.split? = some (left, right)) :
    let mid := q.start.midpoint q.stop
    (q.start < mid ∧ mid < q.stop) ∧ (left.start = q.start ∧ left.stop = mid) ∧
      right.start = mid ∧ right.stop = q.stop := by
  obtain ⟨u, v, huv, rfl, rfl⟩ := split?_eq_some.mp h
  simp only [Window.split?] at huv
  split at huv
  · rename_i hmid
    cases huv
    exact ⟨hmid, ⟨rfl, rfl⟩, rfl, rfl⟩
  · cases huv

end FlowQuery

namespace Fetch

/-- The property passes from a query to its halves. -/
def PassesToHalves (P : FlowQuery → Prop) : Prop :=
  ∀ w left right, w.split? = some (left, right) → P w → P left ∧ P right

lemma passesToHalves_eq_withWindow (q : FlowQuery) :
    PassesToHalves fun w => w = q.withWindow w.window := by
  intro w left right hs hw
  obtain ⟨u, v, -, rfl, rfl⟩ := FlowQuery.split?_eq_some.mp hs
  rw [hw]
  exact ⟨rfl, rfl⟩

variable {answer : FlowQuery → Except FlowError (List FlowRecord)} {threshold : Nat}

/-! ## The tree -/

/-- `v` is one of the halves that are asked for once the answer to `w` reached the threshold. -/
def Half (answer : FlowQuery → Except FlowError (List FlowRecord)) (threshold : Nat)
    (w v : FlowQuery) : Prop :=
  ∃ records left right, answer w = .ok records ∧ threshold ≤ records.length ∧
    w.split? = some (left, right) ∧ (v = left ∨ v = right)

/-- **The queries of the split tree** with `q` at its root. -/
def InTree (answer : FlowQuery → Except FlowError (List FlowRecord)) (threshold : Nat) :
    FlowQuery → FlowQuery → Prop :=
  Relation.ReflTransGen (Half answer threshold)

/-- No query of the tree fails. -/
def NeverFails (answer : FlowQuery → Except FlowError (List FlowRecord)) (threshold : Nat)
    (q : FlowQuery) : Prop :=
  ∀ w, InTree answer threshold q w → ∃ records, answer w = .ok records

lemma half_left {w left right : FlowQuery} {records : List FlowRecord}
    (ha : answer w = .ok records) (hfull : threshold ≤ records.length)
    (hs : w.split? = some (left, right)) : Half answer threshold w left :=
  ⟨records, left, right, ha, hfull, hs, Or.inl rfl⟩

lemma half_right {w left right : FlowQuery} {records : List FlowRecord}
    (ha : answer w = .ok records) (hfull : threshold ≤ records.length)
    (hs : w.split? = some (left, right)) : Half answer threshold w right :=
  ⟨records, left, right, ha, hfull, hs, Or.inr rfl⟩

lemma NeverFails.of_half {w v : FlowQuery} (h : NeverFails answer threshold w)
    (hv : Half answer threshold w v) : NeverFails answer threshold v :=
  fun u hu => h u (Relation.ReflTransGen.head hv hu)

/-- What passes to halves holds of all queries of the tree if it holds of the one at the root. -/
lemma InTree.of_passes {P : FlowQuery → Prop} (hhalves : PassesToHalves P) {q w : FlowQuery}
    (h : InTree answer threshold q w) (hq : P q) : P w := by
  induction h with
  | refl => exact hq
  | tail _ hhalf ih =>
      obtain ⟨_, left, right, -, -, hs, hv⟩ := hhalf
      obtain ⟨hl, hr⟩ := hhalves _ left right hs ih
      rcases hv with rfl | rfl
      · exact hl
      · exact hr

/-! ## Its leaves -/

/-- **The leaves of the tree** in the order of time.  Below a query that fails there are none. -/
def leavesOf (answer : FlowQuery → Except FlowError (List FlowRecord)) (threshold : Nat)
    (q : FlowQuery) : List Leaf :=
  match answer q with
  | .error _ => []
  | .ok records =>
    if threshold ≤ records.length then
      match _h : q.split? with
      | some (left, right) => leavesOf answer threshold left ++ leavesOf answer threshold right
      | none => [⟨q.window, records⟩]
    else [⟨q.window, records⟩]
termination_by Progress.workOf q
decreasing_by
  · have := Progress.workOf_split _h
    omega
  · have := Progress.workOf_split _h
    omega

lemma leavesOf_split {q left right : FlowQuery} {records : List FlowRecord}
    (ha : answer q = .ok records) (hfull : threshold ≤ records.length)
    (hs : q.split? = some (left, right)) :
    leavesOf answer threshold q
      = leavesOf answer threshold left ++ leavesOf answer threshold right := by
  rw [leavesOf, ha]
  simp only [hfull, if_true]
  split
  · rename_i hs'
    cases hs.symm.trans hs'
    rfl
  · rename_i hs'
    cases hs.symm.trans hs'

/-- A query that is not split has itself for its only leaf. -/
lemma leavesOf_leaf {q : FlowQuery} {records : List FlowRecord} (ha : answer q = .ok records)
    (h : records.length < threshold ∨ q.split? = none) :
    leavesOf answer threshold q = [⟨q.window, records⟩] := by
  rw [leavesOf, ha]
  simp only [ite_eq_right_iff]
  intro hfull
  have hs : q.split? = none := h.resolve_left (by omega)
  split
  · rename_i hs'
    cases hs.symm.trans hs'
  · rfl

/-- **Induction over a tree without failures:** for a leaf, and from the halves to the whole. -/
lemma NeverFails.induction {P : FlowQuery → Prop} {q : FlowQuery}
    (h : NeverFails answer threshold q)
    (leaf : ∀ (w : FlowQuery) (records : List FlowRecord), answer w = .ok records →
      records.length < threshold ∨ w.split? = none → P w)
    (node : ∀ (w left right : FlowQuery) (records : List FlowRecord), answer w = .ok records →
      threshold ≤ records.length → w.split? = some (left, right) → P left → P right → P w) :
    P q := by
  induction q using leavesOf.induct answer threshold with
  | case1 q e he =>
      obtain ⟨records, ha⟩ := h q .refl
      cases he.symm.trans ha
  | case2 q records ha hfull left right hs ih₁ ih₂ =>
      exact node q left right records ha hfull hs
        (ih₁ (h.of_half (half_left ha hfull hs))) (ih₂ (h.of_half (half_right ha hfull hs)))
  | case3 q records ha hfull hs => exact leaf q records ha (Or.inr hs)
  | case4 q records ha hfull => exact leaf q records ha (Or.inl (by omega))

/-- **The leaves tile the window at the root.** -/
lemma tiles_leavesOf {q : FlowQuery} (h : NeverFails answer threshold q) :
    Window.Tiles q.start ((leavesOf answer threshold q).map (·.window)) q.stop := by
  refine h.induction (P := fun q =>
    Window.Tiles q.start ((leavesOf answer threshold q).map (·.window)) q.stop) ?_ ?_
  · intro w records ha hleaf
    rw [leavesOf_leaf ha hleaf]
    exact Window.tiles_singleton w.window
  · intro w left right records ha hfull hs hl hr
    rw [leavesOf_split ha hfull hs, List.map_append]
    obtain ⟨u, v, huv, rfl, rfl⟩ := FlowQuery.split?_eq_some.mp hs
    obtain ⟨h₁, h₂, h₃⟩ := Window.bounds_split? huv
    refine Window.tiles_append.mpr ⟨u.stop, ?_, ?_⟩
    · show Window.Tiles w.window.start _ _
      rw [← h₁]
      exact hl
    · show Window.Tiles u.stop _ w.window.stop
      rw [h₂, ← h₃]
      exact hr

/-! ## Every schedule walks through the tree -/

section Schedules

variable {settings : Settings} {q : FlowQuery} {p : Progress}

/-- **The leaves so far and those to come are the leaves of the tree**, up to their order. -/
theorem Reachable.leaves_perm (h : Reachable (.ofFunction answer) settings q p) :
    (p.leaves ++ p.inPlay.flatMap (leavesOf answer settings.threshold)).Perm
      (leavesOf answer settings.threshold q) := by
  induction h with
  | start => simp [Progress.start, Progress.inPlay]
  | @step p p' _ hs ih =>
      obtain ⟨w, records, ha, hs⟩ := hs.settles
      have ha : answer w = .ok records := ha.symm
      refine List.Perm.trans ?_ ih
      cases hs with
      | split full halves before after leaves _ =>
          rw [leaves]
          refine List.Perm.append_left _ ?_
          refine (after.flatMap_right _).trans (List.Perm.trans ?_ (before.flatMap_right _).symm)
          simp only [List.flatMap_cons, leavesOf_split ha full halves, List.append_assoc]
          exact List.Perm.refl _
      | leaf unsplit before after leaves _ =>
          rw [leaves, List.append_assoc]
          refine List.Perm.append_left _ ?_
          refine List.Perm.trans ?_ (before.flatMap_right _).symm
          simp only [List.flatMap_cons, leavesOf_leaf ha unsplit]
          exact (after.flatMap_right _).append_left _

/-- Nothing outside the tree is ever in play. -/
lemma Reachable.inTree (h : Reachable (.ofFunction answer) settings q p) :
    ∀ v ∈ p.inPlay, InTree answer settings.threshold q v := by
  induction h with
  | start =>
      intro v hv
      rw [Progress.inPlay_start, List.mem_singleton] at hv
      rw [hv]
      exact .refl
  | @step p p' _ hs ih =>
      obtain ⟨w, records, ha, hs⟩ := hs.settles
      have ha : answer w = .ok records := ha.symm
      have hw := ih w hs.mem_inPlay
      intro v hv
      cases hs with
      | split full halves before after _ _ =>
          rcases List.mem_cons.mp (after.mem_iff.mp hv) with rfl | hv
          · exact hw.tail (half_left ha full halves)
          rcases List.mem_cons.mp hv with rfl | hv
          · exact hw.tail (half_right ha full halves)
          · exact ih v (before.mem_iff.mpr (List.mem_cons_of_mem _ hv))
      | leaf _ before after _ _ =>
          exact ih v (before.mem_iff.mpr (List.mem_cons_of_mem _ (after.mem_iff.mp hv)))

/-- Everything in the tree was answered or is below something in play. -/
lemma Reachable.answered_or_inPlay (h : Reachable (.ofFunction answer) settings q p)
    {u : FlowQuery} (hu : InTree answer settings.threshold q u) :
    (∃ records, answer u = .ok records) ∨
      ∃ v ∈ p.inPlay, InTree answer settings.threshold v u := by
  induction h with
  | start => exact Or.inr ⟨q, by simp, hu⟩
  | @step p p' _ hs ih =>
      obtain ⟨w, records, ha, hs⟩ := hs.settles
      have ha : answer w = .ok records := ha.symm
      obtain hans | ⟨v, hv, hvu⟩ := ih
      · exact Or.inl hans
      -- `v` is still in play, or it is the query that was answered
      have hcases : v = w ∨ v ∈ p'.inPlay := by
        cases hs with
        | split _ _ before after _ _ =>
            refine (List.mem_cons.mp (before.mem_iff.mp hv)).imp_right fun h => ?_
            exact after.mem_iff.mpr (by simp [h])
        | leaf _ before after _ _ =>
            exact (List.mem_cons.mp (before.mem_iff.mp hv)).imp_right after.mem_iff.mpr
      obtain rfl | hv' := hcases
      swap
      · exact Or.inr ⟨v, hv', hvu⟩
      rcases Relation.ReflTransGen.cases_head hvu with rfl | ⟨m, hvm, hmu⟩
      · exact Or.inl ⟨records, ha⟩
      obtain ⟨records', left, right, ha', hfull, halves, hm⟩ := hvm
      cases ha.symm.trans ha'
      cases hs with
      | split _ halves' before after _ _ =>
          cases halves.symm.trans halves'
          refine Or.inr ⟨m, after.mem_iff.mpr ?_, hmu⟩
          rcases hm with rfl | rfl <;> simp
      | leaf unsplit _ _ _ _ =>
          rcases unsplit with short | halves'
          · omega
          · cases halves.symm.trans halves'

end Schedules

end Fetch

end TrafficDigest
