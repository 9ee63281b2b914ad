import Mathlib.Data.List.Induction
import Mathlib.Data.List.Perm.Basic
import Mathlib.Tactic.Common
import Mathlib.Tactic.Lemma
import TrafficDigest.OrderedMap
import TrafficDigest.Sum

/-!
# A map is what its lookups find

The entries of a map are what lookups find (`mem_entries_iff`).  Since a map has its entries in the
order of their keys, two maps in which lookups find the same are equal (`ext_get?`), and a map is
made again from its entries in any order (`ofList_of_perm`).  Sorted by another order, the entries
come out the same however they were listed, because no two have one key (`strict_mergeSort`).

`sumOf_values_update` is for sums over the values: an update changes one summand.
-/

namespace TrafficDigest.OrderedMap

variable {α β : Type} [Ord α]

/-! ## Lookups and entries -/

section Lookups

variable [Std.LawfulEqOrd α]

lemma mem_iff_lookup {k : α} {v : β} {es : List (α × β)}
    (h : es.Pairwise fun a b => compare a.1 b.1 = .lt) : (k, v) ∈ es ↔ lookup k es = some v := by
  induction es with
  | nil => simp [lookup]
  | cons e es ih =>
      obtain ⟨hfirst, hrest⟩ := List.pairwise_cons.mp h
      by_cases hk : k = e.1
      · -- the key is smaller than all that come later, so it is not one of theirs
        subst hk
        have hlater : (e.1, v) ∉ es := by
          intro hmem
          simpa using hfirst _ hmem
        simp [lookup, hlater, Prod.ext_iff, eq_comm]
      · simp [lookup, hk, Prod.ext_iff, ih hrest]

/-- **The entries are what lookups find.** -/
theorem mem_entries_iff {m : OrderedMap α β} {k : α} {v : β} :
    (k, v) ∈ m.entries ↔ m.get? k = some v :=
  mem_iff_lookup m.increasing

lemma distinct_keys (m : OrderedMap α β) : m.entries.Pairwise fun a b => a.1 ≠ b.1 := by
  refine m.increasing.imp fun {a b} hab heq => ?_
  simp [heq] at hab

lemma nodup_entries (m : OrderedMap α β) : m.entries.Nodup :=
  m.distinct_keys.imp fun hne heq => hne (congrArg Prod.fst heq)

/-- **A sorted listing of a map is strictly ordered**, if the order tells different keys apart. -/
lemma strict_mergeSort {m : OrderedMap α β} {listing : List (α × β)}
    (h : listing.Perm m.entries) {le : α × β → α × β → Bool}
    (htrans : ∀ a b c, le a b = true → le b c = true → le a c = true)
    (htotal : ∀ a b, (le a b || le b a) = true) {ahead : α × β → α × β → Prop}
    (hle : ∀ a b, le a b = true → a.1 = b.1 ∨ ahead a b) :
    (listing.mergeSort le).Pairwise ahead := by
  have hdistinct : (listing.mergeSort le).Pairwise fun a b => a.1 ≠ b.1 :=
    ((List.mergeSort_perm listing le).trans h).symm.pairwise m.distinct_keys fun hab => hab.symm
  refine (hdistinct.and (List.pairwise_mergeSort htrans htotal listing)).imp ?_
  rintro a b ⟨hne, hab⟩
  exact (hle a b hab).resolve_left hne

variable [Std.TransOrd α]

omit [Std.LawfulEqOrd α] in
/-- There is one order of entries in which the keys increase. -/
lemma eq_of_perm_of_increasing {es es' : List (α × β)} (h : es.Perm es')
    (hes : es.Pairwise fun a b => compare a.1 b.1 = .lt)
    (hes' : es'.Pairwise fun a b => compare a.1 b.1 = .lt) : es = es' := by
  refine h.eq_of_pairwise (fun a b _ _ hab hba => ?_) hes hes'
  cases hab.symm.trans (Std.OrientedCmp.gt_iff_lt.mpr hba)

/-- **Maps in which lookups find the same are equal.**  Their entries are the same, in one order or
another, and there is one order in which the keys increase. -/
theorem ext_get? {m m' : OrderedMap α β} (h : ∀ k, m.get? k = m'.get? k) : m = m' := by
  have hperm : m.entries.Perm m'.entries := by
    rw [List.perm_ext_iff_of_nodup m.nodup_entries m'.nodup_entries]
    rintro ⟨k, v⟩
    rw [mem_entries_iff, mem_entries_iff, h]
  have hentries : m.entries = m'.entries :=
    eq_of_perm_of_increasing hperm m.increasing m'.increasing
  cases m
  cases m'
  simpa using hentries

/-! ## Maps made from their entries -/

variable [DecidableEq α]

lemma get?_ofList {pairs : List (α × β)} (h : pairs.Pairwise fun a b => a.1 ≠ b.1) {k : α}
    {v : β} : (ofList pairs).get? k = some v ↔ (k, v) ∈ pairs := by
  induction pairs using List.reverseRecOn with
  | nil => simp [ofList, empty, get?, lookup]
  | append_singleton pairs p ih =>
      obtain ⟨hpairs, -, hlast⟩ := List.pairwise_append.mp h
      have hother : ∀ w, (p.1, w) ∉ pairs := by
        intro w hw
        exact hlast _ hw p (by simp) rfl
      have happend : ofList (pairs ++ [p]) = (ofList pairs).update p.1 fun _ => p.2 := by
        simp [ofList]
      rw [happend, get?_update]
      by_cases hk : k = p.1
      · simp [hk, hother, Prod.ext_iff, eq_comm]
      · simp [hk, Prod.ext_iff, ih hpairs]

/-- **A map is made again from its entries in any order.** -/
theorem ofList_of_perm {pairs : List (α × β)} {m : OrderedMap α β} (h : pairs.Perm m.entries) :
    ofList pairs = m := by
  have hpairs : pairs.Pairwise fun a b => a.1 ≠ b.1 :=
    h.symm.pairwise m.distinct_keys fun hab => hab.symm
  apply ext_get?
  intro k
  ext v
  rw [get?_ofList hpairs, h.mem_iff, mem_entries_iff]

end Lookups

/-! ## Sums over the values -/

variable [Std.TransOrd α]

lemma sumOf_updateEntries (f : β → Nat) (k : α) (g : Option β → β) {es : List (α × β)}
    (h : es.Pairwise fun a b => compare a.1 b.1 = .lt) :
    sumOf f ((updateEntries k g es).map (·.2)) + (lookup k es).elim 0 f
      = sumOf f (es.map (·.2)) + f (g (lookup k es)) := by
  induction es with
  | nil => simp [updateEntries, lookup]
  | cons e es ih =>
      obtain ⟨hfirst, hrest⟩ := List.pairwise_cons.mp h
      cases hc : compare k e.1 with
      | lt =>
          have hnone : lookup k es = none :=
            lookup_eq_none_of_lt fun x hx => Std.TransCmp.lt_trans hc (hfirst x hx)
          simp only [updateEntries, hc, List.map_cons, sumOf_cons, lookup, reduceCtorEq,
            if_false, hnone, Option.elim_none]
          omega
      | eq =>
          simp only [updateEntries, hc, List.map_cons, sumOf_cons, lookup, if_true,
            Option.elim_some]
          omega
      | gt =>
          have := ih hrest
          simp only [updateEntries, hc, List.map_cons, sumOf_cons, lookup, reduceCtorEq,
            if_false] at *
          omega

/-- **An update changes one summand.** -/
theorem sumOf_values_update (f : β → Nat) (m : OrderedMap α β) (k : α) (g : Option β → β) :
    sumOf f (m.update k g).values + (m.get? k).elim 0 f
      = sumOf f m.values + f (g (m.get? k)) :=
  sumOf_updateEntries f k g m.increasing

end TrafficDigest.OrderedMap
