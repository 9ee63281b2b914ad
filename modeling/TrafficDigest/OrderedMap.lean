/-!
# Maps in the order of their keys

A map from keys to values, kept as a list of entries with strictly increasing keys.  A map has one
such list, so maps with the same entries are equal, whatever the order in which the entries came.
`OrderedMap.update` changes the value of one key, and `get?_update` says what it does to each.
-/

namespace TrafficDigest

/-- Entries with strictly increasing keys. -/
structure OrderedMap (α β : Type) [Ord α] where
  entries : List (α × β)
  increasing : entries.Pairwise fun a b => compare a.1 b.1 = .lt
  deriving DecidableEq

namespace OrderedMap

variable {α β : Type} [Ord α]

/-- The map without entries. -/
def empty : OrderedMap α β := ⟨[], .nil⟩

instance : EmptyCollection (OrderedMap α β) := ⟨empty⟩

/-- The number of entries. -/
def size (m : OrderedMap α β) : Nat := m.entries.length

/-- The map has no entry. -/
def isEmpty (m : OrderedMap α β) : Bool := m.entries.isEmpty

/-- The values in the order of their keys. -/
def values (m : OrderedMap α β) : List β := m.entries.map (·.2)

/-! ## Lookup and update in a list of entries -/

/-- The value of a key. -/
def lookup (k : α) : List (α × β) → Option β
  | [] => none
  | (k', v) :: rest => if compare k k' = .eq then some v else lookup k rest

/-- The entries with the value of a key replaced by `f` of what it was.  The key goes before the
first larger one. -/
def updateEntries (k : α) (f : Option β → β) : List (α × β) → List (α × β)
  | [] => [(k, f none)]
  | (k', v) :: rest =>
    match compare k k' with
    | .lt => (k, f none) :: (k', v) :: rest
    | .eq => (k', f (some v)) :: rest
    | .gt => (k', v) :: updateEntries k f rest

/-- A key below the new key and all old ones is below all keys after the update. -/
theorem lt_of_mem_updateEntries {k lo : α} {f : Option β → β} {es : List (α × β)}
    (hk : compare lo k = .lt) (hes : ∀ e ∈ es, compare lo e.1 = .lt) :
    ∀ e ∈ updateEntries k f es, compare lo e.1 = .lt := by
  fun_induction updateEntries k f es with
  | case1 => simpa using hk
  | case2 => exact List.forall_mem_cons.2 ⟨hk, hes⟩
  | case3 => exact List.forall_mem_cons.2 (List.forall_mem_cons.1 hes)
  | case4 _ _ _ _ ih =>
    have := List.forall_mem_cons.1 hes
    exact List.forall_mem_cons.2 ⟨this.1, ih this.2⟩

variable [Std.TransOrd α]

/-- An update keeps the keys increasing. -/
theorem increasing_updateEntries {k : α} {f : Option β → β} {es : List (α × β)}
    (h : es.Pairwise fun a b => compare a.1 b.1 = .lt) :
    (updateEntries k f es).Pairwise fun a b => compare a.1 b.1 = .lt := by
  fun_induction updateEntries k f es with
  | case1 => simp
  | case2 k' v rest hc =>
    refine List.pairwise_cons.2 ⟨fun e he => ?_, h⟩
    rcases List.mem_cons.1 he with rfl | he
    · exact hc
    · exact Std.TransCmp.lt_trans hc ((List.pairwise_cons.1 h).1 e he)
  | case3 => exact List.pairwise_cons.2 ⟨(List.pairwise_cons.1 h).1, (List.pairwise_cons.1 h).2⟩
  | case4 k' v rest hc ih =>
    exact List.pairwise_cons.2 ⟨lt_of_mem_updateEntries (Std.OrientedCmp.gt_iff_lt.1 hc)
      (List.pairwise_cons.1 h).1, ih (List.pairwise_cons.1 h).2⟩

/-! ## Lookup and update -/

omit [Std.TransOrd α] in
/-- The value of a key. -/
def get? (m : OrderedMap α β) (k : α) : Option β := lookup k m.entries

omit [Std.TransOrd α] in
@[simp] theorem get?_empty (k : α) : (∅ : OrderedMap α β).get? k = none := rfl

/-- **The map with the value of a key replaced** by `f` of what it was. -/
def update (m : OrderedMap α β) (k : α) (f : Option β → β) : OrderedMap α β :=
  ⟨updateEntries k f m.entries, increasing_updateEntries m.increasing⟩

/-- The map of a list of pairs; of two pairs with the same key the later counts. -/
def ofList (pairs : List (α × β)) : OrderedMap α β :=
  pairs.foldl (fun m (k, v) => m.update k fun _ => v) empty

variable [Std.LawfulEqOrd α] [DecidableEq α]

omit [Std.TransOrd α] [Std.LawfulEqOrd α] [DecidableEq α] in
/-- A key below all keys has no value. -/
theorem lookup_eq_none_of_lt {k : α} {es : List (α × β)}
    (h : ∀ e ∈ es, compare k e.1 = .lt) : lookup k es = none := by
  induction es with
  | nil => rfl
  | cons e es ih =>
    have := List.forall_mem_cons.1 h
    simp [lookup, this.1, ih this.2]

theorem lookup_updateEntries (k k' : α) (f : Option β → β) (es : List (α × β))
    (h : es.Pairwise fun a b => compare a.1 b.1 = .lt) :
    lookup k' (updateEntries k f es) =
      if k' = k then some (f (lookup k es)) else lookup k' es := by
  induction es with
  | nil => simp [updateEntries, lookup]
  | cons e es ih =>
    obtain ⟨h₁, h₂⟩ := List.pairwise_cons.1 h
    simp only [updateEntries]
    split <;> rename_i hc
    · have hnone : lookup k (e :: es) = none := lookup_eq_none_of_lt
        (List.forall_mem_cons.2 ⟨hc, fun x hx => Std.TransCmp.lt_trans hc (h₁ x hx)⟩)
      rw [hnone]
      simp [lookup]
    · obtain rfl := Std.LawfulEqOrd.eq_of_compare hc
      by_cases hk : k' = e.1 <;> simp [lookup, hk]
    · have hne : k ≠ e.1 := by
        rintro rfl
        simp at hc
      simp only [lookup, ih h₂, Std.LawfulEqOrd.compare_eq_iff_eq, hne, if_false]
      by_cases hk : k' = e.1
      · simp [hk, hne.symm]
      · simp [hk]

/-- An update gives one key a new value and leaves the others as they are. -/
theorem get?_update (m : OrderedMap α β) (k k' : α) (f : Option β → β) :
    (m.update k f).get? k' = if k' = k then some (f (m.get? k)) else m.get? k' :=
  lookup_updateEntries k k' f m.entries m.increasing

end OrderedMap

end TrafficDigest
