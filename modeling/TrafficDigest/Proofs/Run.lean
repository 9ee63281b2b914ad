import Mathlib.Tactic.Lemma
import Mathlib.Tactic.Common
import Mathlib.Order.Defs.Unbundled

/-!
# Runs of steps that may fail

A step is run in a state and leaves another one behind, whether it fails or not.  `run_bind` says
how two steps are run one after the other, and `of_run_bind` what may have happened if they were.

What is said of two programs and passes from their parts to the whole is a `Congruence`.  Two are
used: what each of many steps does to the state, all of them together do (`Moves`), and programs of
which each step comes to the same do so as well (`Agrees`).
-/

namespace TrafficDigest

variable {ε σ α β : Type}

/-- A failing step ends the run, and any other passes on its result and the state it left. -/
lemma run_bind (x : ExceptT ε (StateM σ) α) (f : α → ExceptT ε (StateM σ) β) (s : σ) :
    (x >>= f).run.run s =
      match x.run.run s with
      | (.ok a, s') => (f a).run.run s'
      | (.error e, s') => (.error e, s') := by
  simp only [ExceptT.run_bind, StateT.run_bind]
  rcases x.run.run s with ⟨e | a, s'⟩ <;> rfl

/-- **What may have happened in two steps:** the first failed, or the second went on from it. -/
lemma of_run_bind {x : ExceptT ε (StateM σ) α} {f : α → ExceptT ε (StateM σ) β} {s s' : σ}
    {r : Except ε β} (h : (x >>= f).run.run s = (r, s')) :
    (∃ e, x.run.run s = (.error e, s') ∧ r = .error e) ∨
      ∃ a middle, x.run.run s = (.ok a, middle) ∧ (f a).run.run middle = (r, s') := by
  rw [run_bind] at h
  rcases hx : x.run.run s with ⟨e | a, middle⟩ <;> rw [hx] at h
  · cases h
    exact Or.inl ⟨e, rfl, rfl⟩
  · exact Or.inr ⟨a, middle, rfl, h⟩

lemma exists_ok_of_bind {x : Except ε α} {f : α → Except ε β} {b : β} (h : x >>= f = .ok b) :
    ∃ a, x = .ok a ∧ f a = .ok b := by
  cases x with
  | error e => cases h
  | ok a => exact ⟨a, rfl, h⟩

/-- What is made of a result is there if the result is. -/
lemma map_eq_ok {r : Except ε α} {f : α → β} {b : β} :
    r.map f = .ok b ↔ ∃ a, r = .ok a ∧ f a = b := by
  cases r <;> simp [Except.map]

lemma map_eq_error {r : Except ε α} {f : α → β} {e : ε} : r.map f = .error e ↔ r = .error e := by
  cases r <;> simp [Except.map]

lemma mapError_eq_ok {ε' : Type} {r : Except ε α} {f : ε → ε'} {a : α} :
    r.mapError f = .ok a ↔ r = .ok a := by
  cases r <;> simp [Except.mapError]

/-! ## Programs made of the same parts -/

/-- **A relation between programs that passes from their parts to the whole.**  It holds of a result
and itself, and of two programs that go on in the same way after programs of which it holds. -/
structure Congruence
    (P : (α : Type) → ExceptT ε (StateM σ) α → ExceptT ε (StateM σ) α → Prop) : Prop where
  result : ∀ {α : Type} (r : Except ε α), P α (ExceptT.mk (pure r)) (ExceptT.mk (pure r))
  bind : ∀ {α β : Type} {m m' : ExceptT ε (StateM σ) α} {k k' : α → ExceptT ε (StateM σ) β},
    P α m m' → (∀ a, P β (k a) (k' a)) → P β (m >>= k) (m' >>= k')

/-- The state after the program is related to the one before it, however the program ends. -/
def Moves (R : σ → σ → Prop) (m : ExceptT ε (StateM σ) α) : Prop :=
  ∀ s, R s (m.run.run s).2

lemma congruence_moves {R : σ → σ → Prop} [IsPreorder σ R] :
    Congruence fun α (m _ : ExceptT ε (StateM σ) α) => Moves R m where
  result _ s := refl_of R s
  bind {α β m _ k _} hm hk s := by
    have hfirst := hm s
    rw [run_bind]
    rcases hrun : m.run.run s with ⟨e | a, s'⟩ <;> rw [hrun] at hfirst
    · exact hfirst
    · exact trans_of R hfirst (hk a s')

/-- **From related states the programs come to the same result and to related states.** -/
def Agrees (R : σ → σ → Prop) (m m' : ExceptT ε (StateM σ) α) : Prop :=
  ∀ s s', R s s' →
    (m.run.run s).1 = (m'.run.run s').1 ∧ R (m.run.run s).2 (m'.run.run s').2

lemma congruence_agrees {R : σ → σ → Prop} :
    Congruence fun α (m m' : ExceptT ε (StateM σ) α) => Agrees R m m' where
  result _ _ _ h := ⟨rfl, h⟩
  bind {α β m m' k k'} hm hk s s' h := by
    obtain ⟨hresult, hstate⟩ := hm s s' h
    rw [run_bind, run_bind]
    rcases hrun : m.run.run s with ⟨e | a, last⟩ <;>
      rcases hrun' : m'.run.run s' with ⟨e' | a', last'⟩ <;>
        rw [hrun, hrun'] at hresult hstate <;> cases hresult
    · exact ⟨rfl, hstate⟩
    · exact hk a last last' hstate

/-! ## One step for each member of a list -/

/-- If no step fails, each member has its result. -/
lemma mapM_eq_some {f : α → Option β} {g : α → β} {l : List α} (h : ∀ a ∈ l, f a = some (g a)) :
    l.mapM f = some (l.map g) := by
  induction l with
  | nil => rfl
  | cons a l ih =>
      obtain ⟨ha, hl⟩ := List.forall_mem_cons.mp h
      simp [ha, ih hl]

/-- What is read back one by one is read back as a list. -/
lemma mapM_map_eq_some {f : α → β} {g : β → Option α} {l : List α}
    (h : ∀ a ∈ l, g (f a) = some a) : (l.map f).mapM g = some l := by
  have hid : ∀ a ∈ l, (g ∘ f) a = some (id a) := h
  rw [List.mapM_map, mapM_eq_some hid, List.map_id]

end TrafficDigest
