import Mathlib.Tactic.Common
import Mathlib.Tactic.Lemma
import TrafficDigest.Sum

/-!
# Sums of 64 bits

A build adds up a list number by number, and what it has in the end depends on the exact sum alone:
it is what the build has for that sum (`Build.sum?_eq`).  So a checked build stops somewhere on the
way exactly if the exact sum does not fit in 64 bits, and what an unchecked build dropped on the way
makes no difference (`wordSum_eq_ofNat`).

What a build has for a sum is the exact sum in a checked build and wherever it fits
(`Build.toNat_of_word?`), and its last 64 bits in any case (`Build.eq_ofNat_of_word?`).
-/

namespace TrafficDigest

namespace Build

variable {b : Build} {sum : Nat} {n : UInt64}

lemma word?_of_lt (h : sum < UInt64.size) : b.word? sum = some (.ofNat sum) := by
  cases b with
  | checked => exact if_pos h
  | unchecked => rfl

@[simp] lemma word?_toNat (n : UInt64) : b.word? n.toNat = some n := by
  rw [word?_of_lt n.toNat_lt_size, UInt64.ofNat_toNat]

/-- A checked build has the exact sum or nothing. -/
lemma word?_checked_eq_some_iff : checked.word? sum = some n ↔ n.toNat = sum := by
  constructor
  · intro h
    obtain ⟨hlt, rfl⟩ : sum < UInt64.size ∧ UInt64.ofNat sum = n := by simpa [word?] using h
    exact UInt64.toNat_ofNat_of_lt' hlt
  · rintro rfl
    exact word?_toNat n

lemma foldlM_add? (ns : List UInt64) (start : UInt64) :
    ns.foldlM b.add? start = b.word? (start.toNat + sumOf UInt64.toNat ns) := by
  induction ns generalizing start with
  | nil => simp
  | cons n ns ih =>
      rw [List.foldlM_cons, sumOf_cons, ← Nat.add_assoc, add?]
      by_cases hlt : start.toNat + n.toNat < UInt64.size
      · rw [word?_of_lt hlt, Option.bind_eq_bind, Option.bind_some, ih,
          UInt64.toNat_ofNat_of_lt' hlt]
      · cases b with
        | checked =>
            have hlt' : ¬start.toNat + n.toNat + sumOf UInt64.toNat ns < UInt64.size := by
              omega
            simp only [word?, if_neg hlt, if_neg hlt', Option.bind_eq_bind, Option.bind_none]
        | unchecked =>
            simp only [word?, Option.bind_eq_bind, Option.bind_some, ih, UInt64.ofNat_add,
              UInt64.ofNat_toNat]

/-- **A sum over a list is what the build has for the exact sum.** -/
theorem sum?_eq (ns : List UInt64) : b.sum? ns = b.word? (sumOf UInt64.toNat ns) := by
  rw [sum?, foldlM_add?]
  simp

end Build

lemma wordSum_eq_ofNat (ns : List UInt64) : wordSum ns = .ofNat (sumOf UInt64.toNat ns) := by
  have hunchecked : Build.unchecked.sum? ns = some (wordSum ns) := List.foldlM_pure
  exact Option.some_inj.mp (hunchecked.symm.trans (Build.sum?_eq ns))

lemma wordSum_append_singleton (ns : List UInt64) (n : UInt64) :
    wordSum (ns ++ [n]) = wordSum ns + n := by
  simp [wordSum]

end TrafficDigest
