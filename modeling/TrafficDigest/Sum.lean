/-!
# Sums

Exact sums over lists (`sumOf`), and sums of numbers of 64 bits, which need not be exact.

**Overflow.**  What becomes of a sum that does not fit in 64 bits depends on the build of the
program: a checked build stops, and an unchecked build goes on with the last 64 bits.
`Build.word?` is what a build has for an exact sum, and `Build.sum?` is how it comes to it, number
by number.
-/

namespace TrafficDigest

variable {α : Type}

/-- The sum of the values of a function over a list. -/
def sumOf (f : α → Nat) (xs : List α) : Nat :=
  -- the zero is given, because other libraries find another one for natural numbers
  @List.sum Nat _ ⟨0⟩ (xs.map f)

@[simp] theorem sumOf_nil (f : α → Nat) : sumOf f [] = 0 := rfl

@[simp] theorem sumOf_cons (f : α → Nat) (x : α) (xs : List α) :
    sumOf f (x :: xs) = f x + sumOf f xs := rfl

/-! ## Sums of 64 bits -/

/-- The sum of a list, as far as 64 bits hold it. -/
def wordSum (ns : List UInt64) : UInt64 := ns.foldl (· + ·) 0

/-- How the program is built. -/
inductive Build where
  /-- The program stops at a sum that does not fit in 64 bits. -/
  | checked
  /-- The program goes on with the last 64 bits of the sum. -/
  | unchecked
  deriving DecidableEq, Repr

namespace Build

/-- **What a build has for a sum**; nothing if the program stops. -/
def word? : Build → Nat → Option UInt64
  | checked, sum => if sum < UInt64.size then some (.ofNat sum) else none
  | unchecked, sum => some (.ofNat sum)

/-- The sum of two numbers. -/
def add? (b : Build) (m n : UInt64) : Option UInt64 := b.word? (m.toNat + n.toNat)

/-- The sum of a list, number by number. -/
def sum? (b : Build) (ns : List UInt64) : Option UInt64 := ns.foldlM b.add? 0

end Build

end TrafficDigest
