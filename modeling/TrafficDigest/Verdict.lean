/-!
# Policy verdicts

How the policy in force classified an observed flow, the words for it, and sets of verdicts as
filters.  `Verdict.parse` reads a word in any case; its error keeps the word as it was given.
-/

namespace TrafficDigest

/-- How a flow was classified against the active policy. -/
inductive Verdict where
  | allowed
  | potentiallyBlocked
  | blocked
  deriving DecidableEq, Repr

namespace Verdict

/-- All verdicts, in their order. -/
def all : List Verdict := [allowed, potentiallyBlocked, blocked]

/-- The place in the order, which is the row order of two digests of the same pair of groups. -/
def index : Verdict → Nat
  | allowed => 0
  | potentiallyBlocked => 1
  | blocked => 2

instance : Ord Verdict := ⟨fun a b => compare a.index b.index⟩

/-- The word for a verdict. -/
def name : Verdict → String
  | allowed => "allowed"
  | potentiallyBlocked => "potentially_blocked"
  | blocked => "blocked"

theorem index_inj {a b : Verdict} : a.index = b.index ↔ a = b := by
  cases a <;> cases b <;> decide

/-! ## Reading a verdict -/

/-- A letter without its case, as far as ASCII words can tell: the capital letters, and the Kelvin
sign, whose small form is the letter k.  Any other character has no small form in ASCII. -/
def foldCase (c : Char) : Char := if c = '\u212a' then 'k' else c.toLower

/-- The verdict with this exact word. -/
def ofName? (word : List Char) : Option Verdict :=
  all.find? fun v => v.name.toList = word

/-- A word that names no verdict. -/
structure Unknown where
  word : String
  deriving DecidableEq, Repr

/-- What is reported about such a word. -/
def Unknown.message (e : Unknown) : String :=
  "unknown policy decision '" ++ e.word ++
    "': expected allowed, potentially_blocked, or blocked"

/-- **The verdict that a word names, in any case.** -/
def parse (word : String) : Except Unknown Verdict :=
  match ofName? (word.toList.map foldCase) with
  | some v => .ok v
  | none => .error ⟨word⟩

end Verdict

/-! ## Sets of verdicts -/

/-- A set of verdicts. -/
structure VerdictSet where
  allowed : Bool
  potentiallyBlocked : Bool
  blocked : Bool
  deriving DecidableEq, Repr

namespace VerdictSet

/-- Whether a verdict belongs to the set. -/
def contains (s : VerdictSet) : Verdict → Bool
  | .allowed => s.allowed
  | .potentiallyBlocked => s.potentiallyBlocked
  | .blocked => s.blocked

instance : Membership Verdict VerdictSet := ⟨fun s v => s.contains v = true⟩

/-- The members in the order of verdicts. -/
def toList (s : VerdictSet) : List Verdict := Verdict.all.filter s.contains

/-- The set of the members of a list. -/
def ofList (vs : List Verdict) : VerdictSet :=
  ⟨vs.contains .allowed, vs.contains .potentiallyBlocked, vs.contains .blocked⟩

/-- Whether the set has no member. -/
def isEmpty (s : VerdictSet) : Bool := !(s.allowed || s.potentiallyBlocked || s.blocked)

theorem mem_toList {s : VerdictSet} {v : Verdict} : v ∈ s.toList ↔ s.contains v = true := by
  cases v <;> simp [toList, Verdict.all]

theorem contains_toList (s : VerdictSet) (v : Verdict) : s.toList.contains v = s.contains v := by
  rw [Bool.eq_iff_iff, List.contains_iff_mem]
  exact mem_toList

end VerdictSet

end TrafficDigest
