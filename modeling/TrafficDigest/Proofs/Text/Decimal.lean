import Mathlib.Tactic.Lemma
import Mathlib.Tactic.Common
import Mathlib.Tactic.IntervalCases
import Mathlib.Data.List.Basic
import TrafficDigest.Text

/-!
# Numbers survive their text

What is written by `toString` is read back by `readDigits` (`readDigits_toString`), and what is
written by `padZeros`, from the front of a longer text, by `takeNumber` (`takeNumber_padZeros`).
A number that is taken from the front ends where the digits end or where enough of them were taken,
so what follows has to be something else, or the number has to be as wide as may be.  A number with
a bound is read from exactly the texts of such numbers (`readUnsigned_eq_some_iff`).

Runs of digits of one length are ordered as texts as they are as numbers (`digitsValue_lt_iff`), and
so a run of digits is the number it stands for, written as wide as it is (`padZeros_digitsValue`).
-/

namespace TrafficDigest.Text

/-! ## Digits -/

lemma toList_toString (n : Nat) : (toString n).toList = Nat.toDigits 10 n := Nat.toList_repr

lemma digitsValue_toDigits (n : Nat) : digitsValue (Nat.toDigits 10 n) = n :=
  Nat.ofDigitChars_ten_toDigits

lemma isDigit_toDigits {n : Nat} {c : Char} (h : c ∈ Nat.toDigits 10 n) : c.isDigit = true :=
  Nat.isDigit_of_mem_toDigits (by decide) (by decide) h

/-- **A number is read back from its digits.** -/
theorem readDigits_toString (n : Nat) : readDigits (toString n).toList = some n := by
  rw [toList_toString, readDigits]
  have hne : (Nat.toDigits 10 n).isEmpty = false := by simp
  have hall : (Nat.toDigits 10 n).all Char.isDigit = true :=
    List.all_eq_true.mpr fun c hc => isDigit_toDigits hc
  rw [hne, hall, digitsValue_toDigits]
  rfl

/-- What is read is one digit or more, and the number they stand for. -/
lemma readDigits_eq_some_iff {cs : List Char} {n : Nat} :
    readDigits cs = some n ↔
      cs ≠ [] ∧ (∀ c ∈ cs, c.isDigit = true) ∧ Nat.ofDigitChars 10 cs 0 = n := by
  have hvalue : digitsValue cs = Nat.ofDigitChars 10 cs 0 := rfl
  rw [readDigits, hvalue]
  split_ifs with hbad
  · simp only [Bool.or_eq_true, List.isEmpty_iff, Bool.not_eq_true', List.all_eq_false] at hbad
    refine iff_of_false (by simp) ?_
    rintro ⟨hne, hdigits, -⟩
    rcases hbad with rfl | ⟨c, hc, hother⟩
    · exact hne rfl
    · exact hother (hdigits c hc)
  · simp only [Bool.or_eq_true, List.isEmpty_iff, Bool.not_eq_true', not_or, Bool.not_eq_false,
      List.all_eq_true] at hbad
    simp only [Option.some.injEq]
    exact ⟨fun h => ⟨hbad.1, hbad.2, h⟩, fun h => h.2.2⟩

/-! ## Numbers with a bound -/

/-- **The text of a number:** one decimal digit or more, and a plus sign before them or none. -/
def Denotes (cs : List Char) (n : Nat) : Prop :=
  ∃ sign digits, cs = sign ++ digits ∧ (sign = [] ∨ sign = ['+']) ∧
    digits ≠ [] ∧ (∀ c ∈ digits, c.isDigit = true) ∧ Nat.ofDigitChars 10 digits 0 = n

/-- **What is read is the text of a number within the bound.** -/
theorem readUnsigned_eq_some_iff {max n : Nat} {cs : List Char} :
    readUnsigned max cs = some n ↔ Denotes cs n ∧ n ≤ max := by
  simp only [readUnsigned, Option.filter_eq_some_iff, decide_eq_true_eq, readDigits_eq_some_iff,
    and_congr_left_iff]
  intro _
  split
  · rename_i rest
    constructor
    · exact fun h => ⟨['+'], rest, rfl, Or.inr rfl, h⟩
    · rintro ⟨sign, digits, hcs, rfl | rfl, hne, hdigits, hvalue⟩
      · obtain rfl : '+' :: rest = digits := hcs
        exact absurd (hdigits '+' List.mem_cons_self) (by decide)
      · cases hcs
        exact ⟨hne, hdigits, hvalue⟩
  · rename_i hsign
    constructor
    · exact fun h => ⟨[], cs, rfl, Or.inl rfl, h⟩
    · rintro ⟨sign, digits, rfl, rfl | rfl, h⟩
      · exact h
      · exact absurd rfl (hsign digits)

/-! ## Digits in order -/

lemma digitValue_bounds {c : Char} (h : c.isDigit = true) :
    c.toNat = digitValue c + 48 ∧ digitValue c < 10 := by
  obtain ⟨hlow, hhigh⟩ := Char.isDigit_iff_toNat.mp h
  have hzero : '0'.toNat = 48 := rfl
  have hnine : '9'.toNat = 57 := rfl
  rw [digitValue]
  omega

/-- Numbers that go on with as many digits are ordered by what they have so far, and then by the
digits. -/
lemma foldl_digitValue_lt_iff {as bs : List Char} (hlength : as.length = bs.length)
    (has : ∀ c ∈ as, c.isDigit = true) (hbs : ∀ c ∈ bs, c.isDigit = true) (m n : Nat) :
    as.foldl (fun k c => 10 * k + digitValue c) m < bs.foldl (fun k c => 10 * k + digitValue c) n
      ↔ m < n ∨ m = n ∧ as < bs := by
  induction as generalizing bs m n with
  | nil =>
      obtain rfl : bs = [] := List.length_eq_zero_iff.mp hlength.symm
      simp
  | cons a as ih =>
      cases bs with
      | nil => simp at hlength
      | cons b bs =>
          rw [List.forall_mem_cons] at has hbs
          have hrest := ih (Nat.succ.inj hlength) has.2 hbs.2 (10 * m + digitValue a)
            (10 * n + digitValue b)
          have hlt : a < b ↔ a.toNat < b.toNat := Iff.rfl
          obtain ⟨ha, ha'⟩ := digitValue_bounds has.1
          obtain ⟨hb, hb'⟩ := digitValue_bounds hbs.1
          rw [List.foldl_cons, List.foldl_cons, hrest, List.cons_lt_cons_iff, hlt,
            ← Char.toNat_inj]
          by_cases htail : as < bs <;>
            simp only [htail, and_true, and_false, or_false] <;> omega

/-- **Digits of one length are ordered as the numbers** they stand for. -/
theorem digitsValue_lt_iff {as bs : List Char} (hlength : as.length = bs.length)
    (has : ∀ c ∈ as, c.isDigit = true) (hbs : ∀ c ∈ bs, c.isDigit = true) :
    as < bs ↔ digitsValue as < digitsValue bs := by
  rw [digitsValue, digitsValue, foldl_digitValue_lt_iff hlength has hbs]
  simp

lemma digitsValue_inj {as bs : List Char} (hlength : as.length = bs.length)
    (has : ∀ c ∈ as, c.isDigit = true) (hbs : ∀ c ∈ bs, c.isDigit = true) :
    digitsValue as = digitsValue bs ↔ as = bs := by
  refine ⟨fun h => ?_, fun h => h ▸ rfl⟩
  have hnot : ¬as < bs := by
    rw [digitsValue_lt_iff hlength has hbs]
    omega
  have hnot' : ¬bs < as := by
    rw [digitsValue_lt_iff hlength.symm hbs has]
    omega
  exact List.le_antisymm (List.not_lt.mp hnot') (List.not_lt.mp hnot)

lemma digitsValue_lt {cs : List Char} (h : ∀ c ∈ cs, c.isDigit = true) :
    digitsValue cs < 10 ^ cs.length := by
  suffices hfold : ∀ n, cs.foldl (fun k c => 10 * k + digitValue c) n < (n + 1) * 10 ^ cs.length by
    rw [digitsValue]
    simpa using hfold 0
  induction cs with
  | nil => simp
  | cons c cs ih =>
      intro n
      rw [List.forall_mem_cons] at h
      obtain ⟨-, hc⟩ := digitValue_bounds h.1
      calc (c :: cs).foldl (fun k c => 10 * k + digitValue c) n
          < (10 * n + digitValue c + 1) * 10 ^ cs.length := ih h.2 _
        _ ≤ ((n + 1) * 10) * 10 ^ cs.length := Nat.mul_le_mul_right _ (by omega)
        _ = (n + 1) * 10 ^ (c :: cs).length := by
            rw [List.length_cons, Nat.pow_succ, Nat.mul_assoc, Nat.mul_comm 10]

/-! ## Leading zeros -/

lemma toList_padZeros (width n : Nat) :
    (padZeros width n).toList
      = List.replicate (width - (Nat.toDigits 10 n).length) '0' ++ Nat.toDigits 10 n := by
  have hlength : (toString n).length = (Nat.toDigits 10 n).length := by
    rw [← String.length_toList, toList_toString]
  simp only [padZeros, String.toList_append, String.toList_ofList, toList_toString, hlength]

lemma isDigit_padZeros {width n : Nat} {c : Char} (h : c ∈ (padZeros width n).toList) :
    c.isDigit = true := by
  rw [toList_padZeros] at h
  rcases List.mem_append.mp h with h | h
  · rw [List.eq_of_mem_replicate h]
    rfl
  · exact isDigit_toDigits h

lemma digitsValue_padZeros (width n : Nat) : digitsValue (padZeros width n).toList = n := by
  have hzeros := Nat.ofDigitChars_append (b := 10)
    (l := List.replicate (width - (Nat.toDigits 10 n).length) '0') (m := Nat.toDigits 10 n) 0
  rw [Nat.ofDigitChars_replicate_zero, Nat.mul_zero] at hzeros
  rw [toList_padZeros]
  exact hzeros.trans (digitsValue_toDigits n)

lemma padZeros_ne_nil (width n : Nat) : (padZeros width n).toList ≠ [] := by
  rw [toList_padZeros]
  simp

/-- A number that fits its width fills it. -/
lemma length_padZeros {width n : Nat} (hwidth : 0 < width) (h : n < 10 ^ width) :
    (padZeros width n).toList.length = width := by
  have hdigits := (Nat.length_toDigits_le_iff (by decide : 1 < 10) hwidth).mpr h
  rw [toList_padZeros, List.length_append, List.length_replicate]
  omega

/-- **A run of digits is its number**, written as wide as the run is. -/
theorem padZeros_digitsValue {cs : List Char} (hne : cs ≠ []) (h : ∀ c ∈ cs, c.isDigit = true) :
    (padZeros cs.length (digitsValue cs)).toList = cs := by
  have hlength := length_padZeros (List.length_pos_iff.mpr hne) (digitsValue_lt h)
  rw [← digitsValue_inj hlength (fun _ => isDigit_padZeros) h, digitsValue_padZeros]

/-- **A run of digits is how its number is written**, unless it has zeros in front. -/
theorem toList_toString_digitsValue {cs : List Char} (hne : cs ≠ [])
    (h : ∀ c ∈ cs, c.isDigit = true) (hzero : cs.head? = some '0' → cs = ['0']) :
    (toString (digitsValue cs)).toList = cs := by
  have hpadded := padZeros_digitsValue hne h
  rw [toList_padZeros] at hpadded
  rw [toList_toString]
  cases hcount : cs.length - (Nat.toDigits 10 (digitsValue cs)).length with
  | zero => rwa [hcount] at hpadded
  | succ count =>
      rw [hcount, List.replicate_succ] at hpadded
      rw [hzero (hpadded ▸ rfl)]
      rfl

/-! ## Numbers at the front of a text -/

/-- Digits are taken up to where they end, or as many as may be. -/
lemma takeNumber_append {most : Nat} {digits rest : List Char} (hne : digits ≠ [])
    (hdigits : ∀ c ∈ digits, c.isDigit = true) (hmost : digits.length ≤ most)
    (hend : digits.length = most ∨ ∀ c ∈ rest.head?, c.isDigit = false) :
    takeNumber most (digits ++ rest) = some (digitsValue digits, rest) := by
  have htaken : ((digits ++ rest).take most).takeWhile Char.isDigit = digits := by
    have hrest : (rest.take (most - digits.length)).takeWhile Char.isDigit = [] := by
      rcases hend with hfull | hother
      · rw [hfull, Nat.sub_self, List.take_zero, List.takeWhile_nil]
      · cases hcs : rest with
        | nil => simp
        | cons c cs =>
            have hc : c.isDigit = false := hother c (by simp [hcs])
            cases most - digits.length <;> simp [hc]
    rw [List.take_append, List.take_of_length_le hmost, List.takeWhile_append_of_pos hdigits,
      hrest, List.append_nil]
  unfold takeNumber
  rw [htaken]
  cases digits with
  | nil => exact absurd rfl hne
  | cons d ds => simp

/-- **A padded number is taken from the front of a text** that goes on with something else. -/
theorem takeNumber_padZeros {most width n : Nat} {rest : List Char}
    (hmost : (padZeros width n).toList.length ≤ most)
    (hend : (padZeros width n).toList.length = most ∨ ∀ c ∈ rest.head?, c.isDigit = false) :
    takeNumber most ((padZeros width n).toList ++ rest) = some (n, rest) := by
  have htaken := takeNumber_append (padZeros_ne_nil width n) (fun _ => isDigit_padZeros) hmost hend
  rw [digitsValue_padZeros] at htaken
  exact htaken

/-! ## Blanks and digits -/

/-- A text with no blank at its ends is not trimmed. -/
lemma trim_eq_self {cs : List Char} (hfirst : ∀ c ∈ cs.head?, isBlank c = false)
    (hlast : ∀ c ∈ cs.getLast?, isBlank c = false) : trim cs = cs := by
  have hkeep {xs : List Char} (h : ∀ c ∈ xs.head?, isBlank c = false) :
      xs.dropWhile isBlank = xs := by
    cases xs with
    | nil => rfl
    | cons c cs => exact List.dropWhile_cons_of_neg (by simp [h c rfl])
  rw [trim, trimBy, hkeep hfirst, hkeep (by simpa using hlast), List.reverse_reverse]

lemma isBlank_of_isDigit {c : Char} (h : c.isDigit = true) : isBlank c = false := by
  have hdigits : ∀ n, 48 ≤ n → n ≤ 57 → isBlank (Char.ofNat n) = false := by
    intro n hlow hhigh
    interval_cases n <;> rfl
  obtain ⟨hlow, hhigh⟩ := Char.isDigit_iff_toNat.mp h
  rw [← Char.ofNat_toNat c]
  exact hdigits c.toNat hlow hhigh

/-- There are no blanks in front of a padded number. -/
lemma dropWhile_isBlank_padZeros (width n : Nat) (rest : List Char) :
    ((padZeros width n).toList ++ rest).dropWhile isBlank = (padZeros width n).toList ++ rest := by
  cases hdigits : (padZeros width n).toList with
  | nil => exact absurd hdigits (padZeros_ne_nil width n)
  | cons c cs =>
      have hmem : c ∈ (padZeros width n).toList := by simp [hdigits]
      have hc := isBlank_of_isDigit (isDigit_padZeros hmem)
      rw [List.cons_append, List.dropWhile_cons_of_neg (by simp [hc])]

end TrafficDigest.Text
