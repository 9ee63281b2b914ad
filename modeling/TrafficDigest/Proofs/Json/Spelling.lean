import Mathlib.Data.List.Chain
import Mathlib.Data.List.TakeWhile
import Mathlib.Tactic.Lemma
import Mathlib.Tactic.Common
import Mathlib.Tactic.IntervalCases
import TrafficDigest.Json.Token

/-!
# How tokens are spelled

The spelling of JSON tokens, said without the reader.  Marks and words have one spelling
(`fixedTokens`), a number has a form of four parts (`SpellsNumber`), and each character of a string
stands for itself or is escaped (`StringPart.Spelled`).  A document is a sequence of spelled tokens
with white space before, between and after them (`Spelled`).

The reader takes exactly such documents:

* `Spelled.of_tokens` — a document that is read into tokens is a spelling of them.
* `Spelled.tokens_eq` — each spelling of some tokens is read into them, unless two numbers follow
  each other and would run together (`Apart`).
-/

namespace TrafficDigest.Json

/-! ## Numbers -/

/-- One digit or more. -/
def Digits (cs : List Char) : Prop := cs ≠ [] ∧ ∀ c ∈ cs, c.isDigit = true

/-- A whole number; none but zero begins with a zero. -/
def Whole (cs : List Char) : Prop := Digits cs ∧ (cs.head? = some '0' → cs = ['0'])

/-- Nothing, or a point and digits. -/
def Fraction (cs : List Char) : Prop := cs = [] ∨ ∃ digits, Digits digits ∧ cs = '.' :: digits

/-- Nothing, or the letter of an exponent, a sign or none, and digits. -/
def Exponent (cs : List Char) : Prop :=
  cs = [] ∨ ∃ letter sign digits, (letter = 'e' ∨ letter = 'E') ∧
    (sign = [] ∨ sign = ['+'] ∨ sign = ['-']) ∧ Digits digits ∧ cs = letter :: (sign ++ digits)

/-- **The form of a number:** a hyphen or none, a whole number, a fraction and an exponent. -/
def SpellsNumber (cs : List Char) : Prop :=
  ∃ sign whole fraction exponent, (sign = [] ∨ sign = ['-']) ∧ Whole whole ∧ Fraction fraction ∧
    Exponent exponent ∧ cs = sign ++ (whole ++ (fraction ++ exponent))

/-- What follows does not go on with such characters. -/
def EndsBefore (p : Char → Bool) (rest : List Char) : Prop := ∀ c ∈ rest.head?, p c = false

lemma takeWhile_append {p : Char → Bool} {cs rest : List Char} (h : ∀ c ∈ cs, p c = true)
    (hrest : EndsBefore p rest) :
    (cs ++ rest).takeWhile p = cs ∧ (cs ++ rest).dropWhile p = rest := by
  rw [List.takeWhile_append_of_pos h, List.dropWhile_append_of_pos h]
  cases rest with
  | nil => simp
  | cons c rest =>
      have hc : p c = false := hrest c rfl
      simp [hc]

lemma Digits.ne_of_head? {cs : List Char} (h : Digits cs) {c : Char} (hc : c.isDigit = false) :
    cs.head? ≠ some c := by
  intro hhead
  have hdigit := h.2 c (List.mem_of_mem_head? hhead)
  rw [hc] at hdigit
  cases hdigit

lemma isExponent_iff {cs : List Char} : isExponent cs = true ↔ Exponent cs := by
  constructor
  · unfold isExponent
    split
    · exact fun _ => Or.inl rfl
    · rename_i letter rest
      simp only [Bool.and_eq_true, Bool.or_eq_true, beq_iff_eq, Bool.not_eq_true',
        List.isEmpty_eq_false_iff, List.all_eq_true]
      split
      · rintro ⟨⟨hletter, hne⟩, hdigits⟩
        exact Or.inr ⟨letter, ['+'], _, hletter, by simp, ⟨hne, hdigits⟩, rfl⟩
      · rintro ⟨⟨hletter, hne⟩, hdigits⟩
        exact Or.inr ⟨letter, ['-'], _, hletter, by simp, ⟨hne, hdigits⟩, rfl⟩
      · rintro ⟨⟨hletter, hne⟩, hdigits⟩
        exact Or.inr ⟨letter, [], _, hletter, by simp, ⟨hne, hdigits⟩, rfl⟩
  · rintro (rfl | ⟨letter, sign, digits, hletter, hsign, hdigits, rfl⟩)
    · rfl
    · have hplus := hdigits.ne_of_head? (c := '+') rfl
      have hminus := hdigits.ne_of_head? (c := '-') rfl
      simp only [isExponent, Bool.and_eq_true, Bool.or_eq_true, beq_iff_eq, Bool.not_eq_true',
        List.isEmpty_eq_false_iff, List.all_eq_true]
      obtain rfl | rfl | rfl := hsign
      · simp only [List.nil_append]
        split
        · simp at hplus
        · simp at hminus
        · exact ⟨⟨hletter, hdigits.1⟩, hdigits.2⟩
      · exact ⟨⟨hletter, hdigits.1⟩, hdigits.2⟩
      · exact ⟨⟨hletter, hdigits.1⟩, hdigits.2⟩

lemma Exponent.endsBefore {cs : List Char} (h : Exponent cs) : EndsBefore Char.isDigit cs := by
  obtain rfl | ⟨letter, sign, digits, hletter, -, -, rfl⟩ := h
  · simp [EndsBefore]
  · obtain rfl | rfl := hletter <;> simp [EndsBefore]

lemma isFraction_iff {cs : List Char} :
    isFraction cs = true ↔
      ∃ fraction exponent, Fraction fraction ∧ Exponent exponent ∧ cs = fraction ++ exponent := by
  constructor
  · intro h
    unfold isFraction at h
    split at h
    · rename_i d rest
      rw [Bool.and_eq_true, isExponent_iff] at h
      refine ⟨'.' :: d :: rest.takeWhile Char.isDigit, _, Or.inr ⟨_, ⟨by simp, ?_⟩, rfl⟩, h.2, ?_⟩
      · exact List.forall_mem_cons.mpr ⟨h.1, fun c hc => List.mem_takeWhile_imp hc⟩
      · simp [List.takeWhile_append_dropWhile]
    · exact ⟨[], cs, Or.inl rfl, isExponent_iff.mp h, rfl⟩
  · rintro ⟨fraction, exponent, rfl | ⟨digits, ⟨hne, hdigits⟩, rfl⟩, hexponent, rfl⟩
    · have hpoint : cs.head? ≠ some '.' := by
        obtain rfl | ⟨letter, sign, digits, hletter, -, -, rfl⟩ := hexponent
        · simp
        · obtain rfl | rfl := hletter <;> simp
      unfold isFraction
      split
      · simp at hpoint
      · exact isExponent_iff.mpr hexponent
    · obtain ⟨d, ds, rfl⟩ := List.exists_cons_of_ne_nil hne
      obtain ⟨hd, hds⟩ := List.forall_mem_cons.mp hdigits
      have hrest := (takeWhile_append hds hexponent.endsBefore).2
      simp only [List.cons_append, isFraction, hd, hrest, Bool.true_and]
      exact isExponent_iff.mpr hexponent

/-- A number without its sign is a run of digits and what follows it. -/
lemma isUnsigned_iff {cs : List Char} :
    ((cs.takeWhile Char.isDigit == ['0'] ||
        (cs.takeWhile Char.isDigit).head?.any (· != '0')) &&
      isFraction (cs.dropWhile Char.isDigit)) = true ↔
      ∃ whole fraction exponent, Whole whole ∧ Fraction fraction ∧ Exponent exponent ∧
        cs = whole ++ (fraction ++ exponent) := by
  rw [Bool.and_eq_true, isFraction_iff, Bool.or_eq_true, beq_iff_eq]
  constructor
  · rintro ⟨hwhole, fraction, exponent, hfraction, hexponent, hrest⟩
    refine ⟨cs.takeWhile Char.isDigit, fraction, exponent, ⟨⟨?_, ?_⟩, ?_⟩, hfraction, hexponent,
      ?_⟩
    · obtain hzero | hhead := hwhole
      · simp [hzero]
      · intro hnil
        simp [hnil] at hhead
    · exact fun c hc => List.mem_takeWhile_imp hc
    · intro hhead
      refine hwhole.resolve_right ?_
      simp [hhead]
    · rw [← hrest, List.takeWhile_append_dropWhile]
  · rintro ⟨whole, fraction, exponent, ⟨⟨hne, hdigits⟩, hzero⟩, hfraction, hexponent, rfl⟩
    have hend : EndsBefore Char.isDigit (fraction ++ exponent) := by
      obtain rfl | ⟨digits, -, rfl⟩ := hfraction
      · exact hexponent.endsBefore
      · simp [EndsBefore]
    obtain ⟨htake, hdrop⟩ := takeWhile_append hdigits hend
    rw [htake, hdrop]
    refine ⟨?_, fraction, exponent, hfraction, hexponent, rfl⟩
    obtain ⟨d, ds, rfl⟩ := List.exists_cons_of_ne_nil hne
    by_cases hd : d = '0'
    · exact Or.inl (hzero (by rw [hd]; rfl))
    · exact Or.inr (by simpa using hd)

/-- **The form of a number is checked as it is said.** -/
lemma isNumber_iff {cs : List Char} : isNumber cs = true ↔ SpellsNumber cs := by
  constructor
  · intro h
    unfold isNumber at h
    simp only at h
    split at h
    · obtain ⟨whole, fraction, exponent, hw, hf, he, rfl⟩ := isUnsigned_iff.mp h
      exact ⟨['-'], whole, fraction, exponent, Or.inr rfl, hw, hf, he, rfl⟩
    · obtain ⟨whole, fraction, exponent, hw, hf, he, rfl⟩ := isUnsigned_iff.mp h
      exact ⟨[], whole, fraction, exponent, Or.inl rfl, hw, hf, he, rfl⟩
  · rintro ⟨sign, whole, fraction, exponent, rfl | rfl, hw, hf, he, rfl⟩
    · have hminus := hw.1.ne_of_head? (c := '-') rfl
      obtain ⟨d, ds, rfl⟩ := List.exists_cons_of_ne_nil hw.1.1
      unfold isNumber
      simp only [List.nil_append, List.cons_append]
      split
      · simp_all
      · exact isUnsigned_iff.mpr ⟨_, fraction, exponent, hw, hf, he, rfl⟩
    · exact isUnsigned_iff.mpr ⟨whole, fraction, exponent, hw, hf, he, rfl⟩

/-- A number of digits alone is a whole number. -/
lemma SpellsNumber.whole {cs : List Char} (h : SpellsNumber cs)
    (hdigits : ∀ c ∈ cs, c.isDigit = true) : Whole cs := by
  obtain ⟨sign, whole, fraction, exponent, hsign, hwhole, hfraction, hexponent, rfl⟩ := h
  simp only [List.forall_mem_append] at hdigits
  obtain ⟨hs, -, hf, he⟩ := hdigits
  obtain rfl : sign = [] := hsign.resolve_right fun hminus => by
    rw [hminus] at hs
    exact absurd (hs '-' (List.mem_singleton_self _)) (by decide)
  obtain rfl : fraction = [] := hfraction.resolve_right fun ⟨digits, _, hpoint⟩ => by
    rw [hpoint] at hf
    exact absurd (hf '.' List.mem_cons_self) (by decide)
  obtain rfl : exponent = [] :=
    hexponent.resolve_right fun ⟨letter, sign, digits, hletter, _, _, hcs⟩ => by
      rw [hcs] at he
      have hdigit := he letter List.mem_cons_self
      obtain rfl | rfl := hletter <;> exact absurd hdigit (by decide)
  simpa using hwhole

/-! ## Strings -/

/-- The digit to the base 16 has this value; letters may be small or capital. -/
def HexDigit (c : Char) (n : Nat) : Prop :=
  n < 16 ∧ (c = Nat.digitChar n ∨ c = (Nat.digitChar n).toUpper)

instance (c : Char) (n : Nat) : Decidable (HexDigit c n) := by unfold HexDigit; infer_instance

/-- The characters that have an escape of one letter, behind their letters. -/
def shortEscapes : List (Char × Char) :=
  [('"', '"'), ('\\', '\\'), ('/', '/'), ('b', '\u0008'), ('f', '\u000c'), ('n', '\n'),
    ('r', '\r'), ('t', '\t')]

/-- **How a part of a string is spelled:** as itself, by a letter or by a number of four digits. -/
inductive StringPart.Spelled : StringPart → List Char → Prop
  | plain {c : Char} (quote : c ≠ '"') (backslash : c ≠ '\\') (control : ¬c < ' ') :
      Spelled (.char c) [c]
  | short {letter c : Char} (h : (letter, c) ∈ shortEscapes) : Spelled (.char c) ['\\', letter]
  | unit {a b c d : Char} {i j k l : Nat} (ha : HexDigit a i) (hb : HexDigit b j)
      (hc : HexDigit c k) (hd : HexDigit d l) :
      Spelled (.ofUnit (0x1000 * i + 0x100 * j + 0x10 * k + l)) ['\\', 'u', a, b, c, d]

/-- The parts of a string, spelled one after the other. -/
inductive PartsSpelled : List StringPart → List Char → Prop
  | nil : PartsSpelled [] []
  | cons {part : StringPart} {parts : List StringPart} {cs body : List Char}
      (h : part.Spelled cs) (hs : PartsSpelled parts body) :
      PartsSpelled (part :: parts) (cs ++ body)

lemma hexValue?_eq_some_iff {c : Char} {n : Nat} : hexValue? c = some n ↔ HexDigit c n := by
  constructor
  · intro h
    have hascii : ∀ k < 128, ∀ n ∈ hexValue? (Char.ofNat k), HexDigit (Char.ofNat k) n := by
      decide
    have hc : c.toNat < 128 := by
      unfold hexValue? at h
      split_ifs at h with hdigit hsmall hcapital
      · exact Nat.lt_of_le_of_lt (Char.isDigit_iff_toNat.mp hdigit).2 (by decide)
      · exact Nat.lt_of_le_of_lt (Char.le_def.mp hsmall.2) (by decide)
      · exact Nat.lt_of_le_of_lt (Char.le_def.mp hcapital.2) (by decide)
    have hall := hascii c.toNat hc n
    rw [Char.ofNat_toNat] at hall
    exact hall h
  · rintro ⟨hn, rfl | rfl⟩
    · interval_cases n <;> rfl
    · interval_cases n <;> rfl

lemma hexNumber?_eq_some_iff {a b c d : Char} {code : Nat} :
    hexNumber? [a, b, c, d] = some code ↔
      ∃ i j k l, HexDigit a i ∧ HexDigit b j ∧ HexDigit c k ∧ HexDigit d l ∧
        code = 0x1000 * i + 0x100 * j + 0x10 * k + l := by
  simp only [hexNumber?, List.foldlM_cons, List.foldlM_nil, Option.bind_eq_bind,
    Option.bind_eq_some_iff, Option.map_eq_some_iff, Option.pure_def, Option.some.injEq,
    hexValue?_eq_some_iff]
  constructor
  · rintro ⟨-, ⟨i, hi, rfl⟩, -, ⟨j, hj, rfl⟩, -, ⟨k, hk, rfl⟩, -, ⟨l, hl, rfl⟩, rfl⟩
    exact ⟨i, j, k, l, hi, hj, hk, hl, by omega⟩
  · rintro ⟨i, j, k, l, hi, hj, hk, hl, rfl⟩
    exact ⟨_, ⟨i, hi, rfl⟩, _, ⟨j, hj, rfl⟩, _, ⟨k, hk, rfl⟩, _, ⟨l, hl, rfl⟩, by omega⟩

lemma escaped?_eq_some_iff {letter c : Char} :
    escaped? letter = some c ↔ (letter, c) ∈ shortEscapes := by
  constructor
  · intro h
    obtain ⟨before, after, hsplit, -⟩ := List.lookup_eq_some_iff.mp h
    have hmem : (letter, c) ∈ before ++ (letter, c) :: after := by simp
    rw [← hsplit] at hmem
    exact hmem
  · intro h
    have hall : ∀ p ∈ shortEscapes, escaped? p.1 = some p.2 := by decide
    exact hall _ h

/-- **An escape is read as what it spells**, with whatever comes after it. -/
lemma readEscape_eq_some_iff {cs rest : List Char} {part : StringPart} :
    readEscape cs = some (part, rest) ↔
      ∃ body, cs = body ++ rest ∧ part.Spelled ('\\' :: body) := by
  constructor
  · intro h
    unfold readEscape at h
    split at h
    · rename_i a b c d left
      simp only [Option.map_eq_some_iff, Prod.mk.injEq] at h
      obtain ⟨code, hcode, rfl, rfl⟩ := h
      obtain ⟨i, j, k, l, hi, hj, hk, hl, rfl⟩ := hexNumber?_eq_some_iff.mp hcode
      exact ⟨['u', a, b, c, d], rfl, .unit hi hj hk hl⟩
    · rename_i letter left _
      simp only [Option.map_eq_some_iff, Prod.mk.injEq] at h
      obtain ⟨c, hc, rfl, rfl⟩ := h
      exact ⟨[letter], rfl, .short (escaped?_eq_some_iff.mp hc)⟩
    · cases h
  · rintro ⟨body, rfl, hpart⟩
    generalize hspelled : '\\' :: body = spelled at hpart
    cases hpart with
    | plain _ backslash _ =>
        obtain ⟨rfl, -⟩ := List.cons_eq_cons.mp hspelled
        exact absurd rfl backslash
    | @short letter c h =>
        obtain ⟨-, rfl⟩ := List.cons_eq_cons.mp hspelled
        unfold readEscape
        split
        · rename_i hletter
          obtain ⟨rfl, -⟩ := List.cons_eq_cons.mp hletter
          simp [shortEscapes] at h
        · rename_i hletter
          obtain ⟨rfl, rfl⟩ := List.cons_eq_cons.mp hletter
          rw [escaped?_eq_some_iff.mpr h]
          rfl
        · rename_i hnil
          cases hnil
    | unit ha hb hc hd =>
        obtain ⟨-, rfl⟩ := List.cons_eq_cons.mp hspelled
        have hcode := hexNumber?_eq_some_iff.mpr ⟨_, _, _, _, ha, hb, hc, hd, rfl⟩
        simp only [List.cons_append, readEscape, hcode]
        rfl

lemma readString_quote (rest : List Char) : readString ('"' :: rest) = some ([], rest) := by
  rw [readString]
  simp

/-- A part of a string is read, and the string goes on behind it. -/
lemma readString_part {part : StringPart} {cs : List Char} (h : part.Spelled cs)
    (rest : List Char) :
    readString (cs ++ rest) = (readString rest).map fun (parts, rest) => (part :: parts, rest) := by
  have hescape (body : List Char) (hpart : part.Spelled ('\\' :: body)) :
      readString ('\\' :: (body ++ rest))
        = (readString rest).map fun (parts, rest) => (part :: parts, rest) := by
    have hread : readEscape (body ++ rest) = some (part, rest) :=
      readEscape_eq_some_iff.mpr ⟨body, rfl, hpart⟩
    rw [readString]
    simp only [Char.reduceEq, if_false, if_true]
    split
    · rename_i hnone
      rw [hread] at hnone
      cases hnone
    · rename_i hsome
      rw [hread] at hsome
      cases hsome
      rfl
  cases h with
  | plain quote backslash control =>
      rw [List.cons_append, readString, if_neg quote, if_neg backslash, if_neg control]
      rfl
  | short h => exact hescape _ (.short h)
  | unit ha hb hc hd => exact hescape _ (.unit ha hb hc hd)

/-- **A string is read up to the quote that closes it.** -/
lemma readString_eq_some_iff {cs rest : List Char} {parts : List StringPart} :
    readString cs = some (parts, rest) ↔
      ∃ body, cs = body ++ '"' :: rest ∧ PartsSpelled parts body := by
  constructor
  · intro h
    fun_induction readString cs generalizing parts with
    | case1 => cases h
    | case2 =>
        cases h
        exact ⟨[], rfl, .nil⟩
    | case3 => cases h
    | case4 left part rest' hescape _ ih =>
        simp only [Option.map_eq_some_iff, Prod.exists, Prod.mk.injEq] at h
        obtain ⟨parts', rest'', hrest, rfl, rfl⟩ := h
        obtain ⟨body, rfl, hbody⟩ := ih hrest
        obtain ⟨spelled, rfl, hspelled⟩ := readEscape_eq_some_iff.mp hescape
        refine ⟨'\\' :: spelled ++ body, ?_, .cons hspelled hbody⟩
        simp
    | case5 => cases h
    | case6 c left quote backslash control ih =>
        simp only [Option.map_eq_some_iff, Prod.exists, Prod.mk.injEq] at h
        obtain ⟨parts', rest'', hrest, rfl, rfl⟩ := h
        obtain ⟨body, rfl, hbody⟩ := ih hrest
        exact ⟨[c] ++ body, by simp, .cons (.plain quote backslash control) hbody⟩
  · rintro ⟨body, rfl, hbody⟩
    induction hbody with
    | nil => exact readString_quote rest
    | cons h _ ih =>
        rw [List.append_assoc, readString_part h, ih]
        rfl

/-! ## Tokens -/

/-- The tokens with only one spelling. -/
def fixedTokens : List (Token × List Char) :=
  [(.openObject, ['\x7b']), (.closeObject, ['\x7d']), (.openArray, ['[']), (.closeArray, [']']),
    (.colon, [':']), (.comma, [',']), (.null, ['n', 'u', 'l', 'l']),
    (.bool true, ['t', 'r', 'u', 'e']), (.bool false, ['f', 'a', 'l', 's', 'e'])]

/-- **How a token is spelled.** -/
inductive Token.Spelled : Token → List Char → Prop
  | fixed {t : Token} {cs : List Char} (h : (t, cs) ∈ fixedTokens) : Spelled t cs
  | number {cs : List Char} (h : SpellsNumber cs) : Spelled (.number (String.ofList cs)) cs
  | string {parts : List StringPart} {body : List Char} (h : PartsSpelled parts body) :
      Spelled (.string ((textOfParts parts).map String.ofList)) ('"' :: (body ++ ['"']))

/-- White space and nothing else. -/
def Blank (cs : List Char) : Prop := ∀ c ∈ cs, c = ' ' ∨ c = '\t' ∨ c = '\n' ∨ c = '\r'

/-- **Tokens as they are spelled in a document:** each with white space before it or none, and white
space or none after the last. -/
inductive Spelled : List Token → List Char → Prop
  | nil {gap : List Char} (h : Blank gap) : Spelled [] gap
  | cons {t : Token} {ts : List Token} {gap cs rest : List Char} (hgap : Blank gap)
      (ht : t.Spelled cs) (hts : Spelled ts rest) : Spelled (t :: ts) (gap ++ (cs ++ rest))

lemma Spelled.exists_of_mem {ts : List Token} {cs : List Char} (h : Spelled ts cs) {t : Token}
    (ht : t ∈ ts) : ∃ spelling, t.Spelled spelling := by
  induction h with
  | nil => cases ht
  | cons _ hfirst _ ih =>
      obtain rfl | hrest := List.mem_cons.mp ht
      · exact ⟨_, hfirst⟩
      · exact ih hrest

lemma Token.Spelled.number_form {literal : String} {cs : List Char}
    (h : (Token.number literal).Spelled cs) : SpellsNumber literal.toList := by
  cases h with
  | fixed h => simp [fixedTokens] at h
  | number h => rwa [String.toList_ofList]

/-- The token is a number. -/
def Token.isNumber : Token → Bool
  | .number _ => true
  | _ => false

lemma Token.eq_number_of_isNumber {t : Token} (h : t.isNumber = true) :
    ∃ literal, t = .number literal := by
  cases t with
  | number literal => exact ⟨literal, rfl⟩
  | _ => cases h

/-- Two tokens that do not run together without white space between them: not both are numbers. -/
def Apart (t u : Token) : Prop := ¬(t.isNumber = true ∧ u.isNumber = true)

lemma isSpace_iff {c : Char} :
    isSpace c = true ↔ c = ' ' ∨ c = '\t' ∨ c = '\n' ∨ c = '\r' := by
  simp [isSpace, or_assoc]

/-! ### Numbers among the tokens -/

lemma SpellsNumber.isNumberChar {cs : List Char} (h : SpellsNumber cs) :
    ∀ c ∈ cs, isNumberChar c = true := by
  have hdigit {ds : List Char} (hds : Digits ds) : ∀ c ∈ ds, Json.isNumberChar c = true := by
    intro c hc
    simp [Json.isNumberChar, hds.2 c hc]
  have hsign {s : List Char} (hs : s = [] ∨ s = ['+'] ∨ s = ['-']) :
      ∀ c ∈ s, Json.isNumberChar c = true := by
    obtain rfl | rfl | rfl := hs <;> simp [Json.isNumberChar]
  obtain ⟨sign, whole, fraction, exponent, hs, hw, hf, he, rfl⟩ := h
  simp only [List.forall_mem_append]
  refine ⟨hsign (hs.imp_right Or.inr), hdigit hw.1, ?_, ?_⟩
  · obtain rfl | ⟨digits, hdigits, rfl⟩ := hf
    · simp
    · exact List.forall_mem_cons.mpr ⟨rfl, hdigit hdigits⟩
  · obtain rfl | ⟨letter, sign, digits, hletter, hs, hdigits, rfl⟩ := he
    · simp
    · refine List.forall_mem_cons.mpr ⟨?_, ?_⟩
      · obtain rfl | rfl := hletter <;> rfl
      · exact List.forall_mem_append.mpr ⟨hsign hs, hdigit hdigits⟩

/-- A number begins with a hyphen or a digit. -/
lemma SpellsNumber.exists_head {cs : List Char} (h : SpellsNumber cs) :
    ∃ c tail, cs = c :: tail ∧ (c = '-' ∨ c.isDigit = true) := by
  obtain ⟨sign, whole, fraction, exponent, hs, hw, -, -, rfl⟩ := h
  obtain ⟨d, ds, rfl⟩ := List.exists_cons_of_ne_nil hw.1.1
  obtain rfl | rfl := hs
  · exact ⟨d, _, rfl, Or.inr (hw.1.2 d (by simp))⟩
  · exact ⟨'-', _, rfl, Or.inl rfl⟩

lemma next?_number {cs rest : List Char} (h : SpellsNumber cs)
    (hrest : EndsBefore isNumberChar rest) :
    Token.next? (cs ++ rest) = some (.number (String.ofList cs), rest) := by
  obtain ⟨htake, hdrop⟩ := takeWhile_append h.isNumberChar hrest
  have hform := isNumber_iff.mpr h
  obtain ⟨c, tail, rfl, hc⟩ := h.exists_head
  -- no mark, no quote and no word begins like a number
  have hne (d : Char) (hd : d ≠ '-' ∧ d.isDigit = false) : c ≠ d := by
    rintro rfl
    obtain rfl | hdigit := hc
    · exact hd.1 rfl
    · exact absurd hdigit (by simp [hd.2])
  have hmarks : marks.lookup c = none := by
    have hall : ∀ p ∈ marks, p.1 ≠ '-' ∧ p.1.isDigit = false := by decide
    refine List.lookup_eq_none_iff.mpr fun p hp => ?_
    simpa using hne p.1 (hall p hp)
  have hwords : words.find? (fun word => word.1.isPrefixOf (c :: (tail ++ rest))) = none := by
    have hall : ∀ word ∈ words, ∃ d ∈ word.1.head?, d ≠ '-' ∧ d.isDigit = false := by
      simp [words]
    refine List.find?_eq_none.mpr fun word hword => ?_
    obtain ⟨d, hd, hdistinct⟩ := hall word hword
    obtain ⟨more, hmore⟩ := List.head?_eq_some_iff.mp hd
    simp [hmore, (hne d hdistinct).symm]
  rw [List.cons_append] at htake hdrop ⊢
  simp only [Token.next?, hmarks, if_neg (hne '"' ⟨by decide, rfl⟩), nextBare, hwords, htake,
    hform, if_true, hdrop]

/-- **A spelled token is the next one**, whatever comes after it; only a number must not go on. -/
lemma next?_of_spelled {t : Token} {cs rest : List Char} (h : t.Spelled cs)
    (hrest : t.isNumber = true → EndsBefore isNumberChar rest) :
    Token.next? (cs ++ rest) = some (t, rest) := by
  cases h with
  | fixed h =>
      have hall : ∀ p ∈ fixedTokens, Token.next? (p.2 ++ rest) = some (p.1, rest) := by
        simp only [fixedTokens, List.forall_mem_cons]
        exact ⟨rfl, rfl, rfl, rfl, rfl, rfl, rfl, rfl, rfl, by simp⟩
      exact hall _ h
  | number h => exact next?_number h (hrest rfl)
  | @string parts body h =>
      have hread : readString (body ++ '"' :: rest) = some (parts, rest) :=
        readString_eq_some_iff.mpr ⟨body, rfl, h⟩
      rw [List.cons_append, List.append_assoc]
      exact congrArg (Option.map _) hread

/-- **The next token is spelled** at the front of the text. -/
lemma spelled_of_next? {t : Token} {cs rest : List Char} (h : Token.next? cs = some (t, rest)) :
    ∃ spelled, cs = spelled ++ rest ∧ t.Spelled spelled := by
  unfold Token.next? at h
  split at h
  · cases h
  · rename_i c tail
    split at h
    · rename_i hmark
      cases h
      obtain ⟨before, after, hsplit, -⟩ := List.lookup_eq_some_iff.mp hmark
      have hall : ∀ p ∈ marks, (p.2, [p.1]) ∈ fixedTokens := by decide
      exact ⟨[c], rfl, .fixed (hall (c, t) (by simp [hsplit]))⟩
    · split at h
      · rename_i hquote
        simp only [Option.map_eq_some_iff, Prod.exists, Prod.mk.injEq] at h
        obtain ⟨parts, rest', hread, rfl, rfl⟩ := h
        obtain ⟨body, rfl, hbody⟩ := readString_eq_some_iff.mp hread
        exact ⟨'"' :: (body ++ ['"']), by simp [hquote], .string hbody⟩
      · unfold nextBare at h
        split at h
        · rename_i word t' hword
          cases h
          have hall : ∀ p ∈ words, (p.2, p.1) ∈ fixedTokens := by decide
          have hfront : word.isPrefixOf (c :: tail) = true := by simpa using List.find?_some hword
          obtain ⟨more, hmore⟩ := List.isPrefixOf_iff_prefix.mp hfront
          refine ⟨word, ?_, .fixed (hall _ (List.mem_of_find?_eq_some hword))⟩
          rw [← hmore, List.drop_left]
        · simp only at h
          split at h
          · rename_i hform
            cases h
            exact ⟨_, List.takeWhile_append_dropWhile.symm, .number (isNumber_iff.mp hform)⟩
          · cases h

/-! ## Documents -/

/-- A spelled token begins with a character that is no white space, and that goes on a number only
if it is a number itself. -/
lemma Token.Spelled.exists_head {t : Token} {cs : List Char} (h : t.Spelled cs) :
    ∃ c tail, cs = c :: tail ∧ isSpace c = false ∧
      (t.isNumber = false → isNumberChar c = false) := by
  cases h with
  | fixed h =>
      have hall : ∀ p ∈ fixedTokens, ∃ c ∈ p.2.head?,
          isSpace c = false ∧ isNumberChar c = false := by
        simp [fixedTokens, isSpace, Json.isNumberChar]
      obtain ⟨c, hc, hspace, hnumber⟩ := hall _ h
      obtain ⟨tail, rfl⟩ := List.head?_eq_some_iff.mp hc
      exact ⟨c, tail, rfl, hspace, fun _ => hnumber⟩
  | number h =>
      obtain ⟨c, tail, rfl, hc⟩ := h.exists_head
      refine ⟨c, tail, rfl, ?_, fun hnot => by cases hnot⟩
      obtain rfl | hdigit := hc
      · rfl
      · rw [Bool.eq_false_iff, Ne, isSpace_iff]
        rintro (rfl | rfl | rfl | rfl) <;> cases hdigit
  | string h => exact ⟨'"', _, rfl, rfl, fun _ => rfl⟩

lemma Blank.dropWhile_append {gap : List Char} (h : Blank gap) (cs : List Char) :
    (gap ++ cs).dropWhile isSpace = cs.dropWhile isSpace :=
  List.dropWhile_append_of_pos fun c hc => isSpace_iff.mpr (h c hc)

lemma tokens_of_blank {gap : List Char} (h : Blank gap) : tokens gap = some [] := by
  have hdrop := h.dropWhile_append []
  rw [List.append_nil, List.dropWhile_nil] at hdrop
  rw [tokens]
  split
  · rfl
  · rename_i hcons
    rw [hdrop] at hcons
    cases hcons

lemma tokens_of_next? {cs left : List Char} {t : Token}
    (h : Token.next? (cs.dropWhile isSpace) = some (t, left)) :
    tokens cs = (tokens left).map (t :: ·) := by
  rw [tokens]
  split
  · rename_i hnil
    rw [hnil] at h
    cases h
  · rename_i c rest hcons
    rw [hcons] at h
    split
    · rename_i hnone
      rw [hnone] at h
      cases h
    · rename_i hsome
      rw [hsome] at h
      cases h
      rfl

/-- A document that is read into tokens is a spelling of them. -/
theorem Spelled.of_tokens {cs : List Char} {ts : List Token} (h : tokens cs = some ts) :
    Spelled ts cs := by
  have hblank (cs : List Char) : Blank (cs.takeWhile isSpace) :=
    fun c hc => isSpace_iff.mp (List.mem_takeWhile_imp hc)
  fun_induction tokens cs generalizing ts with
  | case1 cs hnil =>
      cases h
      rw [← List.takeWhile_append_dropWhile (p := isSpace) (l := cs), hnil, List.append_nil]
      exact .nil (hblank cs)
  | case2 => cases h
  | case3 cs c rest hcons t left hnext ih =>
      obtain ⟨ts', hleft, rfl⟩ := Option.map_eq_some_iff.mp h
      obtain ⟨spelled, hsplit, ht⟩ := spelled_of_next? hnext
      rw [← List.takeWhile_append_dropWhile (p := isSpace) (l := cs), hcons, hsplit]
      exact .cons (hblank cs) ht (ih hleft)

/-- Behind a number there is white space, or a token that is no number, or nothing. -/
lemma Spelled.endsBefore {t : Token} {ts : List Token} {rest : List Char} (h : Spelled ts rest)
    (ht : t.isNumber = true) (hapart : ∀ u ∈ ts.head?, Apart t u) :
    EndsBefore isNumberChar rest := by
  have hgap {gap rest : List Char} (hgap : Blank gap) (hrest : EndsBefore isNumberChar rest) :
      EndsBefore isNumberChar (gap ++ rest) := by
    cases gap with
    | nil => exact hrest
    | cons c gap =>
        obtain rfl | rfl | rfl | rfl := hgap c (by simp) <;> simp [EndsBefore, isNumberChar]
  cases h with
  | nil hblank =>
      rw [← List.append_nil rest]
      exact hgap hblank (by simp [EndsBefore])
  | @cons u ts gap cs rest hblank hu hts =>
      refine hgap hblank ?_
      have hnot : u.isNumber = false := by
        rw [Bool.eq_false_iff]
        exact fun hnumber => hapart u rfl ⟨ht, hnumber⟩
      obtain ⟨c, tail, rfl, -, hc⟩ := hu.exists_head
      simpa [EndsBefore] using hc hnot

/-- **Each spelling of some tokens is read into them**, unless two numbers follow each other. -/
theorem Spelled.tokens_eq {ts : List Token} {cs : List Char} (h : Spelled ts cs)
    (hapart : ts.IsChain Apart) : tokens cs = some ts := by
  induction h with
  | nil hgap => exact tokens_of_blank hgap
  | @cons t ts gap cs rest hgap ht hts ih =>
      obtain ⟨hnext, hrest⟩ := List.isChain_cons.mp hapart
      have hread : Token.next? (cs ++ rest) = some (t, rest) :=
        next?_of_spelled ht fun hnumber => hts.endsBefore hnumber hnext
      obtain ⟨c, tail, rfl, hspace, -⟩ := ht.exists_head
      have hdrop : (gap ++ (c :: tail ++ rest)).dropWhile isSpace = c :: tail ++ rest := by
        rw [hgap.dropWhile_append, List.cons_append, List.dropWhile_cons_of_neg (by simp [hspace])]
      rw [tokens_of_next? (hdrop.symm ▸ hread), ih hrest]
      rfl

end TrafficDigest.Json
