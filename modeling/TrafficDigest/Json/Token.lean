import TrafficDigest.Text

/-!
# Tokens of JSON documents

The marks, words, numbers and strings that a document is made of, and the reader that takes them
from its text one by one.  White space between tokens means nothing.
-/

namespace TrafficDigest.Json

/-- A token. -/
inductive Token where
  | openObject
  | closeObject
  | openArray
  | closeArray
  | colon
  | comma
  | null
  | bool (value : Bool)
  | number (literal : String)
  | string (text : Option String)
  deriving DecidableEq, Repr

/-- White space between tokens. -/
def isSpace (c : Char) : Bool := c == ' ' || c == '\t' || c == '\n' || c == '\r'

/-! ## Strings -/

/-- What a character of a string is written as: itself or an escape; an escape may also be half of
a surrogate pair. -/
inductive StringPart where
  | char (c : Char)
  | half (code : Nat)
  deriving DecidableEq, Repr

/-- The value of a digit of a number to the base 16. -/
def hexValue? (c : Char) : Option Nat :=
  if c.isDigit then some (Text.digitValue c)
  else if 'a' ≤ c ∧ c ≤ 'f' then some (c.toNat - 'a'.toNat + 10)
  else if 'A' ≤ c ∧ c ≤ 'F' then some (c.toNat - 'A'.toNat + 10)
  else none

/-- The number that digits to the base 16 stand for. -/
def hexNumber? (cs : List Char) : Option Nat :=
  cs.foldlM (fun n c => (hexValue? c).map (16 * n + ·)) 0

/-- The character that one letter after a backslash stands for. -/
def escaped? (c : Char) : Option Char :=
  ['"', '\\', '/', 'b', 'f', 'n', 'r', 't'].zip
    ['"', '\\', '/', '\u0008', '\u000c', '\n', '\r', '\t'] |>.lookup c

/-- What a code unit stands for on its own. -/
def StringPart.ofUnit (code : Nat) : StringPart :=
  if h : code.isValidChar then .char (Char.ofNatAux code h) else .half code

/-- The part that an escape stands for and what follows it; the backslash has been read. -/
def readEscape : List Char → Option (StringPart × List Char)
  | 'u' :: a :: b :: c :: d :: rest => (hexNumber? [a, b, c, d]).map (.ofUnit ·, rest)
  | c :: rest => (escaped? c).map (.char ·, rest)
  | [] => none

theorem length_readEscape {cs rest : List Char} {part : StringPart}
    (h : readEscape cs = some (part, rest)) : rest.length < cs.length := by
  unfold readEscape at h
  split at h
  · simp only [Option.map_eq_some_iff, Prod.mk.injEq] at h
    obtain ⟨_, _, _, rfl⟩ := h
    simp only [List.length_cons]
    omega
  · simp only [Option.map_eq_some_iff, Prod.mk.injEq] at h
    obtain ⟨_, _, _, rfl⟩ := h
    simp
  · cases h

/-- The parts of a string up to the closing quote and what follows it; the opening quote has been
read.  Control characters must be escaped. -/
def readString (cs : List Char) : Option (List StringPart × List Char) :=
  match cs with
  | [] => none
  | c :: rest =>
    if c = '"' then some ([], rest)
    else if c = '\\' then
      match _h : readEscape rest with
      | none => none
      | some (part, rest) => (readString rest).map fun (parts, rest) => (part :: parts, rest)
    else if c < ' ' then none
    else (readString rest).map fun (parts, rest) => (.char c :: parts, rest)
termination_by cs.length
decreasing_by
  · have := length_readEscape _h
    simp only [List.length_cons]
    omega
  · simp

/-- The character that two halves of a surrogate pair stand for. -/
def joinHalves? (high low : Nat) : Option Char :=
  if high < 0xdc00 ∧ 0xdc00 ≤ low then
    some (Char.ofNat (0x10000 + (high - 0xd800) * 0x400 + (low - 0xdc00)))
  else none

/-- **The text of a string**, if every half of a surrogate pair has its other half. -/
def textOfParts : List StringPart → Option (List Char)
  | [] => some []
  | .char c :: parts => (textOfParts parts).map (c :: ·)
  | .half high :: .half low :: parts => do
    let c ← joinHalves? high low
    return c :: (← textOfParts parts)
  | .half _ :: _ => none

/-! ## Numbers -/

/-- A character that a number may have. -/
def isNumberChar (c : Char) : Bool :=
  c.isDigit || c == '-' || c == '+' || c == '.' || c == 'e' || c == 'E'

/-- Nothing, or an exponent: a letter, a sign or none, and digits. -/
def isExponent : List Char → Bool
  | [] => true
  | e :: rest =>
    let digits := match rest with
      | '+' :: digits => digits
      | '-' :: digits => digits
      | digits => digits
    (e == 'e' || e == 'E') && !digits.isEmpty && digits.all Char.isDigit

/-- Nothing, or a point with digits; then an exponent or nothing. -/
def isFraction : List Char → Bool
  | '.' :: d :: rest => d.isDigit && isExponent (rest.dropWhile Char.isDigit)
  | rest => isExponent rest

/-- **The form of a number:** a hyphen or none, digits without a leading zero, and a fraction. -/
def isNumber (cs : List Char) : Bool :=
  let unsigned := match cs with
    | '-' :: rest => rest
    | _ => cs
  let whole := unsigned.takeWhile Char.isDigit
  (whole == ['0'] || whole.head?.any (· != '0')) && isFraction (unsigned.dropWhile Char.isDigit)

/-! ## Tokens -/

/-- The tokens of one character. -/
def marks : List (Char × Token) :=
  [('\x7b', .openObject), ('\x7d', .closeObject), ('[', .openArray), (']', .closeArray),
    (':', .colon), (',', .comma)]

/-- The tokens that are words. -/
def words : List (List Char × Token) :=
  [(['n', 'u', 'l', 'l'], .null), (['t', 'r', 'u', 'e'], .bool true),
    (['f', 'a', 'l', 's', 'e'], .bool false)]

/-- A number or a word at the front of a text, and what follows it. -/
def nextBare (cs : List Char) : Option (Token × List Char) :=
  match words.find? fun word => word.1.isPrefixOf cs with
  | some (word, t) => some (t, cs.drop word.length)
  | none =>
    let literal := cs.takeWhile isNumberChar
    if isNumber literal then some (.number (String.ofList literal), cs.dropWhile isNumberChar)
    else none

/-- **The token at the front** of a text, and what follows it. -/
def Token.next? : List Char → Option (Token × List Char)
  | [] => none
  | c :: rest =>
    match marks.lookup c with
    | some t => some (t, rest)
    | none =>
      if c = '"' then (readString rest).map fun (parts, rest) =>
        (.string ((textOfParts parts).map String.ofList), rest)
      else nextBare (c :: rest)

theorem length_readString {cs rest : List Char} {parts : List StringPart}
    (h : readString cs = some (parts, rest)) : rest.length ≤ cs.length := by
  fun_induction readString cs generalizing parts with
  | case1 => cases h
  | case2 => simp_all
  | case3 => cases h
  | case4 _ _ _ hl _ ih =>
    simp only [Option.map_eq_some_iff, Prod.exists, Prod.mk.injEq] at h
    obtain ⟨parts', _, h, _, rfl⟩ := h
    have := ih h
    have := length_readEscape hl
    simp only [List.length_cons]
    omega
  | case5 => cases h
  | case6 c cs _ _ _ ih =>
    simp only [Option.map_eq_some_iff, Prod.exists, Prod.mk.injEq] at h
    obtain ⟨parts', _, h, _, rfl⟩ := h
    have := ih h
    simp only [List.length_cons]
    omega

/-- No number is empty. -/
theorem isNumber_nil : isNumber [] = false := by decide

theorem length_nextBare {cs rest : List Char} {t : Token} (h : nextBare cs = some (t, rest)) :
    rest.length < cs.length := by
  simp only [nextBare] at h
  split at h
  · rename_i word t' hw
    simp only [Option.some.injEq, Prod.mk.injEq] at h
    obtain ⟨_, rfl⟩ := h
    have hmem := List.mem_of_find?_eq_some hw
    have hword : word.isPrefixOf cs = true := by simpa using List.find?_some hw
    have hpre := (List.isPrefixOf_iff_prefix.1 hword).length_le
    have : 0 < word.length := by
      simp only [words, List.mem_cons, Prod.mk.injEq, List.not_mem_nil, or_false] at hmem
      rcases hmem with h | h | h <;> rw [h.1] <;> decide
    simp only [List.length_drop] at hpre ⊢
    omega
  · split at h
    · rename_i hn
      simp only [Option.some.injEq, Prod.mk.injEq] at h
      obtain ⟨_, rfl⟩ := h
      have hsplit :=
        congrArg List.length (List.takeWhile_append_dropWhile (p := isNumberChar) (l := cs))
      have : (cs.takeWhile isNumberChar) ≠ [] := by
        intro he
        rw [he, isNumber_nil] at hn
        cases hn
      have := List.length_pos_iff.2 this
      simp only [List.length_append] at hsplit
      omega
    · cases h

/-- A token takes at least one character. -/
theorem length_next? {cs rest : List Char} {t : Token} (h : Token.next? cs = some (t, rest)) :
    rest.length < cs.length := by
  cases cs with
  | nil => cases h
  | cons c cs =>
    simp only [Token.next?] at h
    split at h
    · simp_all
    · split at h
      · simp only [Option.map_eq_some_iff, Prod.exists, Prod.mk.injEq] at h
        obtain ⟨_, _, h, _, rfl⟩ := h
        have := length_readString h
        simp only [List.length_cons]
        omega
      · exact length_nextBare h

/-- **The tokens of a document.** -/
def tokens (cs : List Char) : Option (List Token) :=
  match _h : cs.dropWhile isSpace with
  | [] => some []
  | c :: rest =>
    match _ht : Token.next? (c :: rest) with
    | none => none
    | some (t, left) => (tokens left).map (t :: ·)
termination_by cs.length
decreasing_by
  have h₁ := length_next? _ht
  have h₂ : (cs.dropWhile isSpace).length ≤ cs.length := (List.dropWhile_sublist isSpace).length_le
  rw [_h] at h₂
  omega

end TrafficDigest.Json
