/-!
# UTF-8

The decoding of bytes into characters, one character at a time.  `Utf8.next?` refuses what is no
shortest encoding of a Unicode scalar value, so the longest decodable beginning of a sequence of
bytes is well defined: `Utf8.decodePrefix` gives its characters and the bytes that are left.
-/

namespace TrafficDigest.Text.Utf8

/-- What a leading byte says: how many bytes follow it, the bits that it carries itself, and the
least code point that this many bytes are needed for. -/
def lead? (b : UInt8) : Option (Nat × Nat × Nat) :=
  let n := b.toNat
  if n < 0x80 then some (0, n, 0)
  else if n < 0xc0 then none
  else if n < 0xe0 then some (1, n - 0xc0, 0x80)
  else if n < 0xf0 then some (2, n - 0xe0, 0x800)
  else some (3, n - 0xf0, 0x10000)

/-- The code point with the bits of `more` further bytes, six from each, and what follows them. -/
def continued : Nat → Nat → List UInt8 → Option (Nat × List UInt8)
  | 0, code, rest => some (code, rest)
  | _ + 1, _, [] => none
  | more + 1, code, b :: rest =>
    if 0x80 ≤ b.toNat ∧ b.toNat < 0xc0 then continued more (code * 64 + (b.toNat - 0x80)) rest
    else none

/-- The character with a code point of at least `least`. -/
def charFrom? (least code : Nat) : Option Char :=
  if h : least ≤ code ∧ code.isValidChar then some (Char.ofNatAux code h.2) else none

/-- **The first character and the bytes after it.**  An encoding that is longer than its code point
needs is none. -/
def next? : List UInt8 → Option (Char × List UInt8)
  | [] => none
  | b :: rest => do
    let (more, bits, least) ← lead? b
    let (code, rest) ← continued more bits rest
    let c ← charFrom? least code
    return (c, rest)

theorem length_of_continued {more code code' : Nat} {bytes rest : List UInt8}
    (h : continued more code bytes = some (code', rest)) : rest.length + more = bytes.length := by
  induction more generalizing code bytes with
  | zero => simp_all [continued]
  | succ more ih =>
    cases bytes with
    | nil => simp [continued] at h
    | cons b bytes =>
      simp only [continued] at h
      split at h
      · have := ih h
        simp only [List.length_cons]
        omega
      · cases h

/-- Decoding a character uses at least one byte. -/
theorem length_of_next? {bytes rest : List UInt8} {c : Char} (h : next? bytes = some (c, rest)) :
    rest.length < bytes.length := by
  cases bytes with
  | nil => simp [next?] at h
  | cons b bytes =>
    simp only [next?, Option.bind_eq_bind, Option.bind_eq_some_iff, Option.pure_def,
      Option.some.injEq, Prod.mk.injEq] at h
    obtain ⟨_, _, ⟨_, rest'⟩, hc, _, _, _, rfl⟩ := h
    have := length_of_continued hc
    simp only [List.length_cons]
    omega

/-- The characters of the longest beginning that can be decoded, and the bytes that are left. -/
def decodePrefix (bytes : List UInt8) : List Char × List UInt8 :=
  match _h : next? bytes with
  | none => ([], bytes)
  | some (c, rest) =>
    let (cs, left) := decodePrefix rest
    (c :: cs, left)
termination_by bytes.length
decreasing_by exact length_of_next? _h

/-- The number of bytes that can be decoded from the front. -/
def validLength (bytes : List UInt8) : Nat := bytes.length - (decodePrefix bytes).2.length

/-- The characters that the bytes encode, if they encode characters to the last byte. -/
def decode? (bytes : List UInt8) : Option (List Char) :=
  let (cs, left) := decodePrefix bytes
  if left.isEmpty then some cs else none

/-- The bytes of a text. -/
def encode (s : String) : List UInt8 := s.toUTF8.toList

end TrafficDigest.Text.Utf8
