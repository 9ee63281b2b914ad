import Mathlib.Tactic.Lemma
import Mathlib.Tactic.Common
import TrafficDigest.Text.Utf8

/-!
# Text survives its encoding

The bytes of a text are decoded to its characters (`decode?_encode`).  This is a statement about one
character, with whatever bytes come after it (`next?_utf8EncodeChar`): its leading byte says how
many bytes follow, and the bits of all of them make up its code point again.  No other bytes are
decoded (`decode?_eq_some_iff`): what is decoded is the character whose encoding stands there
(`of_next?`).

A byte below 128 is a character of its own, and no part of the encoding of any other
(`mem_utf8EncodeChar_iff`).  So what is said in bytes of the marks of a format, which are such
characters, is said of the characters.
-/

namespace TrafficDigest.Text.Utf8

/-! ## Texts as bytes -/

lemma toList_loop (array : ByteArray) (i : Nat) (before : List UInt8) :
    ByteArray.toList.loop array i before = before.reverse ++ array.data.toList.drop i := by
  fun_induction ByteArray.toList.loop array i before with
  | case1 i before hi ih =>
      have hlength : i < array.data.toList.length := hi
      have hget : array.get! i = array.data.toList[i] := by
        show array.data[i]! = _
        rw [getElem!_pos array.data i hi, Array.getElem_toList]
      rw [ih, List.drop_eq_getElem_cons hlength, hget]
      simp
  | case2 i before hi =>
      have hlength : array.data.toList.length ≤ i := Nat.le_of_not_lt hi
      rw [List.drop_eq_nil_of_le hlength, List.append_nil]

/-- The bytes of characters, one character after the other. -/
def bytes (cs : List Char) : List UInt8 := cs.flatMap String.utf8EncodeChar

@[simp] lemma bytes_nil : bytes [] = [] := rfl

lemma bytes_cons (c : Char) (cs : List Char) :
    bytes (c :: cs) = String.utf8EncodeChar c ++ bytes cs :=
  rfl

@[simp] lemma bytes_append (cs ds : List Char) : bytes (cs ++ ds) = bytes cs ++ bytes ds :=
  List.flatMap_append

/-- The bytes of a text are those of its characters. -/
lemma encode_ofList (cs : List Char) : encode (String.ofList cs) = bytes cs := by
  show ByteArray.toList (String.ofList cs).toByteArray = _
  rw [String.toByteArray_ofList, ByteArray.toList, toList_loop]
  simp [List.utf8Encode, bytes]

lemma encode_eq (s : String) : encode s = bytes s.toList := by
  rw [← encode_ofList, String.ofList_toList]

/-! ## One character -/

lemma charFrom?_toNat {c : Char} {least : Nat} (h : least ≤ c.toNat) :
    charFrom? least c.toNat = some c := by
  rw [charFrom?, dif_pos ⟨h, c.valid⟩]
  rfl

/-- A byte that carries bits of a code point, in one step of the decoding. -/
lemma continued_cons {more code bits : Nat} (h : bits < 64) (rest : List UInt8) :
    continued (more + 1) code (UInt8.ofNat (bits + 128) :: rest)
      = continued more (code * 64 + bits) rest := by
  have hbyte : (UInt8.ofNat (bits + 128)).toNat = bits + 128 := by
    rw [UInt8.toNat_ofNat']
    omega
  rw [continued, hbyte, if_pos (by omega), Nat.add_sub_cancel]

/-- A character from its leading byte, the bits of the bytes after it, and its code point. -/
lemma next?_cons {b : UInt8} {further rest : List UInt8} {more bits least : Nat} {c : Char}
    (hlead : lead? b = some (more, bits, least))
    (hcontinued : continued more bits further = some (c.toNat, rest)) (hleast : least ≤ c.toNat) :
    next? (b :: further) = some (c, rest) := by
  simp [next?, hlead, hcontinued, charFrom?_toNat hleast]

/-- **A character is decoded from its bytes**, and what follows them is left. -/
theorem next?_utf8EncodeChar (c : Char) (rest : List UInt8) :
    next? (String.utf8EncodeChar c ++ rest) = some (c, rest) := by
  have hmax : c.toNat < 0x110000 := by
    have hvalid := c.valid
    simp only [UInt32.isValidChar, Nat.isValidChar] at hvalid
    show c.val.toNat < _
    omega
  simp only [String.utf8EncodeChar, Char.toNat_val]
  split_ifs with h₁ h₂ h₃ <;> simp only [List.cons_append, List.nil_append]
  · have hlead : lead? (UInt8.ofNat c.toNat) = some (0, c.toNat, 0) := by
      have hbyte : (UInt8.ofNat c.toNat).toNat = c.toNat := by
        rw [UInt8.toNat_ofNat']
        omega
      rw [lead?, hbyte, if_pos (by omega)]
    exact next?_cons hlead rfl (Nat.zero_le _)
  · have hlead : lead? (UInt8.ofNat (c.toNat / 64 % 0x20 + 0xc0))
        = some (1, c.toNat / 64, 0x80) := by
      have hbyte : (UInt8.ofNat (c.toNat / 64 % 0x20 + 0xc0)).toNat = c.toNat / 64 + 0xc0 := by
        rw [UInt8.toNat_ofNat']
        omega
      rw [lead?, hbyte, if_neg (by omega), if_neg (by omega), if_pos (by omega),
        Nat.add_sub_cancel]
    refine next?_cons hlead ?_ (by omega)
    rw [continued_cons (by omega), continued]
    congr 2
    omega
  · have hlead : lead? (UInt8.ofNat (c.toNat / 4096 % 0x10 + 0xe0))
        = some (2, c.toNat / 4096, 0x800) := by
      have hbyte : (UInt8.ofNat (c.toNat / 4096 % 0x10 + 0xe0)).toNat
          = c.toNat / 4096 + 0xe0 := by
        rw [UInt8.toNat_ofNat']
        omega
      rw [lead?, hbyte, if_neg (by omega), if_neg (by omega), if_neg (by omega),
        if_pos (by omega), Nat.add_sub_cancel]
    refine next?_cons hlead ?_ (by omega)
    rw [continued_cons (by omega), continued_cons (by omega), continued]
    congr 2
    omega
  · have hlead : lead? (UInt8.ofNat (c.toNat / 262144 % 8 + 0xf0))
        = some (3, c.toNat / 262144, 0x10000) := by
      have hbyte : (UInt8.ofNat (c.toNat / 262144 % 8 + 0xf0)).toNat
          = c.toNat / 262144 + 0xf0 := by
        rw [UInt8.toNat_ofNat']
        omega
      rw [lead?, hbyte, if_neg (by omega), if_neg (by omega), if_neg (by omega),
        if_neg (by omega), Nat.add_sub_cancel]
    refine next?_cons hlead ?_ (by omega)
    rw [continued_cons (by omega), continued_cons (by omega), continued_cons (by omega),
      continued]
    congr 2
    omega

/-! ## One character, from its bytes -/

/-- A byte that carried bits of a code point. -/
lemma of_continued {more code : Nat} {bytes : List UInt8} {r : Nat × List UInt8}
    (h : continued (more + 1) code bytes = some r) :
    ∃ b rest bits, bytes = b :: rest ∧ b.toNat = bits + 0x80 ∧ bits < 64 ∧
      continued more (code * 64 + bits) rest = some r := by
  cases bytes with
  | nil => cases h
  | cons b rest =>
      simp only [continued] at h
      split_ifs at h with hbits
      exact ⟨b, rest, b.toNat - 0x80, rfl, by omega, by omega, h⟩

lemma of_charFrom? {least code : Nat} {c : Char} (h : charFrom? least code = some c) :
    c.toNat = code ∧ least ≤ code := by
  rw [charFrom?] at h
  by_cases hcode : least ≤ code ∧ code.isValidChar
  · rw [dif_pos hcode] at h
    cases h
    exact ⟨rfl, hcode.1⟩
  · rw [dif_neg hcode] at h
    cases h

/-- What a leading byte can be. -/
lemma lead?_cases {b : UInt8} {more bits least : Nat} (h : lead? b = some (more, bits, least)) :
    (more = 0 ∧ least = 0 ∧ b.toNat = bits ∧ bits < 0x80) ∨
    (more = 1 ∧ least = 0x80 ∧ b.toNat = bits + 0xc0 ∧ bits < 0x20) ∨
    (more = 2 ∧ least = 0x800 ∧ b.toNat = bits + 0xe0 ∧ bits < 0x10) ∨
    (more = 3 ∧ least = 0x10000 ∧ b.toNat = bits + 0xf0) := by
  unfold lead? at h
  dsimp only at h
  split_ifs at h <;>
    simp only [Option.some.injEq, Prod.mk.injEq] at h <;>
    omega

/-- **What is decoded is the character whose encoding stands there.** -/
theorem of_next? {bytes rest : List UInt8} {c : Char} (h : next? bytes = some (c, rest)) :
    bytes = String.utf8EncodeChar c ++ rest := by
  have hmax : c.toNat < 0x110000 := by
    have hvalid := c.valid
    simp only [UInt32.isValidChar, Nat.isValidChar] at hvalid
    show c.val.toNat < _
    omega
  cases bytes with
  | nil => cases h
  | cons b tail =>
      simp only [next?, Option.bind_eq_bind, Option.bind_eq_some_iff, Option.pure_def,
        Option.some.injEq, Prod.mk.injEq] at h
      obtain ⟨⟨more, bits, least⟩, hlead, ⟨code, _⟩, hcontinued, c', hchar, hsame⟩ := h
      obtain ⟨rfl, rfl⟩ := hsame
      obtain ⟨hcode, hleast⟩ := of_charFrom? hchar
      dsimp only at hcontinued hcode hleast
      have hbyte {b : UInt8} {n : Nat} (h : b.toNat = n % 256) : b = UInt8.ofNat n :=
        UInt8.toNat_inj.mp (h.trans UInt8.toNat_ofNat'.symm)
      simp only [String.utf8EncodeChar, Char.toNat_val]
      rcases lead?_cases hlead with ⟨rfl, rfl, hb, hbits⟩ | ⟨rfl, rfl, hb, hbits⟩ |
        ⟨rfl, rfl, hb, hbits⟩ | ⟨rfl, rfl, hb⟩
      · cases hcontinued
        rw [if_pos (by omega), @hbyte b c'.toNat (by omega)]
        rfl
      · obtain ⟨b₁, rest, bits₁, rfl, hb₁, hbits₁, hcontinued⟩ := of_continued hcontinued
        cases hcontinued
        rw [if_neg (by omega), if_pos (by omega), @hbyte b (c'.toNat / 64 % 0x20 + 0xc0) (by omega),
          @hbyte b₁ (c'.toNat % 0x40 + 0x80) (by omega)]
        rfl
      · obtain ⟨b₁, rest, bits₁, rfl, hb₁, hbits₁, hcontinued⟩ := of_continued hcontinued
        obtain ⟨b₂, rest, bits₂, rfl, hb₂, hbits₂, hcontinued⟩ := of_continued hcontinued
        cases hcontinued
        rw [if_neg (by omega), if_neg (by omega), if_pos (by omega),
          @hbyte b (c'.toNat / 4096 % 0x10 + 0xe0) (by omega),
          @hbyte b₁ (c'.toNat / 64 % 0x40 + 0x80) (by omega),
          @hbyte b₂ (c'.toNat % 0x40 + 0x80) (by omega)]
        rfl
      · obtain ⟨b₁, rest, bits₁, rfl, hb₁, hbits₁, hcontinued⟩ := of_continued hcontinued
        obtain ⟨b₂, rest, bits₂, rfl, hb₂, hbits₂, hcontinued⟩ := of_continued hcontinued
        obtain ⟨b₃, rest, bits₃, rfl, hb₃, hbits₃, hcontinued⟩ := of_continued hcontinued
        cases hcontinued
        rw [if_neg (by omega), if_neg (by omega), if_neg (by omega),
          @hbyte b (c'.toNat / 262144 % 8 + 0xf0) (by omega),
          @hbyte b₁ (c'.toNat / 4096 % 0x40 + 0x80) (by omega),
          @hbyte b₂ (c'.toNat / 64 % 0x40 + 0x80) (by omega),
          @hbyte b₃ (c'.toNat % 0x40 + 0x80) (by omega)]
        rfl

/-! ## Texts -/

lemma decodePrefix_append (cs : List Char) (rest : List UInt8) :
    decodePrefix (bytes cs ++ rest)
      = (cs ++ (decodePrefix rest).1, (decodePrefix rest).2) := by
  induction cs with
  | nil => rfl
  | cons c cs ih =>
      rw [bytes_cons, List.append_assoc, decodePrefix]
      split
      · rename_i hnone
        cases (next?_utf8EncodeChar c _).symm.trans hnone
      · rename_i hsome
        cases (next?_utf8EncodeChar c _).symm.trans hsome
        rw [ih]
        rfl

/-- **A text is decoded from its bytes.** -/
theorem decode?_encode (s : String) : decode? (encode s) = some s.toList := by
  have hprefix := decodePrefix_append s.toList []
  have hnil : decodePrefix [] = ([], []) := by
    rw [decodePrefix]
    rfl
  rw [List.append_nil, ← encode_eq, hnil, List.append_nil] at hprefix
  rw [decode?, hprefix]
  rfl

/-- The characters that were decoded stand at the front, encoded. -/
lemma decodePrefix_eq (bs : List UInt8) : bytes (decodePrefix bs).1 ++ (decodePrefix bs).2 = bs := by
  fun_induction decodePrefix bs with
  | case1 bs hnone => rfl
  | case2 bs c rest hsome cs left hrest ih =>
      rw [hrest] at ih
      rw [of_next? hsome, bytes_cons, List.append_assoc, ih]

/-- **The bytes that encode a text are those of the text that they are decoded to.** -/
theorem decode?_eq_some_iff {bs : List UInt8} {cs : List Char} :
    decode? bs = some cs ↔ bs = bytes cs := by
  constructor
  · intro h
    have hsplit := decodePrefix_eq bs
    unfold decode? at h
    dsimp only at h
    split_ifs at h with hleft
    cases h
    rw [List.isEmpty_iff.mp hleft, List.append_nil] at hsplit
    exact hsplit.symm
  · rintro rfl
    rw [← encode_ofList, decode?_encode, String.toList_ofList]

@[simp] lemma decode?_bytes (cs : List Char) : decode? (bytes cs) = some cs :=
  decode?_eq_some_iff.mpr rfl

/-! ## Marks -/

/-- **A byte below 128 is a character of its own**, and in no encoding but that of the
character. -/
lemma mem_utf8EncodeChar_iff {b : UInt8} (hb : b.toNat < 0x80) {c : Char} :
    b ∈ String.utf8EncodeChar c ↔ c.toNat = b.toNat := by
  simp only [String.utf8EncodeChar, Char.toNat_val]
  split_ifs <;> simp only [List.mem_cons, List.not_mem_nil, or_false, ← UInt8.toNat_inj,
    UInt8.toNat_ofNat'] <;> omega

end TrafficDigest.Text.Utf8
