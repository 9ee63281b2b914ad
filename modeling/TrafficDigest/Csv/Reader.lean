import TrafficDigest.Text.Utf8

/-!
# Reading comma-separated values

The reader of rows of fields.  Fields are separated by commas; a row ends at a line feed or a
carriage return, and empty lines are no rows.  A field that starts with a double quote runs to the
next lone double quote, with a double quote inside it written twice; what follows the closing quote
joins the field.  Elsewhere a double quote is an ordinary byte.  Every sequence of bytes has rows.

The functions go from a part to the whole: `unquoted` and `quoted` read one field, `fields` one
row, `rows` everything.  `Row.before` is what was still to be read when the reader turned to the
row, from which its place is known.
-/

namespace TrafficDigest.Csv

/-- The byte that separates fields. -/
def comma : UInt8 := 0x2c

/-- The byte around fields that hold separators. -/
def quote : UInt8 := 0x22

/-- The byte of the line feed. -/
def lineFeed : UInt8 := 0x0a

/-- The byte of the carriage return. -/
def carriageReturn : UInt8 := 0x0d

/-- A byte that ends a row. -/
def isTerminator (b : UInt8) : Bool := b == lineFeed || b == carriageReturn

/-- What a field ends at. -/
inductive Break where
  | comma
  | terminator
  | inputEnd
  deriving DecidableEq, Repr

/-- The bytes of a field. -/
abbrev Field := List UInt8

/-- A field, what it ends at, and what follows that. -/
structure Piece where
  field : Field
  stop : Break
  rest : List UInt8

/-- The piece with one more byte at the front of its field. -/
def Piece.cons (b : UInt8) (p : Piece) : Piece := { p with field := b :: p.field }

/-! ## One field -/

/-- The bytes up to the next comma or terminator. -/
def unquoted : List UInt8 → Piece
  | [] => ⟨[], .inputEnd, []⟩
  | b :: rest =>
    if b = comma then ⟨[], .comma, rest⟩
    else if isTerminator b then ⟨[], .terminator, rest⟩
    else (unquoted rest).cons b

/-- The same for a field whose opening quote has been read. -/
def quoted : List UInt8 → Piece
  | [] => ⟨[], .inputEnd, []⟩
  | b :: rest =>
    if b ≠ quote then (quoted rest).cons b
    else match rest with
      | [] => ⟨[], .inputEnd, []⟩
      | c :: rest => if c = quote then (quoted rest).cons quote else unquoted (c :: rest)

/-- A field with or without quotes. -/
def field : List UInt8 → Piece
  | [] => unquoted []
  | b :: rest => if b = quote then quoted rest else unquoted (b :: rest)

@[simp] theorem rest_cons (b : UInt8) (p : Piece) : (p.cons b).rest = p.rest := rfl

@[simp] theorem stop_cons (b : UInt8) (p : Piece) : (p.cons b).stop = p.stop := rfl

@[simp] theorem field_cons (b : UInt8) (p : Piece) : (p.cons b).field = b :: p.field := rfl

theorem length_unquoted (bytes : List UInt8) : (unquoted bytes).rest.length ≤ bytes.length - 1 := by
  induction bytes with
  | nil => simp [unquoted]
  | cons b rest ih =>
    simp only [unquoted, List.length_cons]
    split
    · simp
    · split
      · simp
      · simp only [rest_cons]
        omega

theorem length_quoted (bytes : List UInt8) : (quoted bytes).rest.length ≤ bytes.length := by
  fun_induction quoted bytes with
  | case1 => simp
  | case2 _ _ _ ih => simp only [rest_cons, List.length_cons]; omega
  | case3 => simp
  | case4 _ _ _ ih => simp only [rest_cons, List.length_cons]; omega
  | case5 _ _ c rest _ =>
    have := length_unquoted (c :: rest)
    simp only [List.length_cons] at this ⊢
    omega

/-- A field and what it ends at take at least one byte of what there is. -/
theorem length_field (bytes : List UInt8) : (field bytes).rest.length ≤ bytes.length - 1 := by
  cases bytes with
  | nil => simp [field, unquoted]
  | cons b rest =>
    simp only [field]
    split
    · have := length_quoted rest
      simp only [List.length_cons]
      omega
    · exact length_unquoted (b :: rest)

/-! ## Rows -/

/-- The fields of one row, and what follows the row. -/
def fields (bytes : List UInt8) : List Field × List UInt8 :=
  let piece := field bytes
  if _h : piece.stop = .comma then
    let others := fields piece.rest
    (piece.field :: others.1, others.2)
  else ([piece.field], piece.rest)
termination_by bytes.length
decreasing_by
  cases bytes with
  | nil => cases _h
  | cons b rest =>
    have := length_field (b :: rest)
    simp only [List.length_cons] at this ⊢
    omega

theorem length_fields (bytes : List UInt8) : (fields bytes).2.length ≤ bytes.length - 1 := by
  fun_induction fields bytes with
  | case1 bytes piece _ others ih =>
    have : piece.rest.length ≤ bytes.length - 1 := length_field bytes
    simp only [others]
    omega
  | case2 bytes => exact length_field bytes

/-- A row with what was still to be read when the reader turned to it. -/
structure Row where
  fields : List Field
  before : List UInt8

/-- **The rows**, each after the empty lines before it. -/
def rows (bytes : List UInt8) : List Row :=
  match _h : bytes.dropWhile isTerminator with
  | [] => []
  | b :: rest =>
    let row := fields (b :: rest)
    ⟨row.1, bytes⟩ :: rows row.2
termination_by bytes.length
decreasing_by
  have h₁ := length_fields (b :: rest)
  have h₂ : (bytes.dropWhile isTerminator).length ≤ bytes.length :=
    (List.dropWhile_sublist isTerminator).length_le
  rw [_h] at h₂
  simp only [List.length_cons] at h₁ h₂
  omega

/-! ## Documents -/

/-- The bytes of the mark that may stand at the start of a document. -/
def byteOrderMark : List UInt8 := [0xef, 0xbb, 0xbf]

/-- The bytes without a mark at their start. -/
def withoutMark (bytes : List UInt8) : List UInt8 :=
  if byteOrderMark.isPrefixOf bytes then bytes.drop 3 else bytes

/-- **The rows of a document.** -/
def read (bytes : List UInt8) : List Row := rows (withoutMark bytes)

/-- The bytes that lie before a row; the first row starts with the document. -/
def bytesBefore (document : List UInt8) (number : Nat) (row : Row) : List UInt8 :=
  if number = 0 then [] else document.take (document.length - row.before.length)

end TrafficDigest.Csv
