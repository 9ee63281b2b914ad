import Mathlib.Data.List.Forall2
import TrafficDigest.Csv.Reader
import TrafficDigest.Proofs.Run
import TrafficDigest.Proofs.Text.Utf8
import TrafficDigest.Report

/-!
# Comma-separated values read back

What is written as comma-separated values is read back, whatever the fields hold.  The proof goes
from a part to the whole, each part with whatever comes after it: `standsFor_writeField` for a
field, `fields_writeRecord` for a record, and `rows_writeRecords` for the records of a document.

Other texts than those of the writer are read as well.  Which field some bytes are read as does not
depend on what comes after them (`StandsFor`), and fields joined by commas are a row
(`fields_joined`).

The writer works on characters and the reader on bytes.  They meet in the marks of the format, which
are characters of one byte: a field without marks has no byte that the reader stops at, and in a
field with quotes the bytes of quotes are written twice as the characters are.
-/

namespace TrafficDigest.Csv

open Text.Utf8 (bytes bytes_append bytes_cons encode)

/-- **The records of a document as texts**, as they stand, if all fields are encoded texts. -/
def readText? (document : List UInt8) : Option (List (List String)) :=
  (read document).mapM fun row =>
    row.fields.mapM fun field => (Text.Utf8.decode? field).map String.ofList

/-! ## Fields without quotes -/

/-- A byte that ends a field without quotes. -/
def EndsField (b : UInt8) : Prop := b = comma ∨ isTerminator b = true

/-- The bytes up to one that ends a field are taken as they are. -/
lemma unquoted_append {content : List UInt8} (h : ∀ b ∈ content, ¬EndsField b)
    (rest : List UInt8) :
    unquoted (content ++ rest)
      = { unquoted rest with field := content ++ (unquoted rest).field } := by
  induction content with
  | nil => rfl
  | cons b content ih =>
      obtain ⟨hb, hcontent⟩ := List.forall_mem_cons.mp h
      simp only [EndsField, not_or, Bool.not_eq_true] at hb
      rw [List.cons_append, unquoted, if_neg hb.1, hb.2, if_neg Bool.false_ne_true, ih hcontent]
      rfl

/-- A field may end before these bytes: the first of them ends it, or there are none. -/
def FieldEnd (rest : List UInt8) : Prop := ∀ b ∈ rest.head?, EndsField b

lemma FieldEnd.unquoted_field {rest : List UInt8} (h : FieldEnd rest) :
    (unquoted rest).field = [] := by
  cases rest with
  | nil => rfl
  | cons b rest =>
      have hb : EndsField b := h b rfl
      rw [unquoted]
      split_ifs with hcomma hterminator
      · rfl
      · rfl
      · exact absurd hb (by simp [EndsField, hcomma, hterminator])

/-! ## Fields with quotes -/

/-- A byte as it is written between quotes. -/
def doubled (b : UInt8) : List UInt8 := if b = quote then [quote, quote] else [b]

lemma flatMap_doubled {content : List UInt8} (h : quote ∉ content) :
    content.flatMap doubled = content := by
  induction content with
  | nil => rfl
  | cons b content ih =>
      obtain ⟨hb, hcontent⟩ : quote ≠ b ∧ quote ∉ content := by simpa using h
      rw [List.flatMap_cons, doubled, if_neg (Ne.symm hb), ih hcontent]
      rfl

lemma quoted_cons {b : UInt8} (h : b ≠ quote) (rest : List UInt8) :
    quoted (b :: rest) = (quoted rest).cons b := by
  rw [quoted.eq_def]
  simp [h]

/-- A quote before another one stands for itself. -/
lemma quoted_quote_quote (rest : List UInt8) :
    quoted (quote :: quote :: rest) = (quoted rest).cons quote := by
  simp [quoted]

/-- A quote before any other byte closes the field. -/
lemma quoted_quote_cons {b : UInt8} (h : b ≠ quote) (rest : List UInt8) :
    quoted (quote :: b :: rest) = unquoted (b :: rest) := by
  simp [quoted, h]

/-- Between quotes all bytes are taken, a doubled quote once. -/
lemma quoted_append (content rest : List UInt8) :
    quoted (content.flatMap doubled ++ rest)
      = { quoted rest with field := content ++ (quoted rest).field } := by
  induction content with
  | nil => rfl
  | cons b content ih =>
      rw [List.flatMap_cons, List.append_assoc]
      by_cases hquote : b = quote
      · subst hquote
        rw [doubled, if_pos rfl, List.cons_append, List.cons_append, List.nil_append,
          quoted_quote_quote, ih]
        rfl
      · rw [doubled, if_neg hquote, List.cons_append, List.nil_append, quoted_cons hquote, ih]
        rfl

/-! ## Characters and bytes -/

lemma mem_bytes_iff {b : UInt8} (hb : b.toNat < 0x80) {cs : List Char} :
    b ∈ bytes cs ↔ ∃ c ∈ cs, c.toNat = b.toNat := by
  simp [bytes, Text.Utf8.mem_utf8EncodeChar_iff hb]

/-- A mark is a character of one byte, and one that cannot stand without quotes. -/
lemma needsQuotes_of_toNat {b : UInt8} (h : EndsField b ∨ b = quote) :
    b.toNat < 0x80 ∧ ∀ c : Char, c.toNat = b.toNat → needsQuotes c = true := by
  have hmarks : b = comma ∨ b = quote ∨ b = carriageReturn ∨ b = lineFeed := by
    simp only [EndsField, isTerminator, Bool.or_eq_true, beq_iff_eq] at h
    tauto
  have hchar (d : Char) (hd : needsQuotes d = true) (c : Char) (hc : c.toNat = d.toNat) :
      needsQuotes c = true :=
    Char.toNat_inj.mp hc ▸ hd
  rcases hmarks with rfl | rfl | rfl | rfl
  · exact ⟨by decide, hchar ',' rfl⟩
  · exact ⟨by decide, hchar '"' rfl⟩
  · exact ⟨by decide, hchar '\r' rfl⟩
  · exact ⟨by decide, hchar '\n' rfl⟩

/-- No byte of a field that needs no quotes is a mark. -/
lemma not_mark_of_mem_bytes {cs : List Char} (h : cs.any needsQuotes = false) {b : UInt8}
    (hb : b ∈ bytes cs) : ¬(EndsField b ∨ b = quote) := by
  intro hmark
  obtain ⟨hsmall, hneeds⟩ := needsQuotes_of_toNat hmark
  obtain ⟨c, hc, heq⟩ := (mem_bytes_iff hsmall).mp hb
  exact List.any_eq_false.mp h c hc (hneeds c heq)

/-- Doubling quotes is the same in characters and in bytes. -/
lemma bytes_doubleQuotes (cs : List Char) :
    bytes (doubleQuotes cs) = (bytes cs).flatMap doubled := by
  induction cs with
  | nil => rfl
  | cons c cs ih =>
      have hhead : bytes (if c = '"' then ['"', '"'] else [c])
          = (String.utf8EncodeChar c).flatMap doubled := by
        split_ifs with hquote
        · subst hquote
          decide
        · have hnot : quote ∉ String.utf8EncodeChar c := by
            rw [Text.Utf8.mem_utf8EncodeChar_iff (by decide)]
            exact fun heq => hquote (Char.toNat_inj.mp heq)
          rw [flatMap_doubled hnot, bytes_cons, Text.Utf8.bytes_nil, List.append_nil]
      rw [doubleQuotes, List.flatMap_cons, bytes_append, bytes_cons, List.flatMap_append, hhead,
        ← ih, doubleQuotes]

/-! ## Fields -/

lemma EndsField.ne_quote {b : UInt8} (h : EndsField b) : b ≠ quote := by
  rintro rfl
  rcases h with h | h <;> cases h

lemma field_cons_of_ne {b : UInt8} (h : b ≠ quote) (rest : List UInt8) :
    field (b :: rest) = unquoted (b :: rest) := by
  rw [field, if_neg h]

lemma field_of_head?_ne {bytes : List UInt8} (h : bytes.head? ≠ some quote) :
    field bytes = unquoted bytes := by
  cases bytes with
  | nil => rfl
  | cons b rest => exact field_cons_of_ne (fun hb => h (hb ▸ rfl)) rest

lemma FieldEnd.head?_ne {rest : List UInt8} (h : FieldEnd rest) : rest.head? ≠ some quote :=
  fun hquote => (h quote hquote).ne_quote rfl

/-- **The bytes are read as this field**, wherever a field may end after them. -/
def StandsFor (written : List UInt8) (content : Field) : Prop :=
  ∀ rest, FieldEnd rest → field (written ++ rest) = { unquoted rest with field := content }

/-- Without quotes, bytes stand for themselves. -/
lemma standsFor_bare {content : List UInt8} (h : ∀ b ∈ content, ¬EndsField b)
    (hfirst : content.head? ≠ some quote) : StandsFor content content := by
  intro rest hrest
  have hhead : (content ++ rest).head? ≠ some quote := by
    cases content with
    | nil => exact hrest.head?_ne
    | cons b content => exact hfirst
  rw [field_of_head?_ne hhead, unquoted_append h, hrest.unquoted_field, List.append_nil]

/-- Between quotes, doubled quotes stand for single ones and other bytes for themselves. -/
lemma standsFor_quoted (content : List UInt8) :
    StandsFor (quote :: (content.flatMap doubled ++ [quote])) content := by
  intro rest hrest
  have hclosed : quoted (quote :: rest) = unquoted rest := by
    cases rest with
    | nil => rfl
    | cons b rest => exact quoted_quote_cons (hrest b rfl).ne_quote rest
  rw [List.cons_append, List.append_assoc, List.singleton_append, field, if_pos rfl,
    quoted_append, hclosed, hrest.unquoted_field, List.append_nil]

/-- Characters that need no quotes stand for themselves. -/
lemma standsFor_plain {cs : List Char} (h : cs.any needsQuotes = false) :
    StandsFor (bytes cs) (bytes cs) := by
  have hmarks (b : UInt8) (hb : b ∈ bytes cs) := not_or.mp (not_mark_of_mem_bytes h hb)
  refine standsFor_bare (fun b hb => (hmarks b hb).1) fun hfirst => ?_
  exact (hmarks quote (List.mem_of_mem_head? hfirst)).2 rfl

/-- **A field is read back.** -/
theorem standsFor_writeField (s : String) : StandsFor (bytes (writeField s)) (encode s) := by
  rw [Text.Utf8.encode_eq, writeField]
  split_ifs with hquotes
  · have hbytes : bytes ('"' :: doubleQuotes s.toList ++ ['"'])
        = quote :: ((bytes s.toList).flatMap doubled ++ [quote]) := by
      rw [bytes_append, bytes_cons, bytes_doubleQuotes]
      rfl
    rw [hbytes]
    exact standsFor_quoted _
  · exact standsFor_plain (Bool.not_eq_true _ ▸ hquotes)

/-! ## Records -/

lemma unquoted_comma (rest : List UInt8) : unquoted (comma :: rest) = ⟨[], .comma, rest⟩ := rfl

lemma unquoted_of_isTerminator {b : UInt8} (h : isTerminator b = true) (rest : List UInt8) :
    unquoted (b :: rest) = ⟨[], .terminator, rest⟩ := by
  have hcomma : b ≠ comma := by
    rintro rfl
    cases h
  rw [unquoted, if_neg hcomma, if_pos h]

/-- A row may end before these bytes. -/
def RowEnd (rest : List UInt8) : Prop := ∀ b ∈ rest.head?, isTerminator b = true

lemma RowEnd.fieldEnd {rest : List UInt8} (h : RowEnd rest) : FieldEnd rest :=
  fun b hb => Or.inr (h b hb)

/-- The last field of a row takes the line end with it. -/
lemma RowEnd.unquoted_eq {rest : List UInt8} (h : RowEnd rest) :
    (unquoted rest).stop ≠ .comma ∧ (unquoted rest).rest = rest.tail := by
  cases rest with
  | nil => exact ⟨by decide, rfl⟩
  | cons b rest =>
      rw [unquoted_of_isTerminator (h b rfl)]
      exact ⟨Break.noConfusion, rfl⟩

/-- **Fields joined by commas are read as a row**, up to where it ends. -/
theorem fields_joined {written : List (List UInt8)} {contents : List Field}
    (h : List.Forall₂ StandsFor written contents) (hne : written ≠ []) {rest : List UInt8}
    (hrest : RowEnd rest) :
    fields ([comma].intercalate written ++ rest) = (contents, rest.tail) := by
  induction h with
  | nil => exact absurd rfl hne
  | @cons first content written contents hfirst hothers ih =>
      cases hothers with
      | nil =>
          obtain ⟨hstop, htail⟩ := hrest.unquoted_eq
          rw [List.intercalate_singleton, fields, hfirst rest hrest.fieldEnd, dif_neg hstop, htail]
      | cons _ _ =>
          have hcomma (other : List UInt8) : FieldEnd (comma :: other) := by
            rintro b ⟨⟩
            exact Or.inl rfl
          rw [List.intercalate_cons_cons, List.append_assoc, List.append_assoc,
            List.singleton_append, fields, hfirst _ (hcomma _), unquoted_comma, dif_pos rfl,
            ih (List.cons_ne_nil _ _)]

/-- The commas between columns are commas between their bytes. -/
lemma bytes_joined (columns : List (List Char)) :
    bytes ([','].intercalate columns) = [comma].intercalate (columns.map bytes) := by
  match columns with
  | [] => rfl
  | [column] => simp
  | first :: second :: others =>
      have hothers := bytes_joined (second :: others)
      rw [List.map_cons] at hothers
      rw [List.intercalate_cons_cons, bytes_append, bytes_append, hothers, List.map_cons,
        List.map_cons, List.intercalate_cons_cons]
      rfl

/-- **A record is read back**, and what follows it is left. -/
theorem fields_writeRecord {record : List String} (h : record ≠ []) (rest : List UInt8) :
    fields (bytes (writeRecord record) ++ rest) = (record.map encode, rest) := by
  have hwritten : List.Forall₂ StandsFor ((record.map writeField).map bytes)
      (record.map encode) := by
    rw [List.map_map, List.forall₂_map_left_iff, List.forall₂_map_right_iff, List.forall₂_same]
    exact fun s _ => standsFor_writeField s
  have hend : RowEnd (lineFeed :: rest) := by
    rintro b ⟨⟩
    rfl
  have hline := fields_joined hwritten (by simpa using h) hend
  rw [← bytes_joined, List.tail_cons] at hline
  have hfeed (cs : List Char) : bytes (cs ++ ['\n']) ++ rest = bytes cs ++ lineFeed :: rest := by
    rw [bytes_append, List.append_assoc]
    rfl
  simp only [writeRecord]
  split_ifs with hempty
  · -- A pair of quotes and nothing at all are both read as one empty field.
    have hpair : fields (quote :: quote :: lineFeed :: rest) = ([[]], rest) := by
      rw [fields]
      rfl
    have hnothing : fields (lineFeed :: rest) = ([[]], rest) := by
      rw [fields]
      rfl
    rw [hfeed, ← hline, List.isEmpty_iff.mp hempty]
    exact hpair.trans hnothing.symm
  · rw [hfeed, hline]

/-! ## Records among records -/

/-- What no reader passes over: there is a first byte, and it does not end a row. -/
def StartsRow (document : List UInt8) : Prop :=
  ∃ b rest, document = b :: rest ∧ isTerminator b = false

lemma rows_of_startsRow {document : List UInt8} (h : StartsRow document) :
    rows document = ⟨(fields document).1, document⟩ :: rows (fields document).2 := by
  obtain ⟨b, rest, rfl, hb⟩ := h
  have hdrop : (b :: rest).dropWhile isTerminator = b :: rest :=
    List.dropWhile_cons_of_neg (by simp [hb])
  rw [rows]
  split
  · rename_i hnil
    cases hdrop.symm.trans hnil
  · rename_i hcons
    cases hdrop.symm.trans hcons
    rfl

/-- A field as it is written starts with no line end. -/
lemma head_writeField {s : String} {c : Char} (h : c ∈ (writeField s).head?) :
    c ≠ '\n' ∧ c ≠ '\r' := by
  simp only [writeField] at h
  split_ifs at h with hquotes
  · cases h
    decide
  · have hmem : c ∈ s.toList := List.mem_of_mem_head? h
    have hplain : needsQuotes c = false := by
      rw [Bool.not_eq_true] at hquotes
      simpa using List.any_eq_false.mp hquotes c hmem
    constructor <;> rintro rfl <;> cases hplain

/-- The line of a record starts with none either. -/
lemma head_line {record : List String} {c : Char}
    (h : c ∈ ([','].intercalate (record.map writeField)).head?) : c ≠ '\n' ∧ c ≠ '\r' := by
  match record with
  | [] => cases h
  | [s] =>
      rw [List.map_singleton, List.intercalate_singleton] at h
      exact head_writeField h
  | s :: t :: others =>
      rw [List.map_cons, List.map_cons, List.intercalate_cons_cons, List.append_assoc,
        List.head?_append] at h
      cases hhead : (writeField s).head? with
      | none =>
          rw [hhead] at h
          cases h
          decide
      | some d =>
          rw [hhead] at h
          cases h
          exact head_writeField hhead

lemma startsRow_bytes {c : Char} (h : c ≠ '\n' ∧ c ≠ '\r') (cs : List Char) (rest : List UInt8) :
    StartsRow (bytes (c :: cs) ++ rest) := by
  have hpos : 0 < (String.utf8EncodeChar c).length := by
    rw [String.length_utf8EncodeChar]
    exact c.utf8Size_pos
  obtain ⟨b, further, hbytes⟩ := List.exists_cons_of_length_pos hpos
  have hmem : b ∈ String.utf8EncodeChar c := by
    rw [hbytes]
    exact List.mem_cons_self
  refine ⟨b, further ++ bytes cs ++ rest, by rw [bytes_cons, hbytes]; rfl, ?_⟩
  rw [isTerminator, Bool.or_eq_false_iff, beq_eq_false_iff_ne, beq_eq_false_iff_ne]
  constructor <;> rintro rfl
  · exact h.1 (Char.toNat_inj.mp ((Text.Utf8.mem_utf8EncodeChar_iff (by decide)).mp hmem))
  · exact h.2 (Char.toNat_inj.mp ((Text.Utf8.mem_utf8EncodeChar_iff (by decide)).mp hmem))

lemma startsRow_writeRecord (record : List String) (rest : List UInt8) :
    StartsRow (bytes (writeRecord record) ++ rest) := by
  simp only [writeRecord]
  split_ifs with hempty
  · exact startsRow_bytes (by decide) _ rest
  · cases hline : [','].intercalate (record.map writeField) with
    | nil => exact absurd (by rw [hline]; rfl) hempty
    | cons c cs => exact startsRow_bytes (head_line (by rw [hline]; rfl)) _ rest

/-- **The records of a document are read back.** -/
theorem rows_writeRecords {records : List (List String)} (h : ∀ record ∈ records, record ≠ []) :
    (rows (bytes (records.flatMap writeRecord))).map Row.fields
      = records.map (List.map encode) := by
  induction records with
  | nil =>
      rw [List.flatMap_nil, Text.Utf8.bytes_nil, rows]
      rfl
  | cons record records ih =>
      obtain ⟨hrecord, hrecords⟩ := List.forall_mem_cons.mp h
      rw [List.flatMap_cons, bytes_append, rows_of_startsRow (startsRow_writeRecord record _),
        fields_writeRecord hrecord, List.map_cons, List.map_cons, ih hrecords]

/-! ## Documents -/

lemma withoutMark_eq {document : List UInt8} (h : document.head? ≠ some 0xef) :
    withoutMark document = document := by
  rw [withoutMark, if_neg]
  intro hprefix
  obtain ⟨rest, rfl⟩ := List.isPrefixOf_iff_prefix.mp hprefix
  exact h rfl

/-- **What was written is read back as texts**, unless it starts like a document with a mark, which
no reader gives back. -/
theorem readText?_writeRecords {records : List (List String)}
    (hrecords : ∀ record ∈ records, record ≠ [])
    (hmark : (bytes (records.flatMap writeRecord)).head? ≠ some 0xef) :
    readText? (encode (String.ofList (records.flatMap writeRecord))) = some records := by
  have htexts (record : List String) :
      (record.map encode).mapM (fun field => (Text.Utf8.decode? field).map String.ofList)
        = some record :=
    mapM_map_eq_some fun s _ => by
      rw [Text.Utf8.decode?_encode, Option.map_some, String.ofList_toList]
  have hrows := rows_writeRecords hrecords
  rw [readText?, Text.Utf8.encode_ofList, read, withoutMark_eq hmark,
    ← mapM_map_eq_some fun record _ => htexts record, ← hrows, List.mapM_map]
  rfl

end TrafficDigest.Csv
