import Mathlib.Data.List.Forall2
import Mathlib.Data.List.TakeWhile
import TrafficDigest.Proofs.Csv.RoundTrip

/-!
# What comes after a row is not looked at

A row that ends at a line end is read in the same way whatever follows that line end.  The proof
goes from a part to the whole: a field ends at a byte (`field_stops`), a row at a line end
(`EndsInLine.fields_eq`), and the rows up to one that does are those of every document that begins
with the same bytes (`rows_eq_append`, `read_eq_append`).

An error may tell where a row is, so rows are compared together with what lies before them
(`SamePlace`).
-/

namespace TrafficDigest.Csv

/-! ## Fields -/

/-- The byte is one that a field stops at. -/
def Break.At : Break → UInt8 → Prop
  | .comma, b => b = Csv.comma
  | .terminator, b => isTerminator b = true
  | .inputEnd, _ => False

/-- **What a reader of a field stops at:** a byte, and then it does so whatever follows that byte,
or the end of what there is. -/
inductive Stops (reader : List UInt8 → Piece) (bytes : List UInt8) : Prop where
  | atByte (content : List UInt8) (b : UInt8) (hstop : (reader bytes).stop.At b)
      (hbytes : bytes = content ++ b :: (reader bytes).rest)
      (hother : ∀ other, reader (content ++ b :: other) = { reader bytes with rest := other })
  | atEnd (hstop : (reader bytes).stop = .inputEnd) (hrest : (reader bytes).rest = [])

/-- Whatever a reader does with the bytes it takes first, it stops where it stops after them. -/
lemma Stops.append {reader reader' : List UInt8 → Piece} {bytes : List UInt8}
    (h : Stops reader bytes) (first : List UInt8) (change : Field → Field)
    (hreader : ∀ other, other.head? = bytes.head? →
      reader' (first ++ other) = { reader other with field := change (reader other).field }) :
    Stops reader' (first ++ bytes) := by
  have hself := hreader bytes rfl
  cases h with
  | atByte content b hstop hbytes hother =>
      refine .atByte (first ++ content) b (hself ▸ hstop) ?_ fun other => ?_
      · rw [hself, List.append_assoc]
        exact congrArg (first ++ ·) hbytes
      · have hhead : (content ++ b :: other).head? = bytes.head? := by
          rw [hbytes, List.head?_append, List.head?_append]
          rfl
        rw [List.append_assoc, hreader _ hhead, hself, hother]
  | atEnd hstop hrest => exact .atEnd (hself ▸ hstop) (hself ▸ hrest)

lemma unquoted_stops (bytes : List UInt8) : Stops unquoted bytes := by
  induction bytes with
  | nil => exact .atEnd rfl rfl
  | cons c rest ih =>
      by_cases hcomma : c = comma
      · subst hcomma
        exact .atByte [] comma rfl rfl fun _ => rfl
      by_cases hterminator : isTerminator c = true
      · have hline := unquoted_of_isTerminator hterminator
        refine .atByte [] c ?_ ?_ fun other => ?_
        · rw [hline]
          exact hterminator
        · rw [hline]
          rfl
        · rw [List.nil_append, hline, hline]
      · refine ih.append [c] (c :: ·) fun other _ => ?_
        rw [List.singleton_append, unquoted, if_neg hcomma, if_neg hterminator]
        rfl

lemma quoted_stops (bytes : List UInt8) : Stops quoted bytes := by
  fun_induction quoted bytes with
  | case1 => exact .atEnd rfl rfl
  | case2 c rest hquote ih =>
      exact ih.append [c] (c :: ·) fun other _ => quoted_cons hquote other
  | case3 c hquote =>
      obtain rfl : c = quote := not_not.mp hquote
      exact .atEnd rfl rfl
  | case4 c hquote rest ih =>
      obtain rfl : c = quote := not_not.mp hquote
      exact ih.append [quote, quote] (quote :: ·) fun other _ => quoted_quote_quote other
  | case5 c hquote d rest hd =>
      obtain rfl : c = quote := not_not.mp hquote
      -- The reader has closed the quotes once it sees that `d` is no second one.
      refine (unquoted_stops (d :: rest)).append [quote] id fun other hhead => ?_
      obtain ⟨other, rfl⟩ := List.head?_eq_some_iff.mp hhead
      exact quoted_quote_cons hd other

/-- **A field ends at a byte, or at the end of what there is.** -/
theorem field_stops (bytes : List UInt8) : Stops field bytes := by
  match bytes with
  | [] => exact .atEnd rfl rfl
  | b :: rest =>
      by_cases hquote : b = quote
      · subst hquote
        exact (quoted_stops rest).append [quote] id fun _ _ => rfl
      · refine (unquoted_stops (b :: rest)).append [] id fun other hhead => ?_
        obtain ⟨other, rfl⟩ := List.head?_eq_some_iff.mp hhead
        exact field_cons_of_ne hquote other

/-! ## One row -/

lemma fields_of_comma {bytes : List UInt8} (h : (field bytes).stop = .comma) :
    fields bytes = ((field bytes).field :: (fields (field bytes).rest).1,
      (fields (field bytes).rest).2) := by
  rw [fields, dif_pos h]

lemma fields_of_ne_comma {bytes : List UInt8} (h : (field bytes).stop ≠ .comma) :
    fields bytes = ([(field bytes).field], (field bytes).rest) := by
  rw [fields, dif_neg h]

/-- **The row that is read here ends at a line end.** -/
inductive EndsInLine : List UInt8 → Prop where
  | last {bytes : List UInt8} (h : (field bytes).stop = .terminator) : EndsInLine bytes
  | comma {bytes : List UInt8} (h : (field bytes).stop = .comma)
      (hothers : EndsInLine (field bytes).rest) : EndsInLine bytes

/-- **A row that ends at a line end is the same before any other bytes.** -/
theorem EndsInLine.fields_eq {bytes : List UInt8} (h : EndsInLine bytes) :
    ∃ content b, isTerminator b = true ∧ bytes = content ++ b :: (fields bytes).2 ∧
      ∀ other, fields (content ++ b :: other) = ((fields bytes).1, other) := by
  induction h with
  | @last bytes h =>
      have hne : (field bytes).stop ≠ .comma := by
        rw [h]
        decide
      rw [fields_of_ne_comma hne]
      cases field_stops bytes with
      | atByte content b hstop hbytes hother =>
          rw [h] at hstop
          refine ⟨content, b, hstop, hbytes, fun other => ?_⟩
          have hsame := hother other
          rw [fields_of_ne_comma (by rwa [hsame]), hsame]
      | atEnd hstop => cases h.symm.trans hstop
  | @comma bytes h _ ih =>
      obtain ⟨content', b, hb, hrest, hothers⟩ := ih
      rw [fields_of_comma h]
      cases field_stops bytes with
      | atByte content c hstop hbytes hother =>
          refine ⟨content ++ c :: content', b, hb, ?_, fun other => ?_⟩
          · rw [List.append_assoc, List.cons_append]
            exact hrest ▸ hbytes
          · have hsame := hother (content' ++ b :: other)
            rw [List.append_assoc, List.cons_append, fields_of_comma (by rwa [hsame]), hsame,
              hothers]
      | atEnd hstop => cases h.symm.trans hstop

/-- Nothing comes after a row that ends at no line end. -/
theorem rest_eq_nil_of_not_endsInLine {bytes : List UInt8} (h : ¬EndsInLine bytes) :
    (fields bytes).2 = [] := by
  fun_induction fields bytes with
  | case1 bytes piece hcomma others ih => exact ih fun hothers => h (.comma hcomma hothers)
  | case2 bytes piece hcomma =>
      cases field_stops bytes with
      | atByte content b hstop =>
          cases hpiece : (field bytes).stop with
          | comma => exact absurd hpiece hcomma
          | terminator => exact absurd (.last hpiece) h
          | inputEnd =>
              rw [hpiece] at hstop
              cases hstop
      | atEnd _ hrest => exact hrest

/-! ## Rows -/

namespace Row

/-- The bytes from the first one of a row on. -/
def onward (row : Row) : List UInt8 := row.before.dropWhile isTerminator

/-- The bytes that come after a row. -/
def after (row : Row) : List UInt8 := (Csv.fields row.onward).2

end Row

lemma rows_of_dropWhile_ne_nil {bytes : List UInt8} (h : bytes.dropWhile isTerminator ≠ []) :
    rows bytes = ⟨(fields (bytes.dropWhile isTerminator)).1, bytes⟩
      :: rows (fields (bytes.dropWhile isTerminator)).2 := by
  rw [rows]
  split
  · rename_i hnil
    exact absurd hnil h
  · rename_i hcons
    rw [hcons]

lemma rows_of_dropWhile_eq_nil {bytes : List UInt8} (h : bytes.dropWhile isTerminator = []) :
    rows bytes = [] := by
  rw [rows]
  split
  · rfl
  · rename_i hcons
    cases h.symm.trans hcons

/-- **A line end before the rows** changes nothing but where the reader turned to the first. -/
lemma rows_cons_terminator {b : UInt8} (hb : isTerminator b = true) (bytes : List UInt8) :
    (rows bytes = [] ∧ rows (b :: bytes) = []) ∨
      ∃ row later, rows bytes = row :: later ∧
        rows (b :: bytes) = ⟨row.fields, b :: bytes⟩ :: later := by
  have hdrop : (b :: bytes).dropWhile isTerminator = bytes.dropWhile isTerminator :=
    List.dropWhile_cons_of_pos hb
  by_cases hnil : bytes.dropWhile isTerminator = []
  · exact Or.inl ⟨rows_of_dropWhile_eq_nil hnil, rows_of_dropWhile_eq_nil (hdrop.trans hnil)⟩
  · refine Or.inr ⟨_, _, rows_of_dropWhile_ne_nil hnil, ?_⟩
    rw [rows_of_dropWhile_ne_nil (hdrop ▸ hnil), hdrop]

/-- **The rows are read one after the other.** -/
lemma of_rows_eq_cons {bytes : List UInt8} {row : Row} {later : List Row}
    (h : rows bytes = row :: later) :
    row.onward ≠ [] ∧ row.before = bytes ∧ row.fields = (fields row.onward).1 ∧
      later = rows row.after := by
  rw [rows] at h
  split at h
  · cases h
  · rename_i hcons
    cases h
    simp only [Row.after, Row.onward, hcons]
    exact ⟨List.cons_ne_nil _ _, trivial, trivial, trivial⟩

/-- **Rows of two documents in the same place:** they have the same fields, and the same bytes lie
before them. -/
def SamePlace (document document' : List UInt8) (row row' : Row) : Prop :=
  row'.fields = row.fields ∧
    ∃ front, document = front ++ row.before ∧ document' = front ++ row'.before

lemma SamePlace.append {document document' : List UInt8} {row row' : Row}
    (h : SamePlace document document' row row') (front : List UInt8) :
    SamePlace (front ++ document) (front ++ document') row row' := by
  obtain ⟨hfields, start, hbefore, hbefore'⟩ := h
  exact ⟨hfields, front ++ start, by rw [List.append_assoc, ← hbefore],
    by rw [List.append_assoc, ← hbefore']⟩

lemma SamePlace.bytesBefore_eq {document document' : List UInt8} {row row' : Row}
    (h : SamePlace document document' row row') (number : Nat) :
    bytesBefore document' number row' = bytesBefore document number row := by
  obtain ⟨-, front, rfl, rfl⟩ := h
  simp [bytesBefore]

/-- **A row that ends at a line end is the first one of every document that begins so.** -/
lemma rows_line {bytes : List UInt8} {row : Row} {later : List Row}
    (h : rows bytes = row :: later) (hline : EndsInLine row.onward) :
    ∃ line b, isTerminator b = true ∧ bytes = line ++ b :: row.after ∧
      ∀ other, rows (line ++ b :: other) = ⟨row.fields, line ++ b :: other⟩ :: rows other := by
  obtain ⟨-, rfl, hfields, -⟩ := of_rows_eq_cons h
  obtain ⟨content, b, hb, honward, hother⟩ := hline.fields_eq
  have hsplit : row.before.takeWhile isTerminator ++ row.onward = row.before :=
    List.takeWhile_append_dropWhile
  refine ⟨row.before.takeWhile isTerminator ++ content, b, hb, ?_, fun other => ?_⟩
  · rw [List.append_assoc, Row.after, ← honward, hsplit]
  · have honward' : (row.before.takeWhile isTerminator ++ content ++ b :: other).dropWhile
        isTerminator = content ++ b :: other := by
      rw [List.append_assoc, List.dropWhile_append_of_pos fun c hc => List.mem_takeWhile_imp hc]
      -- The first byte of the row is no line end, whatever follows it.
      have hfirst {c : UInt8} (hc : row.onward.head? = some c) : isTerminator c = false := by
        have hnot := List.head?_dropWhile_not isTerminator row.before
        rwa [show (row.before.dropWhile isTerminator).head? = some c from hc] at hnot
      rw [honward] at hfirst
      cases content with
      | nil => cases hb.symm.trans (hfirst rfl)
      | cons c content =>
          exact List.dropWhile_cons_of_neg (Bool.not_eq_true _ ▸ hfirst rfl)
    rw [rows_of_dropWhile_ne_nil, honward', hother, hfields]
    rw [honward']
    simp

/-- **The rows up to one that ends at a line end are those of every document that begins so,** and
what follows is read as if it were alone. -/
theorem rows_eq_append {bytes : List UInt8} {earlier later : List Row} {row : Row}
    (h : rows bytes = earlier ++ row :: later) (hline : EndsInLine row.onward) :
    ∃ front b, isTerminator b = true ∧ bytes = front ++ b :: row.after ∧
      ∀ other, ∃ earlier' row', rows (front ++ b :: other) = earlier' ++ row' :: rows other ∧
        List.Forall₂ (SamePlace bytes (front ++ b :: other)) earlier earlier' ∧
        SamePlace bytes (front ++ b :: other) row row' := by
  induction earlier generalizing bytes with
  | nil =>
      obtain ⟨front, b, hb, hbytes, hother⟩ := rows_line h hline
      have hbefore := (of_rows_eq_cons h).2.1
      exact ⟨front, b, hb, hbytes, fun other =>
        ⟨[], _, hother other, .nil, rfl, [], hbefore.symm, rfl⟩⟩
  | cons first earlier ih =>
      obtain ⟨-, hbefore, -, hrest⟩ := of_rows_eq_cons h
      -- There is something after the first row, so it ends at a line end too.
      have hfirst : EndsInLine first.onward := by
        by_contra hlast
        rw [Row.after, rest_eq_nil_of_not_endsInLine hlast] at hrest
        simp [rows] at hrest
      obtain ⟨line, c, -, hbytes, hothers⟩ := rows_line h hfirst
      obtain ⟨front, b, hb, hafter, hother⟩ := ih hrest.symm
      refine ⟨line ++ c :: front, b, hb, ?_, fun other => ?_⟩
      · rw [List.append_assoc, List.cons_append, ← hafter, hbytes]
      · obtain ⟨earlier', row', hrows, hearlier, hrow⟩ := hother other
        have hplace {r r' : Row} (h : SamePlace first.after (front ++ b :: other) r r') :
            SamePlace bytes (line ++ c :: front ++ b :: other) r r' := by
          have happend := h.append (line ++ [c])
          simpa [← hbytes] using happend
        refine ⟨⟨first.fields, line ++ c :: front ++ b :: other⟩ :: earlier', row', ?_, ?_,
          hplace hrow⟩
        · rw [List.append_assoc, List.cons_append, hothers, hrows]
          rfl
        · exact .cons ⟨rfl, [], hbefore.symm, rfl⟩ (hearlier.imp fun _ _ => hplace)

/-! ## Documents -/

/-- Whether a document starts with a mark is known at its first line end. -/
lemma mark_of_mark_append {front other : List UInt8} {b : UInt8} (hb : isTerminator b = true)
    (h : byteOrderMark <+: front ++ b :: other) : byteOrderMark <+: front := by
  have hnot : b ∉ byteOrderMark := by
    intro hmem
    simp only [byteOrderMark, List.mem_cons, List.not_mem_nil, or_false] at hmem
    rcases hmem with rfl | rfl | rfl <;> cases hb
  have hline : front ++ [b] <+: front ++ b :: other := ⟨other, by simp⟩
  rcases List.prefix_or_prefix_of_prefix h hline with hmark | hmark
  · rcases List.prefix_concat_iff.mp hmark with hmark | hmark
    · exact absurd (hmark ▸ List.mem_concat_self) hnot
    · exact hmark
  · exact absurd (hmark.subset List.mem_concat_self) hnot

/-- A document has a mark or none, whatever follows a line end. -/
lemma withoutMark_append {document front rest : List UInt8} {b : UInt8}
    (hb : isTerminator b = true) (h : withoutMark document = front ++ b :: rest) :
    ∃ mark, document = mark ++ (front ++ b :: rest) ∧
      ∀ other, withoutMark (mark ++ (front ++ b :: other)) = front ++ b :: other := by
  by_cases hmark : byteOrderMark.isPrefixOf document = true
  · obtain ⟨unmarked, rfl⟩ := List.isPrefixOf_iff_prefix.mp hmark
    rw [withoutMark, if_pos hmark] at h
    obtain rfl : unmarked = front ++ b :: rest := h
    refine ⟨byteOrderMark, rfl, fun other => ?_⟩
    rw [withoutMark, if_pos (List.isPrefixOf_iff_prefix.mpr (List.prefix_append _ _))]
    rfl
  · rw [withoutMark, if_neg hmark] at h
    obtain rfl := h
    refine ⟨[], rfl, fun other => ?_⟩
    rw [List.nil_append, withoutMark, if_neg]
    intro hother
    have hfront := mark_of_mark_append hb (List.isPrefixOf_iff_prefix.mp hother)
    exact hmark (List.isPrefixOf_iff_prefix.mpr (hfront.trans (List.prefix_append _ _)))

/-- **The same for the rows of a document,** with a mark at its start or without. -/
theorem read_eq_append {document : List UInt8} {earlier later : List Row} {row : Row}
    (h : read document = earlier ++ row :: later) (hline : EndsInLine row.onward) :
    ∃ front b, isTerminator b = true ∧ document = front ++ b :: row.after ∧
      ∀ other, ∃ earlier' row', read (front ++ b :: other) = earlier' ++ row' :: rows other ∧
        List.Forall₂ (SamePlace document (front ++ b :: other)) earlier earlier' ∧
        SamePlace document (front ++ b :: other) row row' := by
  obtain ⟨front, b, hb, hbytes, hother⟩ := rows_eq_append h hline
  obtain ⟨mark, hdocument, hmark⟩ := withoutMark_append hb hbytes
  refine ⟨mark ++ front, b, hb, by rw [List.append_assoc, ← hdocument], fun other => ?_⟩
  obtain ⟨earlier', row', hrows, hearlier, hrow⟩ := hother other
  have hplace {r r' : Row} (h : SamePlace (withoutMark document) (front ++ b :: other) r r') :
      SamePlace document (mark ++ front ++ b :: other) r r' := by
    have happend := h.append mark
    rwa [hbytes, ← hdocument, ← List.append_assoc] at happend
  rw [List.append_assoc, read, hmark, ← List.append_assoc]
  exact ⟨earlier', row', hrows, hearlier.imp fun _ _ => hplace, hplace hrow⟩

end TrafficDigest.Csv
