import TrafficDigest.Proofs.Csv.Prefix

/-!
# The line on which a row starts

A line ends at a line feed, at a carriage return, or at a carriage return with a line feed.  Rows
are not lines: empty lines are no rows, and a field in quotes may run over line ends.  `Row.line` is
the number of the line on which a row starts.  It is the number of the row if the lines before it
hold a row each (`LineByLine`), and larger if they do not (`exists_preceding`).

The induction is on the rows before.  Each takes the line ends that were passed over to reach it,
those in its quotes and the one at which it ends (`exists_takes`); only the last of these is always
there.
-/

namespace TrafficDigest.Csv

/-! ## Lines -/

/-- The ways to end a line. -/
def lineEnds : List (List UInt8) := [[lineFeed], [carriageReturn], [carriageReturn, lineFeed]]

/-- How many lines end in these bytes. -/
def countLineEnds : List UInt8 → Nat
  | [] => 0
  | b :: rest =>
    (if b = lineFeed ∨ b = carriageReturn ∧ rest.head? ≠ some lineFeed then 1 else 0) +
      countLineEnds rest

/-- A row with this content ends at the first byte of this line end, whatever comes next. -/
def EndsAt (content lineEnd : List UInt8) : Prop :=
  ∀ other, (fields (content ++ lineEnd ++ other)).2 = lineEnd.tail ++ other

/-- **Lines that hold a row each:** none is empty, and the row that starts on one ends with it. -/
inductive LineByLine : List UInt8 → Prop where
  | nil : LineByLine []
  | cons {line lineEnd rest : List UInt8} (hne : line ≠ [])
      (hline : ∀ b ∈ line, isTerminator b = false) (hend : lineEnd ∈ lineEnds)
      (hrow : EndsAt line lineEnd) (hrest : LineByLine rest) :
      LineByLine (line ++ lineEnd ++ rest)

namespace Row

/-- The text of a document before a row. -/
def preceding (document : List UInt8) (row : Row) : List UInt8 :=
  let text := withoutMark document
  text.take (text.length - row.onward.length)

/-- **The number of the line on which a row starts,** from one. -/
def line (document : List UInt8) (row : Row) : Nat := 1 + countLineEnds (row.preceding document)

end Row

lemma isTerminator_iff {b : UInt8} :
    isTerminator b = true ↔ b = lineFeed ∨ b = carriageReturn := by
  simp [isTerminator]

lemma eq_nil_of_terminators {lead : List UInt8} (h : ∀ b ∈ lead, isTerminator b = true)
    (hplain : ∀ b ∈ lead, isTerminator b = false) : lead = [] := by
  refine List.eq_nil_iff_forall_not_mem.mpr fun b hb => ?_
  cases (h b hb).symm.trans (hplain b hb)

lemma countLineEnds_eq_zero_iff {bytes : List UInt8} :
    countLineEnds bytes = 0 ↔ ∀ b ∈ bytes, isTerminator b = false := by
  induction bytes with
  | nil => simp [countLineEnds]
  | cons b rest ih =>
      rw [countLineEnds, List.forall_mem_cons]
      split
      · rename_i h
        have hb : isTerminator b = true := isTerminator_iff.mpr (h.imp_right And.left)
        simp [hb]
      · rename_i h
        push Not at h
        rw [Nat.zero_add, ih, iff_and_self]
        intro hrest
        rw [← Bool.not_eq_true, isTerminator_iff, not_or]
        refine ⟨h.1, fun hb => ?_⟩
        -- a carriage return is not counted only before a line feed, which is counted
        have hmem := List.mem_of_head? (h.2 hb)
        exact absurd (hrest _ hmem) (by decide)

lemma countLineEnds_append {front rest : List UInt8}
    (h : front.getLast? = some carriageReturn → rest.head? ≠ some lineFeed) :
    countLineEnds (front ++ rest) = countLineEnds front + countLineEnds rest := by
  induction front with
  | nil => simp [countLineEnds]
  | cons b front ih =>
      cases front with
      | nil =>
          have hlast : b = carriageReturn → rest.head? ≠ some lineFeed := by simpa using h
          by_cases hb : b = carriageReturn
          · simp [countLineEnds, hb, hlast hb]
          · simp [countLineEnds, hb]
      | cons c front =>
          have hlater := ih (by simpa using h)
          rw [List.cons_append, countLineEnds, hlater, ← Nat.add_assoc]
          rfl

/-! ## Where a row ends -/

/-- The bytes leave these others, and the byte before the one they end at ends no line. -/
def Leaves (bytes rest : List UInt8) : Prop :=
  ∃ front c b, isTerminator c = false ∧ bytes = front ++ c :: b :: rest

lemma Leaves.append {bytes rest : List UInt8} (h : Leaves bytes rest) (first : List UInt8) :
    Leaves (first ++ bytes) rest := by
  obtain ⟨front, c, b, hc, rfl⟩ := h
  exact ⟨first ++ front, c, b, hc, by simp⟩

lemma Leaves.cons {bytes rest : List UInt8} {c : UInt8}
    (h : (∃ b, bytes = b :: rest) ∨ Leaves bytes rest) (hc : isTerminator c = false) :
    Leaves (c :: bytes) rest := by
  rcases h with ⟨b, rfl⟩ | h
  · exact ⟨[], c, b, hc, rfl⟩
  · exact h.append [c]

lemma unquoted_leaves {bytes : List UInt8} (h : (unquoted bytes).stop ≠ .inputEnd) :
    (∃ b, bytes = b :: (unquoted bytes).rest) ∨ Leaves bytes (unquoted bytes).rest := by
  induction bytes with
  | nil => exact absurd rfl h
  | cons c rest ih =>
      rw [unquoted] at h ⊢
      split at h
      · rw [if_pos ‹_›]
        exact Or.inl ⟨c, rfl⟩
      rw [if_neg ‹_›]
      split at h
      · rw [if_pos ‹_›]
        exact Or.inl ⟨c, rfl⟩
      rw [if_neg ‹_›]
      exact Or.inr (.cons (ih h) (Bool.not_eq_true _ ▸ ‹_›))

lemma quoted_leaves {bytes : List UInt8} (h : (quoted bytes).stop ≠ .inputEnd) :
    Leaves bytes (quoted bytes).rest := by
  fun_induction quoted bytes with
  | case1 => exact absurd rfl h
  | case2 c rest _ ih => exact (ih h).append [c]
  | case3 => exact absurd rfl h
  | case4 c hquote rest ih => exact (ih h).append [c, quote]
  | case5 c hquote d rest =>
      obtain rfl : c = quote := not_not.mp hquote
      exact .cons (unquoted_leaves h) rfl

lemma field_leaves {bytes : List UInt8} (h : (field bytes).stop ≠ .inputEnd) :
    (∃ b, bytes = b :: (field bytes).rest) ∨ Leaves bytes (field bytes).rest := by
  cases bytes with
  | nil => exact absurd rfl h
  | cons c rest =>
      rw [field] at h ⊢
      split at h
      · rw [if_pos ‹_›]
        exact Or.inr ((quoted_leaves h).append [c])
      · rw [if_neg ‹_›]
        exact unquoted_leaves h

lemma EndsInLine.leaves {bytes : List UInt8} (h : EndsInLine bytes) :
    (∃ b, bytes = b :: (fields bytes).2) ∨ Leaves bytes (fields bytes).2 := by
  induction h with
  | @last bytes h =>
      rw [fields_of_ne_comma (by rw [h]; decide)]
      exact field_leaves (by rw [h]; decide)
  | @comma bytes h _ ih =>
      rw [fields_of_comma h]
      cases field_stops bytes with
      | atByte content b hstop hbytes _ =>
          rw [h] at hstop
          obtain rfl : b = Csv.comma := hstop
          have hleaves := (Leaves.cons ih (c := Csv.comma) (by decide)).append content
          exact Or.inr (by rwa [← hbytes] at hleaves)
      | atEnd hstop => cases h.symm.trans hstop

/-- A row that ends in a line takes some bytes, of which the last ends no line, up to a line end. -/
lemma EndsInLine.exists_content {bytes : List UInt8} (h : EndsInLine bytes)
    (hhead : ∀ b, bytes.head? = some b → isTerminator b = false) :
    ∃ content b, isTerminator b = true ∧ bytes = content ++ b :: (fields bytes).2 ∧
      (∀ other, (fields (content ++ b :: other)).2 = other) ∧
      ∃ c, content.getLast? = some c ∧ isTerminator c = false := by
  obtain ⟨content, b, hb, hbytes, hother⟩ := h.fields_eq
  refine ⟨content, b, hb, hbytes, fun other => by rw [hother], ?_⟩
  have hsame (front : List UInt8) (h : bytes = front ++ (fields bytes).2) :
      front = content ++ [b] := by
    have hboth : front ++ (fields bytes).2 = content ++ [b] ++ (fields bytes).2 := by
      simpa using h.symm.trans hbytes
    exact List.append_cancel_right hboth
  rcases h.leaves with ⟨d, hd⟩ | ⟨front, c, d, hc, hd⟩
  · -- a row that takes one byte would start with its line end
    have hnil : [] ++ [d] = content ++ [b] := hsame [d] hd
    obtain ⟨-, hsingle⟩ := List.append_inj' hnil rfl
    cases hsingle
    exact absurd hb (by simp [hhead b (by rw [hd]; rfl)])
  · have hcontent := hsame (front ++ [c] ++ [d]) (by simpa using hd)
    obtain ⟨rfl, -⟩ := List.append_inj' hcontent rfl
    exact ⟨c, by simp, hc⟩

/-! ## One row of several -/

/-- **What a row takes that others come after:** line ends before it, its content, of which the last
byte ends no line, and the line end at which it ends. -/
structure Takes (lead content lineEnd next : List UInt8) : Prop where
  hlead : ∀ b ∈ lead, isTerminator b = true
  hcontent : ∃ c, content.getLast? = some c ∧ isTerminator c = false
  hend : lineEnd ∈ lineEnds
  /-- The line end is taken in full. -/
  hnext : lineEnd = [carriageReturn] → next.head? ≠ some lineFeed
  hrow : EndsAt content lineEnd

lemma Takes.of_append {lead content lineEnd front rest : List UInt8}
    (h : Takes lead content lineEnd (front ++ rest)) : Takes lead content lineEnd front := by
  refine { h with hnext := fun hreturn hfeed => h.hnext hreturn ?_ }
  simp [hfeed]

/-- A line end in full, from its first byte.  The rows after it are those after that byte. -/
lemma exists_lineEnd {b : UInt8} (hb : isTerminator b = true) (after : List UInt8) :
    ∃ tail next, after = tail ++ next ∧ b :: tail ∈ lineEnds ∧
      (b :: tail = [carriageReturn] → next.head? ≠ some lineFeed) ∧
      (rows after).map Row.onward = (rows next).map Row.onward := by
  by_cases hpair : b = carriageReturn ∧ after.head? = some lineFeed
  · obtain ⟨rfl, hfeed⟩ := hpair
    obtain ⟨next, rfl⟩ := List.head?_eq_some_iff.mp hfeed
    refine ⟨[lineFeed], next, rfl, by simp [lineEnds], by simp, ?_⟩
    rcases rows_cons_terminator (b := lineFeed) rfl next with ⟨h, h'⟩ | ⟨row, later, h, h'⟩
    · rw [h, h']
    · have hbefore := (of_rows_eq_cons h).2.1
      rw [h, h', List.map_cons, List.map_cons, Row.onward, Row.onward, hbefore]
      rfl
  · refine ⟨[], after, rfl, ?_, ?_, rfl⟩
    · rcases isTerminator_iff.mp hb with rfl | rfl <;> simp [lineEnds]
    · intro hreturn hfeed
      exact hpair ⟨by simpa using hreturn, hfeed⟩

lemma onward_eq_cons {bytes onward : List UInt8} {others : List (List UInt8)}
    (h : (rows bytes).map Row.onward = onward :: others) :
    onward = bytes.dropWhile isTerminator ∧ others = (rows (fields onward).2).map Row.onward := by
  obtain ⟨row, later, hrows, rfl, rfl⟩ := List.map_eq_cons_iff.mp h
  obtain ⟨-, hbefore, -, hlater⟩ := of_rows_eq_cons hrows
  exact ⟨by rw [Row.onward, hbefore], by rw [hlater, Row.after]⟩

/-- **The first of several rows takes what it takes, and the others are read from there.** -/
lemma exists_takes {bytes first : List UInt8} {others : List (List UInt8)}
    (h : (rows bytes).map Row.onward = first :: others) (hothers : others ≠ []) :
    ∃ lead content lineEnd next, bytes = lead ++ content ++ lineEnd ++ next ∧
      Takes lead content lineEnd next ∧ (rows next).map Row.onward = others := by
  obtain ⟨hfirst, hlater⟩ := onward_eq_cons h
  have hhead (b : UInt8) (hb : first.head? = some b) : isTerminator b = false := by
    have hnot := List.head?_dropWhile_not isTerminator bytes
    rwa [← hfirst, hb] at hnot
  have hends : EndsInLine first := by
    by_contra hlast
    rw [rest_eq_nil_of_not_endsInLine hlast, rows_of_dropWhile_eq_nil rfl] at hlater
    exact hothers hlater
  obtain ⟨content, b, hb, hcontent, hrow, hlast⟩ := hends.exists_content hhead
  obtain ⟨tail, next, hafter, hend, hnext, hrows⟩ := exists_lineEnd hb (fields first).2
  refine ⟨bytes.takeWhile isTerminator, content, b :: tail, next, ?_, ?_, ?_⟩
  · have hsplit := List.takeWhile_append_dropWhile (p := isTerminator) (l := bytes)
    rw [← hfirst, hcontent, hafter] at hsplit
    simpa using hsplit.symm
  · refine ⟨fun b hb => List.mem_takeWhile_imp hb, hlast, hend, hnext, fun other => ?_⟩
    rw [List.append_assoc]
    exact hrow _
  · rw [← hrows, hlater]

/-! ## The lines before a row -/

lemma LineByLine.eq_nil_of_append {lead rest : List UInt8} (h : LineByLine (lead ++ rest))
    (hlead : ∀ b ∈ lead, isTerminator b = true) : lead = [] := by
  cases lead with
  | nil => rfl
  | cons b lead =>
      generalize hbytes : b :: lead ++ rest = bytes at h
      cases h with
      | nil => cases hbytes
      | @cons line lineEnd rest' hne hline =>
          obtain ⟨c, line, rfl⟩ := List.exists_cons_of_ne_nil hne
          obtain rfl : b = c := (List.cons.inj hbytes).1
          have hb := hline b List.mem_cons_self
          cases hb.symm.trans (hlead b List.mem_cons_self)

/-- Two rows at the same place leave the same bytes, so they are the same. -/
lemma EndsAt.content_eq {content lineEnd next content' lineEnd' next' : List UInt8}
    (h : EndsAt content lineEnd) (h' : EndsAt content' lineEnd') (hend : lineEnd ∈ lineEnds)
    (hend' : lineEnd' ∈ lineEnds)
    (hsame : content ++ lineEnd ++ next = content' ++ lineEnd' ++ next') :
    content = content' ∧ lineEnd ++ next = lineEnd' ++ next' := by
  have hleft := congrArg (fun bytes => (fields bytes).2) hsame
  simp only [h next, h' next'] at hleft
  have hpos : ∀ lineEnd ∈ lineEnds, 0 < lineEnd.length := by decide
  have hlength : content.length = content'.length := by
    have hall := congrArg List.length hsame
    have hpart := congrArg List.length hleft
    have := hpos lineEnd hend
    have := hpos lineEnd' hend'
    simp only [List.length_append, List.length_tail] at hall hpart
    omega
  rw [List.append_assoc, List.append_assoc] at hsame
  exact List.append_inj hsame hlength

/-- What follows a line is the same however the bytes are cut into it and the rest. -/
lemma LineByLine.next_eq {lineEnd next lineEnd' next' : List UInt8} (h : LineByLine next')
    (hend : lineEnd ∈ lineEnds) (hend' : lineEnd' ∈ lineEnds)
    (hnext : lineEnd = [carriageReturn] → next.head? ≠ some lineFeed)
    (hsame : lineEnd ++ next = lineEnd' ++ next') : next = next' := by
  have hfeed (rest : List UInt8) : lineFeed :: rest ≠ next' := by
    rintro rfl
    have hlines : LineByLine ([lineFeed] ++ rest) := h
    cases hlines.eq_nil_of_append (by simp [isTerminator])
  simp only [lineEnds, List.mem_cons, List.not_mem_nil, or_false] at hend hend'
  rcases hend with rfl | rfl | rfl <;> rcases hend' with rfl | rfl | rfl <;>
    simp_all [lineFeed, carriageReturn]

section Takes

variable {lead content lineEnd next : List UInt8} (h : Takes lead content lineEnd next)

include h

/-- A row takes one line end more than those before it and in it. -/
lemma Takes.countLineEnds :
    countLineEnds (lead ++ content ++ lineEnd ++ next)
      = countLineEnds (lead ++ content) + 1 + countLineEnds next := by
  have hone : ∀ lineEnd ∈ lineEnds, Csv.countLineEnds lineEnd = 1 ∧
      (lineEnd.getLast? = some carriageReturn → lineEnd = [carriageReturn]) := by decide
  obtain ⟨hcount, hreturn⟩ := hone lineEnd h.hend
  rw [List.append_assoc, countLineEnds_append,
    countLineEnds_append fun hlast => h.hnext (hreturn hlast), hcount, Nat.add_assoc]
  obtain ⟨c, hlast, hc⟩ := h.hcontent
  intro hlast'
  rw [List.getLast?_append, hlast] at hlast'
  cases hlast'
  cases hc

/-- **Lines go on** after a row exactly if it takes its line alone. -/
lemma Takes.lineByLine_iff :
    LineByLine (lead ++ content ++ lineEnd ++ next) ↔
      (∀ b ∈ lead ++ content, isTerminator b = false) ∧ LineByLine next := by
  have hne : content ≠ [] := by
    obtain ⟨c, hlast, -⟩ := h.hcontent
    rintro rfl
    cases hlast
  constructor
  · intro hlines
    obtain rfl := LineByLine.eq_nil_of_append (by simpa using hlines) h.hlead
    generalize hbytes : [] ++ content ++ lineEnd ++ next = bytes at hlines
    rw [List.nil_append] at hbytes ⊢
    cases hlines with
    | nil => simp [hne] at hbytes
    | @cons line lineEnd' next' _ hline hend' hrow' hnext' =>
        obtain ⟨rfl, hends⟩ := h.hrow.content_eq hrow' h.hend hend' hbytes
        exact ⟨hline, hnext'.next_eq h.hend hend' h.hnext hends ▸ hnext'⟩
  · rintro ⟨hplain, hlater⟩
    rw [List.forall_mem_append] at hplain
    rw [eq_nil_of_terminators h.hlead hplain.1, List.nil_append]
    exact .cons hne hplain.2 h.hend h.hrow hlater

end Takes

/-- **No row starts before the line of its number.**  It starts on that line exactly if the lines
before it hold a row each. -/
theorem exists_preceding {bytes onward : List UInt8} {earlier later : List (List UInt8)}
    (h : (rows bytes).map Row.onward = earlier ++ onward :: later) :
    ∃ front, bytes = front ++ onward ∧ earlier.length ≤ countLineEnds front ∧
      (earlier.length = countLineEnds front ↔ LineByLine front) := by
  induction earlier generalizing bytes with
  | nil =>
      have hlead : ∀ b ∈ bytes.takeWhile isTerminator, isTerminator b = true :=
        fun b hb => List.mem_takeWhile_imp hb
      refine ⟨bytes.takeWhile isTerminator, ?_, Nat.zero_le _, ?_⟩
      · rw [(onward_eq_cons h).1, List.takeWhile_append_dropWhile]
      rw [eq_comm, List.length_nil, countLineEnds_eq_zero_iff]
      constructor
      · intro hplain
        rw [eq_nil_of_terminators hlead hplain]
        exact .nil
      · intro h
        have hlines : LineByLine (bytes.takeWhile isTerminator ++ []) := by simpa using h
        rw [hlines.eq_nil_of_append hlead]
        simp
  | cons first earlier ih =>
      obtain ⟨lead, content, lineEnd, next, rfl, htakes, hothers⟩ := exists_takes h (by simp)
      obtain ⟨front, rfl, hle, hiff⟩ := ih hothers
      have htakes := htakes.of_append
      refine ⟨lead ++ content ++ lineEnd ++ front, by simp, ?_, ?_⟩
      · rw [htakes.countLineEnds, List.length_cons]
        omega
      · rw [htakes.lineByLine_iff, ← hiff, ← countLineEnds_eq_zero_iff, htakes.countLineEnds,
          List.length_cons]
        omega

end TrafficDigest.Csv
