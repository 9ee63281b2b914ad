import TrafficDigest.Proofs.Exclusions

/-!
# Lists of excluded services survive any usual rendering

One list of services has many texts: numbers may stand in quotes or not, with blanks around them,
lines may end in three ways and have further columns, and lines without a service may stand
anywhere.  `Renders` says which texts render a list, from a number (`RendersNumber`) over a line
(`RendersLine`) to the lines of a document (`RendersLines`).  Reading any of them gives the list
back (`readExclusions_rendered`).

The proof goes the same way.  A rendered number is read as a field that is the number once it is
trimmed, a rendered line as a row that lists its service, and a line end leaves the rows after it as
they are (`Reads.line`).
-/

namespace TrafficDigest

open Csv (Field Row RowEnd StandsFor isTerminator needsQuotes quote)
open Text (Denotes isBlank trim)
open Text.Utf8 (bytes bytes_append bytes_cons decode?)

/-! ## Renderings -/

/-- A blank that can stand beside a number without quotes. -/
def Pads (c : Char) : Prop := isBlank c = true ∧ needsQuotes c = false

/-- **The ways to render a number:** its digits with blanks around them, or in quotes with blanks
inside.  Between quotes the blanks may end lines, too. -/
inductive RendersNumber (n : Nat) : List Char → Prop where
  | bare {before numeral after : List Char} (hbefore : ∀ c ∈ before, Pads c)
      (h : Denotes numeral n) (hafter : ∀ c ∈ after, Pads c) :
      RendersNumber n (before ++ numeral ++ after)
  | inQuotes {before numeral after : List Char} (hbefore : ∀ c ∈ before, isBlank c = true)
      (h : Denotes numeral n) (hafter : ∀ c ∈ after, isBlank c = true) :
      RendersNumber n ('"' :: (before ++ numeral ++ after ++ ['"']))

/-- **The ways to render a line:** blank, or with a port and a protocol and any further columns that
need no quotes. -/
inductive RendersLine : Option ServicePort → List Char → Prop where
  | blank {line : List Char} (h : ∀ c ∈ line, Pads c) : RendersLine none line
  | service {s : ServicePort} {port proto : List Char} {further : List (List Char)}
      (hport : RendersNumber s.port.toNat port) (hproto : RendersNumber s.proto.toNat proto)
      (hfurther : ∀ column ∈ further, column.any needsQuotes = false) :
      RendersLine (some s) ([','].intercalate (port :: proto :: further))

/-- The ways to end a line. -/
def lineEnds : List (List Char) := [['\n'], ['\r'], ['\r', '\n']]

/-- **The ways to render the lines of a document.**  The last one need not be ended. -/
inductive RendersLines : List ServicePort → List Char → Prop where
  | nil : RendersLines [] []
  | last {entry : Option ServicePort} {line : List Char} (h : RendersLine entry line) :
      RendersLines entry.toList line
  | cons {entry : Option ServicePort} {line lineEnd text : List Char}
      {services : List ServicePort} (h : RendersLine entry line) (hend : lineEnd ∈ lineEnds)
      (hlater : RendersLines services text) :
      RendersLines (entry.toList ++ services) (line ++ lineEnd ++ text)

/-- The character of the mark that may stand at the start of a document. -/
def markChar : Char := '\ufeff'

/-- **The ways to render a list of services.** -/
def Renders (services : List ServicePort) (text : String) : Prop :=
  ∃ mark body, (mark = [] ∨ mark = [markChar]) ∧ RendersLines services body ∧
    text.toList = mark ++ body

/-! ## Numbers -/

lemma chars_of_denotes {numeral : List Char} {n : Nat} (h : Denotes numeral n) :
    ∀ c ∈ numeral, isBlank c = false ∧ needsQuotes c = false ∧ c ≠ markChar := by
  obtain ⟨sign, digits, rfl, hsign, -, hdigits, -⟩ := h
  intro c hc
  rcases List.mem_append.mp hc with hc | hc
  · rcases hsign with rfl | rfl
    · simp at hc
    · rw [List.mem_singleton.mp hc]
      decide
  · have hdigit := hdigits c hc
    have hnot : c ≠ ',' ∧ c ≠ '"' ∧ c ≠ '\r' ∧ c ≠ '\n' ∧ c ≠ markChar := by
      refine ⟨?_, ?_, ?_, ?_, ?_⟩ <;> rintro rfl <;> exact absurd hdigit (by decide)
    exact ⟨Text.isBlank_of_isDigit hdigit, by simp [needsQuotes, hnot], hnot.2.2.2.2⟩

lemma ne_of_isBlank {c : Char} (h : isBlank c = true) : c ≠ '"' ∧ c ≠ markChar := by
  constructor <;> rintro rfl <;> exact absurd h (by decide)

section Padded

variable {before numeral after : List Char} {n : Nat}

/-- Blanks around a number are trimmed. -/
lemma trim_padded (hbefore : ∀ c ∈ before, isBlank c = true) (h : Denotes numeral n)
    (hafter : ∀ c ∈ after, isBlank c = true) : trim (before ++ numeral ++ after) = numeral := by
  have hkeep {xs ys : List Char} (hxs : ∀ c ∈ xs, isBlank c = false) (hne : xs ≠ []) :
      (xs ++ ys).dropWhile isBlank = xs ++ ys := by
    cases xs with
    | nil => exact absurd rfl hne
    | cons c xs => simp [hxs c List.mem_cons_self]
  have hnumeral : ∀ c ∈ numeral, isBlank c = false := fun c hc => (chars_of_denotes h c hc).1
  have hback : (after.reverse ++ numeral.reverse).dropWhile isBlank = numeral.reverse := by
    rw [List.dropWhile_append_of_pos (by simpa using hafter)]
    simpa using @hkeep numeral.reverse [] (by simpa using hnumeral)
      (by simpa using denotes_ne_nil h)
  rw [trim, Text.trimBy, List.append_assoc, List.dropWhile_append_of_pos hbefore,
    hkeep hnumeral (denotes_ne_nil h), List.reverse_append, hback, List.reverse_reverse]

lemma ne_of_padded (hbefore : ∀ c ∈ before, isBlank c = true) (h : Denotes numeral n)
    (hafter : ∀ c ∈ after, isBlank c = true) :
    ∀ c ∈ before ++ numeral ++ after, c ≠ '"' ∧ c ≠ markChar := by
  simp only [List.forall_mem_append]
  refine ⟨⟨fun c hc => ne_of_isBlank (hbefore c hc), fun c hc => ?_⟩,
    fun c hc => ne_of_isBlank (hafter c hc)⟩
  obtain ⟨-, hplain, hmark⟩ := chars_of_denotes h c hc
  refine ⟨?_, hmark⟩
  rintro rfl
  exact absurd hplain (by decide)

lemma plain_of_padded (hbefore : ∀ c ∈ before, Pads c) (h : Denotes numeral n)
    (hafter : ∀ c ∈ after, Pads c) : (before ++ numeral ++ after).any needsQuotes = false := by
  simp only [List.any_eq_false, List.forall_mem_append, Bool.not_eq_true]
  exact ⟨⟨fun c hc => (hbefore c hc).2, fun c hc => (chars_of_denotes h c hc).2.1⟩,
    fun c hc => (hafter c hc).2⟩

end Padded

/-- **A rendered number is read as a field that is the number once it is trimmed.** -/
lemma RendersNumber.exists_content {n : Nat} {written : List Char} (h : RendersNumber n written) :
    ∃ content, StandsFor (bytes written) (bytes content) ∧ Denotes (trim content) n := by
  cases h with
  | @bare before numeral after hbefore hnumeral hafter =>
      refine ⟨_, Csv.standsFor_plain (plain_of_padded hbefore hnumeral hafter), ?_⟩
      rwa [trim_padded (fun c hc => (hbefore c hc).1) hnumeral fun c hc => (hafter c hc).1]
  | @inQuotes before numeral after hbefore hnumeral hafter =>
      have hquote : quote ∉ bytes (before ++ numeral ++ after) := by
        rw [Csv.mem_bytes_iff (by decide)]
        rintro ⟨c, hc, heq⟩
        exact (ne_of_padded hbefore hnumeral hafter c hc).1 (Char.toNat_inj.mp heq)
      have hstands := Csv.standsFor_quoted (bytes (before ++ numeral ++ after))
      rw [Csv.flatMap_doubled hquote] at hstands
      refine ⟨before ++ numeral ++ after, ?_, ?_⟩
      · rw [bytes_cons, bytes_append _ ['"']]
        exact hstands
      · rwa [trim_padded hbefore hnumeral hafter]

/-- A rendered number starts with no line end and no mark. -/
lemma RendersNumber.exists_head {n : Nat} {written : List Char} (h : RendersNumber n written) :
    ∃ c rest, written = c :: rest ∧ (c ≠ '\n' ∧ c ≠ '\r') ∧ c ≠ markChar := by
  cases h with
  | @bare before numeral after hbefore hnumeral hafter =>
      have hne : before ++ numeral ++ after ≠ [] := by simp [denotes_ne_nil hnumeral]
      obtain ⟨c, rest, hwritten⟩ := List.exists_cons_of_ne_nil hne
      have hmem : c ∈ before ++ numeral ++ after := hwritten ▸ List.mem_cons_self
      have hplain := List.any_eq_false.mp (plain_of_padded hbefore hnumeral hafter) c hmem
      have hmark := ne_of_padded (fun c hc => (hbefore c hc).1) hnumeral
        (fun c hc => (hafter c hc).1) c hmem
      refine ⟨c, rest, hwritten, ?_, hmark.2⟩
      constructor <;> rintro rfl <;> exact hplain rfl
  | inQuotes => exact ⟨'"', _, rfl, by decide, by decide⟩

/-! ## Lines -/

lemma trim_of_blank {line : List Char} (h : ∀ c ∈ line, Pads c) : trim line = [] := by
  have hdrop : line.dropWhile isBlank = [] :=
    List.dropWhile_eq_nil_iff.mpr fun c hc => (h c hc).1
  rw [trim, Text.trimBy, hdrop]
  rfl

/-- A rendered line is empty, or it starts with no line end. -/
lemma RendersLine.empty_or_head {entry : Option ServicePort} {line : List Char}
    (h : RendersLine entry line) :
    (line = [] ∧ entry = none) ∨
      ∃ c rest, line = c :: rest ∧ (c ≠ '\n' ∧ c ≠ '\r') ∧ c ≠ markChar := by
  cases h with
  | blank hblank =>
      cases line with
      | nil => exact Or.inl ⟨rfl, rfl⟩
      | cons c rest =>
          obtain ⟨hc, hplain⟩ := hblank c List.mem_cons_self
          refine Or.inr ⟨c, rest, rfl, ?_, (ne_of_isBlank hc).2⟩
          constructor <;> rintro rfl <;> exact absurd hplain (by decide)
  | service hport _ _ =>
      obtain ⟨c, rest, rfl, hc⟩ := hport.exists_head
      exact Or.inr ⟨c, _, by rw [List.intercalate_cons_cons]; rfl, hc⟩

/-- **The columns of a rendered line list its service.** -/
lemma RendersLine.exists_columns {entry : Option ServicePort} {line : List Char}
    (h : RendersLine entry line) :
    ∃ columns texts : List (List Char), line = [','].intercalate columns ∧ columns ≠ [] ∧
      List.Forall₂ StandsFor (columns.map bytes) (texts.map bytes) ∧
      Lists (texts.map trim) entry := by
  cases h with
  | blank hblank =>
      refine ⟨[line], [line], by simp, by simp, ?_, .blank ?_⟩
      · have hplain : line.any needsQuotes = false := by
          simpa using fun c hc => (hblank c hc).2
        exact .cons (Csv.standsFor_plain hplain) .nil
      · simp [trim_of_blank hblank]
  | @service s port proto further hport hproto hfurther =>
      obtain ⟨portText, hreadsPort, hport⟩ := hport.exists_content
      obtain ⟨protoText, hreadsProto, hproto⟩ := hproto.exists_content
      refine ⟨port :: proto :: further, portText :: protoText :: further, rfl, by simp, ?_, ?_⟩
      · refine .cons hreadsPort (.cons hreadsProto ?_)
        rw [List.forall₂_map_left_iff, List.forall₂_map_right_iff, List.forall₂_same]
        exact fun column hcolumn => Csv.standsFor_plain (hfurther column hcolumn)
      · have hlists := Lists.service (further.map trim) hport (Nat.le_of_lt_succ s.port.toNat_lt)
          hproto (Nat.le_of_lt_succ s.proto.toNat_lt)
        simpa using hlists

/-! ## Lines among lines -/

/-- The rows of these bytes list the services. -/
def Reads (document : List UInt8) (services : List ServicePort) : Prop :=
  ∃ entries, List.Forall₂ Row.Lists (Csv.rows document) entries ∧ entries.reduceOption = services

lemma reads_nil : Reads [] [] := ⟨[], by rw [Csv.rows_of_dropWhile_eq_nil rfl]; exact .nil, rfl⟩

/-- A line end before the rows does not count. -/
lemma Reads.lineEnd {document : List UInt8} {services : List ServicePort}
    (h : Reads document services) {b : UInt8} (hb : isTerminator b = true) :
    Reads (b :: document) services := by
  obtain ⟨entries, hentries, hservices⟩ := h
  refine ⟨entries, ?_, hservices⟩
  rcases Csv.rows_cons_terminator hb document with ⟨hnil, hnil'⟩ | ⟨row, later, hrows, hrows'⟩
  · rwa [hnil', ← hnil]
  · rw [hrows] at hentries
    rw [hrows']
    cases hentries with
    | cons hfirst hlater => exact .cons hfirst hlater

/-- **A rendered line before the rows** adds its service. -/
lemma Reads.line {entry : Option ServicePort} {line : List Char} (hline : RendersLine entry line)
    {rest : List UInt8} (hrest : RowEnd rest) {services : List ServicePort}
    (h : Reads rest.tail services) : Reads (bytes line ++ rest) (entry.toList ++ services) := by
  rcases hline.empty_or_head with ⟨rfl, rfl⟩ | ⟨c, cs, hcons, hc, -⟩
  · -- an empty line leaves its line end, which does not count
    cases rest with
    | nil => exact h
    | cons b rest => exact h.lineEnd (hrest b rfl)
  · obtain ⟨columns, texts, hcolumns, hne, hreads, hlists⟩ := hline.exists_columns
    obtain ⟨entries, hentries, rfl⟩ := h
    have hfields := Csv.fields_joined hreads (by simpa using hne) hrest
    rw [← Csv.bytes_joined, ← hcolumns] at hfields
    have hrows := Csv.rows_of_startsRow (Csv.startsRow_bytes hc cs rest)
    rw [← hcons, hfields] at hrows
    refine ⟨entry :: entries, ?_, ?_⟩
    · rw [hrows]
      exact .cons ⟨_, ⟨texts, rfl, rfl⟩, hlists⟩ hentries
    · cases entry <;> rfl

theorem RendersLines.reads {services : List ServicePort} {text : List Char}
    (h : RendersLines services text) : Reads (bytes text) services := by
  induction h with
  | nil => exact reads_nil
  | @last entry line hline =>
      have hreads : Reads (bytes line ++ []) (entry.toList ++ []) :=
        Reads.line hline (by simp [RowEnd]) reads_nil
      simpa using hreads
  | @cons entry line lineEnd text services hline hend _ ih =>
      rw [bytes_append, bytes_append, List.append_assoc]
      simp only [lineEnds, List.mem_cons, List.not_mem_nil, or_false] at hend
      rcases hend with rfl | rfl | rfl
      · exact Reads.line hline (by rintro b ⟨⟩; rfl) ih
      · exact Reads.line hline (by rintro b ⟨⟩; rfl) ih
      · -- the row ends at the carriage return, so the line feed comes before the next one
        exact Reads.line hline (by rintro b ⟨⟩; rfl) (ih.lineEnd (b := Csv.lineFeed) rfl)

/-! ## Documents -/

lemma RendersLines.head_ne {services : List ServicePort} {text : List Char}
    (h : RendersLines services text) : text.head? ≠ some markChar := by
  have hhead {entry : Option ServicePort} {line further : List Char}
      (hline : RendersLine entry line) (hfurther : further.head? ≠ some markChar) :
      (line ++ further).head? ≠ some markChar := by
    rcases hline.empty_or_head with ⟨rfl, -⟩ | ⟨c, rest, rfl, -, hc⟩
    · exact hfurther
    · simpa using hc
  cases h with
  | nil => simp
  | last hline =>
      rw [← List.append_nil text]
      exact hhead hline (by simp)
  | @cons entry line lineEnd text services hline hend _ =>
      rw [List.append_assoc]
      refine hhead hline ?_
      simp only [lineEnds, List.mem_cons, List.not_mem_nil, or_false] at hend
      rcases hend with rfl | rfl | rfl <;> simp [markChar]

lemma bytes_markChar : String.utf8EncodeChar markChar = Csv.byteOrderMark := by decide

/-- The mark is the encoding of one character, so a document has it only by that character. -/
lemma withoutMark_bytes {text : List Char} (h : text.head? ≠ some markChar) :
    Csv.withoutMark (bytes text) = bytes text := by
  rw [Csv.withoutMark, if_neg]
  intro hmark
  obtain ⟨rest, hrest⟩ := List.isPrefixOf_iff_prefix.mp hmark
  cases text with
  | nil => simp [Csv.byteOrderMark] at hrest
  | cons c text =>
      have hmarked := Text.Utf8.next?_utf8EncodeChar markChar rest
      rw [bytes_markChar, hrest, bytes_cons, Text.Utf8.next?_utf8EncodeChar] at hmarked
      cases hmarked
      exact h rfl

lemma withoutMark_marked (text : List Char) :
    Csv.withoutMark (bytes (markChar :: text)) = bytes text := by
  rw [bytes_cons, bytes_markChar, Csv.withoutMark, if_pos]
  · rfl
  · exact List.isPrefixOf_iff_prefix.mpr (List.prefix_append _ _)

lemma denotes_toString (n : Nat) : Denotes (toString n).toList n := by
  obtain ⟨hne, hdigits, hvalue⟩ := Text.readDigits_eq_some_iff.mp (Text.readDigits_toString n)
  exact ⟨[], _, rfl, Or.inl rfl, hne, hdigits, hvalue⟩

lemma rendersNumber_toString (n : Nat) : RendersNumber n (toString n).toList := by
  have hbare : RendersNumber n ([] ++ (toString n).toList ++ []) :=
    .bare (by simp) (denotes_toString n) (by simp)
  simpa using hbare

/-- A list of services as it is written without any freedom: two decimal numbers with a comma
between them on each line. -/
def plainLines (services : List ServicePort) : String :=
  String.ofList (services.flatMap fun s =>
    (toString s.port.toNat).toList ++ ',' :: (toString s.proto.toNat).toList ++ ['\n'])

lemma renders_plainLines (services : List ServicePort) :
    Renders services (plainLines services) := by
  refine ⟨[], _, Or.inl rfl, ?_, String.toList_ofList⟩
  induction services with
  | nil => exact .nil
  | cons s services ih =>
      have hline : RendersLine (some s)
          ([','].intercalate [(toString s.port.toNat).toList, (toString s.proto.toNat).toList]) :=
        .service (rendersNumber_toString _) (rendersNumber_toString _) (by simp)
      have hfeed : ['\n'] ∈ lineEnds := by simp [lineEnds]
      simpa using RendersLines.cons hline hfeed ih

/-- **Any rendering of a list of services is read as the list.**  The plain one with two decimal
numbers on each line is one of them.  In all others, too, nothing is lost, added or moved: not by
quotes, blanks, further columns, blank lines, a mark at the start, or any mix of line ends. -/
theorem readExclusions_rendered (services : List ServicePort) :
    Renders services (plainLines services) ∧
    ∀ text, Renders services text → readExclusions (Text.Utf8.encode text) = .ok services := by
  refine ⟨renders_plainLines services, ?_⟩
  rintro text ⟨mark, body, hmark, hbody, htext⟩
  have hrows : Csv.read (Text.Utf8.encode text) = Csv.rows (bytes body) := by
    rw [Text.Utf8.encode_eq, htext, Csv.read]
    rcases hmark with rfl | rfl
    · rw [List.nil_append, withoutMark_bytes hbody.head_ne]
    · rw [List.singleton_append, withoutMark_marked]
  obtain ⟨entries, hentries, hservices⟩ := hbody.reads
  rw [readExclusions, hrows]
  exact servicesOfRows_eq_ok_iff.mpr ⟨entries, hentries, hservices.symm⟩

/-- A text with a mark, quotes, blanks, a further column, a blank line and the three line ends. -/
theorem readExclusions_mixedLines :
    Renders [⟨443, 6⟩, ⟨53, 17⟩] "\ufeff 443\t,\"6 \",https\r\n \t\n\"\t53\",17\r" ∧
    readExclusions (Text.Utf8.encode "\ufeff 443\t,\"6 \",https\r\n \t\n\"\t53\",17\r")
      = .ok [⟨443, 6⟩, ⟨53, 17⟩] := by
  have hspace : ∀ c ∈ [' '], Pads c := by simp [Pads, isBlank, needsQuotes]
  have htab : ∀ c ∈ ['\t'], Pads c := by simp [Pads, isBlank, needsQuotes]
  have hport : RendersNumber 443 " 443\t".toList := .bare hspace (denotes_toString 443) htab
  have hproto : RendersNumber 6 ('"' :: ([] ++ "6".toList ++ [' '] ++ ['"'])) :=
    .inQuotes (by simp) (denotes_toString 6) fun c hc => (hspace c hc).1
  have hport' : RendersNumber 53 ('"' :: (['\t'] ++ "53".toList ++ [] ++ ['"'])) :=
    .inQuotes (fun c hc => (htab c hc).1) (denotes_toString 53) (by simp)
  have hfirst : RendersLine (some ⟨443, 6⟩) " 443\t,\"6 \",https".toList := by
    have hfurther : ∀ column ∈ ["https".toList], column.any needsQuotes = false := by decide
    exact RendersLine.service (s := ⟨443, 6⟩) hport hproto hfurther
  have hsecond : RendersLine none " \t".toList :=
    .blank (by simp [Pads, isBlank, needsQuotes])
  have hthird : RendersLine (some ⟨53, 17⟩) "\"\t53\",17".toList := by
    have hfurther : ∀ column ∈ ([] : List (List Char)), column.any needsQuotes = false := by simp
    exact RendersLine.service (s := ⟨53, 17⟩) hport' (rendersNumber_toString 17) hfurther
  have hfeed : ['\n'] ∈ lineEnds := by simp [lineEnds]
  have hreturn : ['\r'] ∈ lineEnds := by simp [lineEnds]
  have hboth : ['\r', '\n'] ∈ lineEnds := by simp [lineEnds]
  have hlines :=
    RendersLines.cons hfirst hboth (.cons hsecond hfeed (.cons hthird hreturn .nil))
  have hrenders : Renders [⟨443, 6⟩, ⟨53, 17⟩]
      "\ufeff 443\t,\"6 \",https\r\n \t\n\"\t53\",17\r" :=
    ⟨[markChar], _, .inr rfl, hlines, rfl⟩
  exact ⟨hrenders, (readExclusions_rendered _).2 _ hrenders⟩

end TrafficDigest
