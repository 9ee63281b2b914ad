import Mathlib.Data.List.ReduceOption
import TrafficDigest.Exclusions
import TrafficDigest.Proofs.Csv.Prefix
import TrafficDigest.Proofs.Run
import TrafficDigest.Proofs.Text.Decimal

/-!
# Which lists of excluded services are accepted

A row of a list is blank, or it names a service, or it is at fault.  `Csv.Row.Lists` says what the
first two are and `Csv.Row.Offends` what the third is, in terms of the texts that the row holds and
not of how they are read.  A document is accepted exactly if no row is at fault, and else the first
one that is decides the error (`exclusions_exact`), whatever comes after it.
-/

namespace TrafficDigest

open Text (Denotes)
open Text.Utf8 (bytes decode?)

/-! ## Rows as texts -/

/-- **The columns of a row:** its fields as texts, without the blanks around them. -/
def Csv.Row.HasColumns (row : Csv.Row) (columns : List (List Char)) : Prop :=
  ∃ texts : List (List Char), row.fields = texts.map bytes ∧ columns = texts.map Text.trim

/-- A field that is no text, after others that are. -/
def Csv.Row.Undecodable (row : Csv.Row) (index : Nat) (field : Csv.Field) : Prop :=
  (∀ cs, field ≠ bytes cs) ∧ ∃ texts : List (List Char), ∃ further,
    row.fields = texts.map bytes ++ field :: further ∧ index = texts.length

/-- **What columns list:** nothing if all of them are empty, or else the service with the port in
the first one and the protocol in the second. -/
inductive Lists : List (List Char) → Option ServicePort → Prop where
  | blank {columns : List (List Char)} (h : ∀ column ∈ columns, column = []) : Lists columns none
  | service {port proto : List Char} (further : List (List Char)) {p q : Nat}
      (hport : Denotes port p) (hp : p ≤ 65535) (hproto : Denotes proto q) (hq : q ≤ 255) :
      Lists (port :: proto :: further) (some ⟨p.toUInt16, q.toUInt8⟩)

/-- **What is wrong with columns** that are not all empty. -/
inductive Faulty : List (List Char) → ExclusionCause → Prop where
  | tooFewColumns {columns : List (List Char)} (h : ∃ column ∈ columns, column ≠ [])
      (hfew : columns.length < 2) : Faulty columns (.tooFewColumns columns.length)
  | badPort {port proto : List Char} {further : List (List Char)}
      (h : ∃ column ∈ port :: proto :: further, column ≠ [])
      (hport : ∀ p ≤ 65535, ¬Denotes port p) :
      Faulty (port :: proto :: further) (.badPort (.ofList port))
  | badProtocol {port proto : List Char} {further : List (List Char)} {p : Nat}
      (hport : Denotes port p) (hp : p ≤ 65535) (hproto : ∀ q ≤ 255, ¬Denotes proto q) :
      Faulty (port :: proto :: further) (.badProtocol (.ofList proto))

/-- **The row lists this service,** or none if it is blank. -/
def Csv.Row.Lists (row : Csv.Row) (entry : Option ServicePort) : Prop :=
  ∃ columns, row.HasColumns columns ∧ TrafficDigest.Lists columns entry

/-- **The row is at fault,** for a field that is no text or for its columns. -/
inductive Csv.Row.Offends (document : List UInt8) (number : Nat) (row : Csv.Row) :
    ExclusionCause → Prop where
  | undecodable {index : Nat} {field : Csv.Field} (h : row.Undecodable index field) :
      Offends document number row (.undecodable ⟨number,
        1 + (Csv.bytesBefore document number row).count Csv.lineFeed, index,
        (Csv.bytesBefore document number row).length,
        Text.Utf8.validLength (Text.trimBy Text.isBlankByte field)⟩)
  | columns {columns : List (List Char)} {cause : ExclusionCause} (h : row.HasColumns columns)
      (hfaulty : Faulty columns cause) : Offends document number row cause

/-! ## One row -/

lemma findIdx?_decode?_bytes (texts : List (List Char)) :
    ((texts.map bytes).map decode?).findIdx? Option.isNone = none := by
  simp [List.findIdx?_eq_none_iff]

lemma decodeFields_bytes (texts : List (List Char)) :
    decodeFields (texts.map bytes) = .ok (texts.map Text.trim) := by
  rw [decodeFields, findIdx?_decode?_bytes]
  simp [List.filterMap_map]

lemma decodeFields_undecodable {field : Csv.Field} (h : ∀ cs, field ≠ bytes cs)
    (texts : List (List Char)) (further : List Csv.Field) :
    decodeFields (texts.map bytes ++ field :: further)
      = .error (texts.length, Text.Utf8.validLength (Text.trimBy Text.isBlankByte field)) := by
  have hnone : decode? field = none :=
    Option.eq_none_iff_forall_ne_some.mpr fun cs hcs => h cs (Text.Utf8.decode?_eq_some_iff.mp hcs)
  have hindex : ((texts.map bytes ++ field :: further).map decode?).findIdx? Option.isNone
      = some texts.length := by
    rw [List.map_append, List.findIdx?_append, findIdx?_decode?_bytes, List.map_cons, hnone,
      List.findIdx?_cons]
    simp
  rw [decodeFields, hindex]
  simp

/-- The fields of a row are texts, or one of them is the first that is none. -/
lemma exists_columns_or_undecodable (row : Csv.Row) :
    (∃ columns, row.HasColumns columns) ∨ ∃ index field, row.Undecodable index field := by
  obtain ⟨fields, before⟩ := row
  suffices h : (∃ texts : List (List Char), fields = texts.map bytes) ∨
      ∃ (texts : List (List Char)) (field : Csv.Field) (further : List Csv.Field),
        (∀ cs, field ≠ bytes cs) ∧ fields = texts.map bytes ++ field :: further by
    rcases h with ⟨texts, htexts⟩ | ⟨texts, field, further, hfield, hfields⟩
    · exact Or.inl ⟨_, texts, htexts, rfl⟩
    · exact Or.inr ⟨_, field, hfield, texts, further, hfields, rfl⟩
  induction fields with
  | nil => exact Or.inl ⟨[], rfl⟩
  | cons field fields ih =>
      by_cases hfield : ∃ cs, field = bytes cs
      · obtain ⟨cs, rfl⟩ := hfield
        rcases ih with ⟨texts, rfl⟩ | ⟨texts, bad, further, hbad, rfl⟩
        · exact Or.inl ⟨cs :: texts, rfl⟩
        · exact Or.inr ⟨cs :: texts, bad, further, hbad, rfl⟩
      · exact Or.inr ⟨[], field, fields, not_exists.mp hfield, rfl⟩

lemma Csv.Row.HasColumns.decodeFields {row : Csv.Row} {columns : List (List Char)}
    (h : row.HasColumns columns) : decodeFields row.fields = .ok columns := by
  obtain ⟨texts, hfields, rfl⟩ := h
  rw [hfields, decodeFields_bytes]

lemma Csv.Row.Undecodable.decodeFields {row : Csv.Row} {index : Nat} {field : Csv.Field}
    (h : row.Undecodable index field) :
    decodeFields row.fields
      = .error (index, Text.Utf8.validLength (Text.trimBy Text.isBlankByte field)) := by
  obtain ⟨hfield, texts, further, hfields, rfl⟩ := h
  rw [hfields, decodeFields_undecodable hfield]

/-! ## The columns of a row -/

lemma denotes_ne_nil {cs : List Char} {n : Nat} (h : Denotes cs n) : cs ≠ [] := by
  obtain ⟨sign, digits, rfl, -, hne, -⟩ := h
  exact List.append_ne_nil_of_right_ne_nil sign hne

lemma readUnsigned_eq_none_iff {max : Nat} {cs : List Char} :
    Text.readUnsigned max cs = none ↔ ∀ n ≤ max, ¬Denotes cs n := by
  simp only [Option.eq_none_iff_forall_ne_some, ne_eq, Text.readUnsigned_eq_some_iff, not_and']

lemma serviceOfFields_of_blank {columns : List (List Char)} (h : ∀ column ∈ columns, column = []) :
    serviceOfFields columns = .ok none := by
  rw [serviceOfFields, if_pos (by simpa using h)]

lemma serviceOfFields_of_not_blank {columns : List (List Char)}
    (h : ∃ column ∈ columns, column ≠ []) :
    serviceOfFields columns = (serviceOfColumns columns).map some := by
  rw [serviceOfFields, if_neg (by simpa using h)]

lemma Lists.serviceOfFields {columns : List (List Char)} {entry : Option ServicePort}
    (h : Lists columns entry) : serviceOfFields columns = .ok entry := by
  cases h with
  | blank h => exact serviceOfFields_of_blank h
  | @service port proto further p q hport hp hproto hq =>
      rw [serviceOfFields_of_not_blank ⟨port, List.mem_cons_self, denotes_ne_nil hport⟩,
        serviceOfColumns, Text.readUnsigned_eq_some_iff.mpr ⟨hport, hp⟩,
        Text.readUnsigned_eq_some_iff.mpr ⟨hproto, hq⟩]
      rfl

lemma Faulty.serviceOfFields {columns : List (List Char)} {cause : ExclusionCause}
    (h : Faulty columns cause) : serviceOfFields columns = .error cause := by
  cases h with
  | tooFewColumns h hfew =>
      rw [serviceOfFields_of_not_blank h]
      match columns, hfew with
      | [], _ => rfl
      | [_], _ => rfl
  | badPort h hport =>
      rw [serviceOfFields_of_not_blank h, serviceOfColumns, readUnsigned_eq_none_iff.mpr hport]
      rfl
  | badProtocol hport hp hproto =>
      rw [serviceOfFields_of_not_blank ⟨_, List.mem_cons_self, denotes_ne_nil hport⟩,
        serviceOfColumns, Text.readUnsigned_eq_some_iff.mpr ⟨hport, hp⟩,
        readUnsigned_eq_none_iff.mpr hproto]
      rfl

/-- Columns list something, or there is something wrong with them. -/
lemma exists_lists_or_faulty (columns : List (List Char)) :
    (∃ entry, Lists columns entry) ∨ ∃ cause, Faulty columns cause := by
  by_cases hblank : ∀ column ∈ columns, column = []
  · exact Or.inl ⟨none, .blank hblank⟩
  push Not at hblank
  match columns with
  | [] => exact Or.inr ⟨_, .tooFewColumns hblank (by decide)⟩
  | [_] => exact Or.inr ⟨_, .tooFewColumns hblank (by simp)⟩
  | port :: proto :: further =>
      by_cases hport : ∃ p ≤ 65535, Denotes port p
      · obtain ⟨p, hp, hport⟩ := hport
        by_cases hproto : ∃ q ≤ 255, Denotes proto q
        · obtain ⟨q, hq, hproto⟩ := hproto
          exact Or.inl ⟨_, .service further hport hp hproto hq⟩
        · push Not at hproto
          exact Or.inr ⟨_, .badProtocol hport hp hproto⟩
      · push Not at hport
        exact Or.inr ⟨_, .badPort hblank hport⟩

/-! ## The service of a row -/

variable {document : List UInt8} {number : Nat} {row : Csv.Row}

lemma Csv.Row.Lists.serviceOfRow {entry : Option ServicePort} (h : row.Lists entry) :
    serviceOfRow document number row = .ok entry := by
  obtain ⟨columns, hcolumns, hlists⟩ := h
  rw [TrafficDigest.serviceOfRow, hcolumns.decodeFields]
  exact hlists.serviceOfFields

lemma Csv.Row.Offends.serviceOfRow {cause : ExclusionCause}
    (h : row.Offends document number cause) :
    serviceOfRow document number row = .error cause := by
  cases h with
  | undecodable h => rw [TrafficDigest.serviceOfRow, h.decodeFields]
  | columns hcolumns hfaulty =>
      rw [TrafficDigest.serviceOfRow, hcolumns.decodeFields]
      exact hfaulty.serviceOfFields

/-- A row lists something or is at fault. -/
lemma exists_lists_or_offends (document : List UInt8) (number : Nat) (row : Csv.Row) :
    (∃ entry, row.Lists entry) ∨ ∃ cause, row.Offends document number cause := by
  rcases exists_columns_or_undecodable row with ⟨columns, hcolumns⟩ | ⟨index, field, h⟩
  · rcases exists_lists_or_faulty columns with ⟨entry, hlists⟩ | ⟨cause, hfaulty⟩
    · exact Or.inl ⟨entry, columns, hcolumns, hlists⟩
    · exact Or.inr ⟨cause, .columns hcolumns hfaulty⟩
  · exact Or.inr ⟨_, .undecodable h⟩

/-- **What a row lists is what is read.** -/
theorem serviceOfRow_eq_ok_iff {entry : Option ServicePort} :
    serviceOfRow document number row = .ok entry ↔ row.Lists entry := by
  refine ⟨fun h => ?_, Csv.Row.Lists.serviceOfRow⟩
  rcases exists_lists_or_offends document number row with ⟨entry', hlists⟩ | ⟨cause, hoffends⟩
  · cases h.symm.trans hlists.serviceOfRow
    exact hlists
  · cases h.symm.trans hoffends.serviceOfRow

/-- **What is wrong with a row is what is reported.** -/
theorem serviceOfRow_eq_error_iff {cause : ExclusionCause} :
    serviceOfRow document number row = .error cause ↔ row.Offends document number cause := by
  refine ⟨fun h => ?_, Csv.Row.Offends.serviceOfRow⟩
  rcases exists_lists_or_offends document number row with ⟨entry, hlists⟩ | ⟨cause', hoffends⟩
  · cases h.symm.trans hlists.serviceOfRow
  · cases h.symm.trans hoffends.serviceOfRow
    exact hoffends

lemma Csv.Row.Lists.of_samePlace {document' : List UInt8} {row' : Csv.Row}
    {entry : Option ServicePort} (h : row.Lists entry)
    (hplace : Csv.SamePlace document document' row row') : row'.Lists entry := by
  obtain ⟨columns, ⟨texts, hfields, hcolumns⟩, hlists⟩ := h
  exact ⟨columns, ⟨texts, hplace.1.trans hfields, hcolumns⟩, hlists⟩

/-- A row in the same place of another document is at fault in the same way. -/
lemma serviceOfRow_eq_of_samePlace {document' : List UInt8} {row' : Csv.Row}
    (h : Csv.SamePlace document document' row row') :
    serviceOfRow document' number row' = serviceOfRow document number row := by
  rw [serviceOfRow, serviceOfRow, h.1, h.bytesBefore_eq]

/-! ## The services of all rows -/

/-- **All rows are read** if each lists something. -/
theorem servicesOfRows_eq_ok_iff {rows : List Csv.Row} {services : List ServicePort} :
    servicesOfRows document number rows = .ok services ↔
      ∃ entries, List.Forall₂ Csv.Row.Lists rows entries ∧ services = entries.reduceOption := by
  induction rows generalizing number services with
  | nil =>
      simp [servicesOfRows, eq_comm]
  | cons row rows ih =>
      rw [servicesOfRows]
      cases hrow : serviceOfRow document number row with
      | error cause =>
          refine iff_of_false (by simp) ?_
          rintro ⟨_, hentries, -⟩
          cases hentries with
          | cons hentry _ => cases hrow.symm.trans hentry.serviceOfRow
      | ok entry =>
          simp only [map_eq_ok, ih]
          constructor
          · rintro ⟨_, ⟨entries, hentries, rfl⟩, rfl⟩
            refine ⟨entry :: entries, .cons (serviceOfRow_eq_ok_iff.mp hrow) hentries, ?_⟩
            cases entry <;> rfl
          · rintro ⟨_, hentries, rfl⟩
            cases hentries with
            | @cons _ entry' _ entries hentry hothers =>
                cases hrow.symm.trans hentry.serviceOfRow
                refine ⟨_, ⟨entries, hothers, rfl⟩, ?_⟩
                cases entry <;> rfl

/-- **The first row at fault ends the reading.** -/
theorem servicesOfRows_eq_error_iff {rows : List Csv.Row} {fault : ExclusionFault} :
    servicesOfRows document number rows = .error fault ↔
      ∃ earlier row later, rows = earlier ++ row :: later ∧
        (∀ listed ∈ earlier, ∃ entry, listed.Lists entry) ∧
        row.Offends document (number + earlier.length) fault.cause ∧
        fault.row = number + earlier.length + 1 := by
  induction rows generalizing number with
  | nil => simp [servicesOfRows]
  | cons row rows ih =>
      rw [servicesOfRows]
      cases hrow : serviceOfRow document number row with
      | error cause =>
          constructor
          · intro h
            cases h
            exact ⟨[], row, rows, rfl, by simp, serviceOfRow_eq_error_iff.mp hrow, rfl⟩
          · rintro ⟨earlier, row', later, hrows, hearlier, hoffends, hnumber⟩
            cases earlier with
            | nil =>
                cases hrows
                cases hrow.symm.trans hoffends.serviceOfRow
                exact congrArg Except.error (congrArg (ExclusionFault.mk · _) hnumber.symm)
            | cons first earlier =>
                cases hrows
                obtain ⟨entry, hentry⟩ := hearlier row List.mem_cons_self
                cases hrow.symm.trans hentry.serviceOfRow
      | ok entry =>
          have hlists := serviceOfRow_eq_ok_iff.mp hrow
          have hlength (earlier : List Csv.Row) :
              number + (row :: earlier).length = number + 1 + earlier.length := by
            rw [List.length_cons]
            omega
          simp only [map_eq_error, ih]
          constructor
          · rintro ⟨earlier, row', later, rfl, hearlier, hend⟩
            refine ⟨row :: earlier, row', later, rfl,
              List.forall_mem_cons.mpr ⟨⟨entry, hlists⟩, hearlier⟩, ?_⟩
            rwa [hlength]
          · rintro ⟨earlier, row', later, hrows, hearlier, hend⟩
            cases earlier with
            | nil =>
                cases hrows
                cases hrow.symm.trans hend.1.serviceOfRow
            | cons first earlier =>
                cases hrows
                rw [hlength] at hend
                exact ⟨earlier, row', later, rfl, (List.forall_mem_cons.mp hearlier).2, hend⟩

/-! ## Documents -/

lemma exists_of_mem_of_forall₂ {α β : Type} {R : α → β → Prop} {as : List α} {bs : List β}
    (h : List.Forall₂ R as bs) : ∀ a ∈ as, ∃ b ∈ bs, R a b := by
  induction h with
  | nil => simp
  | cons hab _ ih =>
      refine List.forall_mem_cons.mpr ⟨⟨_, List.mem_cons_self, hab⟩, fun a ha => ?_⟩
      obtain ⟨b, hb, hR⟩ := ih a ha
      exact ⟨b, List.mem_cons_of_mem _ hb, hR⟩

lemma readExclusions_eq_error_iff {fault : ExclusionFault} :
    readExclusions document = .error fault ↔
      ∃ earlier row later, Csv.read document = earlier ++ row :: later ∧
        (∀ listed ∈ earlier, ∃ entry, listed.Lists entry) ∧
        row.Offends document earlier.length fault.cause ∧ fault.row = earlier.length + 1 := by
  simp only [readExclusions, servicesOfRows_eq_error_iff, Nat.zero_add]

lemma readExclusions_isOk_iff :
    (∃ services, readExclusions document = .ok services) ↔
      ∀ row ∈ Csv.read document, ∃ entry, row.Lists entry := by
  constructor
  · rintro ⟨services, h⟩ row hrow
    obtain ⟨entries, hentries, -⟩ := servicesOfRows_eq_ok_iff.mp h
    obtain ⟨entry, -, hlists⟩ := exists_of_mem_of_forall₂ hentries row hrow
    exact ⟨entry, hlists⟩
  · intro h
    cases hread : readExclusions document with
    | ok services => exact ⟨services, rfl⟩
    | error fault =>
        obtain ⟨earlier, row, later, hrows, -, hoffends, -⟩ := readExclusions_eq_error_iff.mp hread
        obtain ⟨entry, hentry⟩ := h row (hrows ▸ List.mem_append_right _ List.mem_cons_self)
        cases hoffends.serviceOfRow.symm.trans hentry.serviceOfRow

/-- **Whatever comes after the row at fault,** the error is the same. -/
theorem readExclusions_eq_error_append {fault : ExclusionFault} {earlier later : List Csv.Row}
    (h : readExclusions document = .error fault)
    (hrows : Csv.read document = earlier ++ row :: later)
    (hnumber : fault.row = earlier.length + 1) (hline : Csv.EndsInLine row.onward) :
    ∃ front b, Csv.isTerminator b = true ∧ document = front ++ b :: row.after ∧
      ∀ other, readExclusions (front ++ b :: other) = .error fault := by
  obtain ⟨earlier₀, row₀, later₀, hrows₀, hlisted, hoffends, hnumber₀⟩ :=
    readExclusions_eq_error_iff.mp h
  obtain ⟨rfl, hrest⟩ := List.append_inj (hrows₀.symm.trans hrows) (by omega)
  cases hrest
  obtain ⟨front, b, hb, hdocument, hother⟩ := Csv.read_eq_append hrows hline
  refine ⟨front, b, hb, hdocument, fun other => ?_⟩
  obtain ⟨earlier', row', hrows', hearlier, hrow⟩ := hother other
  refine readExclusions_eq_error_iff.mpr ⟨earlier', row', _, hrows', ?_, ?_, ?_⟩
  · intro listed' hmem
    have hback : List.Forall₂ (flip (Csv.SamePlace document (front ++ b :: other))) earlier'
      earlier₀ := hearlier.flip
    obtain ⟨listed, hin, hplace⟩ := exists_of_mem_of_forall₂ hback listed' hmem
    obtain ⟨entry, hentry⟩ := hlisted listed hin
    exact ⟨entry, hentry.of_samePlace hplace⟩
  · rw [← hearlier.length_eq, ← serviceOfRow_eq_error_iff, serviceOfRow_eq_of_samePlace hrow]
    exact hoffends.serviceOfRow
  · rw [← hearlier.length_eq, hnumber]

/-- **Exactly the lists of services are accepted, and the first fault is the error.**

* A document is accepted exactly if each of its rows lists something: its fields are texts, and,
  without the blanks around them, either all of them are empty or the first two are the port and the
  protocol of a service.
* What is returned are the services of the rows, in the order of the rows; blank rows have none.
* Otherwise only the error of the first row at fault is returned, with the number of that row.
* If that row ends at a line end, whatever follows it in its place leaves the error as it is; if it
  does not, nothing follows it. -/
theorem exclusions_exact :
    (∀ document, (∃ services, readExclusions document = .ok services) ↔
      ∀ row ∈ Csv.read document, ∃ entry, row.Lists entry) ∧
    (∀ document services, readExclusions document = .ok services ↔
      ∃ entries, List.Forall₂ Csv.Row.Lists (Csv.read document) entries ∧
        services = entries.reduceOption) ∧
    (∀ document fault, readExclusions document = .error fault ↔
      ∃ earlier row later, Csv.read document = earlier ++ row :: later ∧
        (∀ listed ∈ earlier, ∃ entry, listed.Lists entry) ∧
        row.Offends document earlier.length fault.cause ∧ fault.row = earlier.length + 1) ∧
    ∀ document fault earlier row later, readExclusions document = .error fault →
      Csv.read document = earlier ++ row :: later → fault.row = earlier.length + 1 →
      (Csv.EndsInLine row.onward →
        ∃ front b, Csv.isTerminator b = true ∧ document = front ++ b :: row.after ∧
          ∀ other, readExclusions (front ++ b :: other) = .error fault) ∧
      (¬Csv.EndsInLine row.onward → row.after = []) := by
  refine ⟨fun document => readExclusions_isOk_iff, fun document services =>
    servicesOfRows_eq_ok_iff, fun document fault => readExclusions_eq_error_iff, ?_⟩
  intro document fault earlier row later h hrows hnumber
  exact ⟨readExclusions_eq_error_append h hrows hnumber, Csv.rest_eq_nil_of_not_endsInLine⟩

end TrafficDigest
