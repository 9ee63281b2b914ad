import TrafficDigest.Digest.Summary
import TrafficDigest.Explorer
import TrafficDigest.Proofs.Csv.RoundTrip
import TrafficDigest.Proofs.FileSystem
import TrafficDigest.Report

/-!
# Reports in files

A report whose rows are all as long as its headers is written as one text, `Report.text`, and the
only thing that can go wrong is that the file cannot be created (`write_cases`).  The text is read
back as the headers and the rows, whatever their cells are: `reads_back`.
-/

namespace TrafficDigest.Report

variable {report : Report} {files files' : FileSystem} {path : String}

/-- Every row is as long as the headers. -/
def Even (report : Report) : Prop := ∀ row ∈ report.rows, row.length = report.headers.length

/-- The headers and all rows as comma-separated values. -/
def text (report : Report) : String :=
  String.ofList ((report.headers :: report.rows).flatMap Csv.writeRecord)

lemma csv_of_even (h : report.Even) : report.csv = .ok report.text := by
  have hnone : report.rows.find? (·.length ≠ report.headers.length) = none := by
    simpa [List.find?_eq_none, Even] using h
  rw [csv, Csv.write, hnone]
  rfl

/-- How a report is written: whether the file can be created comes first, then the rows. -/
lemma write_eq (report : Report) (files : FileSystem) (path : String) :
    report.write files path =
      match files.write path "", report.csv with
      | .error fault, _ => .error (.cannotCreate path fault)
      | .ok _, .error ragged => .error (.ragged ragged)
      | .ok _, .ok text => (files.write path text).mapError (.cannotCreate path) := by
  unfold write
  cases files.write path "" with
  | error fault => rfl
  | ok created => cases report.csv <;> rfl

/-- Writing a report is writing its text. -/
lemma of_write (heven : report.Even) (h : report.write files path = .ok files') :
    files.write path report.text = .ok files' := by
  rw [write_eq, csv_of_even heven] at h
  cases hcreate : files.write path "" with
  | error fault =>
      rw [hcreate] at h
      cases h
  | ok created =>
      rw [hcreate] at h
      exact mapError_eq_ok.mp h

/-- **Writing fails only if the file cannot be created.** -/
lemma of_write_error (heven : report.Even) {e : ReportError}
    (h : report.write files path = .error e) :
    ∃ fault, files.write path "" = .error fault ∧ e = .cannotCreate path fault := by
  rw [write_eq, csv_of_even heven] at h
  cases hcreate : files.write path "" with
  | error fault =>
      rw [hcreate] at h
      exact ⟨fault, rfl, (Except.error.inj h).symm⟩
  | ok created =>
      obtain ⟨files', hwrite⟩ := FileSystem.exists_write_of_blank rfl hcreate report.text
      simp only [hcreate, hwrite] at h
      cases h

/-- **A report is written to two stores with the same files alike.** -/
lemma write_of_blank (hblank : files.blank = files'.blank) (report : Report) (path : String) :
    (∃ e, report.write files path = .error e ∧ report.write files' path = .error e) ∨
      ∃ text gs gs', files.write path text = .ok gs ∧ files'.write path text = .ok gs' ∧
        report.write files path = .ok gs ∧ report.write files' path = .ok gs' := by
  rw [write_eq, write_eq]
  cases hcreate : files.write path "" with
  | error fault =>
      rw [FileSystem.write_eq_error_of_blank hblank hcreate]
      exact Or.inl ⟨_, rfl, rfl⟩
  | ok created =>
      obtain ⟨created', hcreate'⟩ := FileSystem.exists_write_of_blank hblank hcreate ""
      rw [hcreate']
      cases report.csv with
      | error ragged => exact Or.inl ⟨_, rfl, rfl⟩
      | ok text =>
          obtain ⟨gs, hwrite⟩ := FileSystem.exists_write_of_blank rfl hcreate text
          obtain ⟨gs', hwrite'⟩ := FileSystem.exists_write_of_blank hblank hcreate text
          simp only [hwrite, hwrite']
          exact Or.inr ⟨text, gs, gs', hwrite, hwrite', rfl, rfl⟩

/-! ## Reading back -/

lemma headers_cases {headers : List String} (h : headers ∈ [summaryHeaders, explorerHeaders]) :
    headers = summaryHeaders ∨ headers = explorerHeaders := by
  simpa using h

/-- The headers of both commands are those of a plain document: its first byte is a letter. -/
lemma head_headers {headers : List String} (h : headers ∈ [summaryHeaders, explorerHeaders])
    (rest : List Char) :
    (Text.Utf8.bytes (Csv.writeRecord headers ++ rest)).head? = some 0x73 := by
  obtain ⟨cs, hcs⟩ : ∃ cs, Csv.writeRecord headers = 's' :: cs := by
    rcases headers_cases h with rfl | rfl <;> exact ⟨_, rfl⟩
  rw [hcs]
  rfl

/-- **A report is read back.**  Under the headers of either command, and whatever the cells are, the
rows have a text that is read as the headers and the rows.  That text is what a file holds after the
report was written to it, and the writing fails only if the file cannot be created. -/
theorem reads_back {headers : List String} (hheaders : headers ∈ [summaryHeaders, explorerHeaders])
    {rows : List (List String)} (hrows : ∀ row ∈ rows, row.length = headers.length) :
    ∃ text, (Report.mk headers rows).csv = .ok text ∧
      Csv.readText? (Text.Utf8.encode text) = some (headers :: rows) ∧
      ∀ (files : FileSystem) (path : String),
        (∀ files', (Report.mk headers rows).write files path = .ok files' →
          files'.read path = .ok text) ∧
        ∀ e, (Report.mk headers rows).write files path = .error e →
          ∃ fault, files.write path "" = .error fault ∧ e = .cannotCreate path fault := by
  have heven : (Report.mk headers rows).Even := hrows
  have hlength : 0 < headers.length := by
    rcases headers_cases hheaders with rfl | rfl <;> decide
  have hnonempty : ∀ record ∈ headers :: rows, record ≠ [] := by
    rw [List.forall_mem_cons]
    refine ⟨List.ne_nil_of_length_pos hlength, fun row hrow => ?_⟩
    exact List.ne_nil_of_length_pos (hrows row hrow ▸ hlength)
  refine ⟨(Report.mk headers rows).text, csv_of_even heven, ?_, fun files path => ⟨?_, ?_⟩⟩
  · refine Csv.readText?_writeRecords hnonempty ?_
    rw [List.flatMap_cons, head_headers hheaders]
    decide
  · intro files' hwrite
    exact (FileSystem.exists_rewrites (of_write heven hwrite)).2
  · intro e hwrite
    exact of_write_error heven hwrite

/-- Rows with every mark of the format in their cells, with blanks, and with empty cells. -/
def markedRows : List (List String) :=
  [["a,b", "say \"hi\"", "\r\n", " blank ", ""], ["", "", "", "", "\""]]

/-- Commas, quotes, line breaks, blanks and empty cells come back from the text of the file. -/
theorem reads_back_markedRows :
    ∃ text, (Report.mk summaryHeaders markedRows).csv = .ok text ∧
      text = "src_app_group,dst_app_group,allowed_flow_summary,potentially_blocked_flow_summary," ++
        "blocked_flow_summary\n\"a,b\",\"say \"\"hi\"\"\",\"\r\n\", blank ,\n,,,,\"\"\"\"\n" ∧
      Csv.readText? (Text.Utf8.encode text) = some (summaryHeaders :: markedRows) := by
  obtain ⟨text, hcsv, hread, -⟩ := reads_back (List.mem_cons_self)
    (show ∀ row ∈ markedRows, row.length = summaryHeaders.length by decide)
  refine ⟨text, hcsv, ?_, hread⟩
  exact Except.ok.inj (hcsv.symm.trans (by decide +kernel))

end TrafficDigest.Report
