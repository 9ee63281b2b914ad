import TrafficDigest.Proofs.Csv.Line
import TrafficDigest.Proofs.Exclusions
import TrafficDigest.Query

/-!
# The line of a fault in a list of excluded services

A fault is shown with the number of its row.  The wording calls it a line, and rows are not lines:
an empty line above the fault has no number, and two lines that a field in quotes joins have one.
What is shown is the line of the fault exactly if the lines above hold a row each, and a smaller
number if they do not (`readExclusions_fault_line`).
-/

namespace TrafficDigest

/-- The text before a row and the text from it on make up the document. -/
lemma Csv.Row.preceding_append {document : List UInt8} {row : Csv.Row} {front : List UInt8}
    (h : Csv.withoutMark document = front ++ row.onward) : row.preceding document = front := by
  simp [preceding, h]

/-- **Where a fault is shown and where it is.**  It is in the first row that is at fault, and shown
with the number of this row.  That is the line on which the row starts if the lines above hold a row
each, and else the row starts further down. -/
theorem readExclusions_fault_line {document : List UInt8} {fault : ExclusionFault}
    (h : readExclusions document = .error fault) :
    ∃ earlier row later, Csv.read document = earlier ++ row :: later ∧
      (∀ listed ∈ earlier, ∃ entry, listed.Lists entry) ∧
      row.Offends document earlier.length fault.cause ∧
      Csv.withoutMark document = row.preceding document ++ row.onward ∧
      fault.row = earlier.length + 1 ∧ fault.row ≤ row.line document ∧
      (fault.row = row.line document ↔ Csv.LineByLine (row.preceding document)) := by
  obtain ⟨earlier, row, later, hread, hearlier, hoffends, hnumber⟩ :=
    readExclusions_eq_error_iff.mp h
  have honward : (Csv.rows (Csv.withoutMark document)).map Csv.Row.onward
      = earlier.map Csv.Row.onward ++ row.onward :: later.map Csv.Row.onward := by
    rw [← Csv.read, hread]
    simp
  obtain ⟨front, hsplit, hle, hiff⟩ := Csv.exists_preceding honward
  obtain rfl := Csv.Row.preceding_append hsplit
  rw [List.length_map] at hle hiff
  refine ⟨earlier, row, later, hread, hearlier, hoffends, hsplit, hnumber, ?_, ?_⟩
  · rw [hnumber, Csv.Row.line]
    omega
  · rw [hnumber, ← hiff, Csv.Row.line]
    omega

/-- Rows with carriage returns and line feeds between them are numbered as their lines are. -/
theorem readExclusions_fault_line_of_crlf :
    let document := Text.Utf8.encode "443,6\r\nhttps,6\r\n"
    readExclusions document = .error ⟨2, .badPort "https"⟩ ∧
      ∃ row ∈ Csv.read document, row.line document = 2 ∧
        Csv.LineByLine (row.preceding document) := by
  intro document
  have hfault : readExclusions document = .error ⟨2, .badPort "https"⟩ := by decide +kernel
  have hlines : (Csv.read document).map (Csv.Row.line document) = [1, 2] := by decide +kernel
  obtain ⟨earlier, row, later, hread, -, -, -, hnumber, -, hiff⟩ := readExclusions_fault_line hfault
  obtain ⟨first, rfl⟩ := List.length_eq_one_iff.mp (Nat.succ.inj hnumber).symm
  rw [hread] at hlines
  obtain ⟨-, hrow, -⟩ : _ ∧ row.line document = 2 ∧ later = [] := by simpa using hlines
  exact ⟨hfault, row, by simp [hread], hrow, hiff.mp hrow.symm⟩

/-- **A fault below an empty line is shown on another line:** it is on the third one here. -/
theorem fault_line_of_emptyLine :
    let document := Text.Utf8.encode "443,6\n\nhttps,6\n"
    readExclusions document = .error ⟨2, .badPort "https"⟩ ∧
      (FlowError.malformedExclusions ⟨2, .badPort "https"⟩).message
        = "malformed service exclusion input at line 2: 'https' is not a valid port" ∧
      ∃ first row, Csv.read document = [first, row] ∧ row.Offends document 1 (.badPort "https") ∧
        row.line document = 3 := by
  intro document
  have hfault : readExclusions document = .error ⟨2, .badPort "https"⟩ := by decide +kernel
  have hlines : (Csv.read document).map (Csv.Row.line document) = [1, 3] := by decide +kernel
  obtain ⟨earlier, row, later, hread, -, hoffends, hnumber⟩ :=
    readExclusions_eq_error_iff.mp hfault
  obtain ⟨first, rfl⟩ := List.length_eq_one_iff.mp (Nat.succ.inj hnumber).symm
  rw [hread] at hlines
  obtain ⟨-, hrow, rfl⟩ : _ ∧ row.line document = 3 ∧ later = [] := by simpa using hlines
  exact ⟨hfault, by decide, first, row, hread, hoffends, hrow⟩

end TrafficDigest
