import TrafficDigest.FileSystem

/-!
# Reports in files

A report is a list of rows below a row of headers, all of the same length; it is written to a file
as comma-separated values.

In the text of the file a field is written in double quotes only when it holds a comma, a double
quote, a carriage return or a line feed; a double quote inside it is then written twice.  Records
end with a line feed.  A record that would come out as an empty line, which readers pass over, is
written as a pair of double quotes.
-/

namespace TrafficDigest

/-! ## Comma-separated values -/

namespace Csv

/-- A character that cannot stand in a field without quotes. -/
def needsQuotes (c : Char) : Bool := c == ',' || c == '"' || c == '\r' || c == '\n'

/-- The characters with every double quote written twice. -/
def doubleQuotes (cs : List Char) : List Char :=
  cs.flatMap fun c => if c = '"' then ['"', '"'] else [c]

/-- The written form of a field. -/
def writeField (field : String) : List Char :=
  let cs := field.toList
  if cs.any needsQuotes then '"' :: doubleQuotes cs ++ ['"'] else cs

/-- The written form of a record, with its line feed. -/
def writeRecord (record : List String) : List Char :=
  let line := [','].intercalate (record.map writeField)
  (if line.isEmpty then ['"', '"'] else line) ++ ['\n']

/-- A record that has not as many fields as the one before it. -/
structure RaggedRecord where
  fields : Nat
  expected : Nat
  deriving DecidableEq, Repr

/-- What is reported about such a record. -/
def RaggedRecord.message (e : RaggedRecord) : String :=
  "CSV error: found record with " ++ toString e.fields ++
    " fields, but the previous record has " ++ toString e.expected ++ " fields"

/-- **The text of records**, all with as many fields as the first. -/
def write : List (List String) → Except RaggedRecord String
  | [] => .ok ""
  | first :: others =>
    match others.find? (·.length ≠ first.length) with
    | some ragged => .error ⟨ragged.length, first.length⟩
    | none => .ok (String.ofList ((first :: others).flatMap writeRecord))

end Csv

/-! ## Reports -/

/-- Headers and rows. -/
structure Report where
  headers : List String
  rows : List (List String)
  deriving DecidableEq, Repr

/-- Why a report could not be written. -/
inductive ReportError where
  | cannotCreate (path : String) (fault : FileFault)
  | ragged (record : Csv.RaggedRecord)
  deriving DecidableEq, Repr

/-- What is reported about an error. -/
def ReportError.message : ReportError → String
  | cannotCreate path fault => "cannot create " ++ path ++ ": " ++ fault.message
  | ragged record => record.message

namespace Report

/-- The text of the file. -/
def csv (r : Report) : Except Csv.RaggedRecord String := Csv.write (r.headers :: r.rows)

/-- **Writes a report to a file.**  The file must be one that can be created, whatever the rows. -/
def write (r : Report) (fs : FileSystem) (path : String) : Except ReportError FileSystem := do
  discard ((fs.write path "").mapError (.cannotCreate path))
  let text ← r.csv.mapError .ragged
  (fs.write path text).mapError (.cannotCreate path)

end Report

end TrafficDigest
