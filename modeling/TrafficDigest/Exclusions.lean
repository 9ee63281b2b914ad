import TrafficDigest.Csv.Reader
import TrafficDigest.FileSystem
import TrafficDigest.Flow
import TrafficDigest.Text

/-!
# Lists of excluded services

A list of services is a document of comma-separated values without a header: the port in the first
column, the protocol number in the second, anything in further columns.  Blank rows are skipped.
`readExclusions` reads such a document, `loadExclusions` the file that holds one; the first row
that is at fault decides the error.
-/

namespace TrafficDigest

/-! ## Faults -/

/-- Where and why the bytes of a row are no text.  All numbers but the line count from zero. -/
structure UndecodableRow where
  row : Nat
  line : Nat
  field : Nat
  byte : Nat
  /-- How many bytes at the start of the field can be decoded. -/
  validLength : Nat
  deriving DecidableEq, Repr

/-- What is reported about such a row. -/
def UndecodableRow.message (e : UndecodableRow) : String :=
  "CSV parse error: record " ++ toString e.row ++ " (line " ++ toString e.line ++ ", field: " ++
    toString e.field ++ ", byte: " ++ toString e.byte ++
    "): invalid utf-8: invalid UTF-8 in field " ++ toString e.field ++ " near byte index " ++
    toString e.validLength

/-- Why a list of services cannot be used. -/
inductive ExclusionCause where
  | cannotOpen (path : String) (fault : FileFault)
  | cannotRead (fault : FileFault)
  | undecodable (place : UndecodableRow)
  | tooFewColumns (columns : Nat)
  | badPort (text : String)
  | badProtocol (text : String)
  deriving DecidableEq, Repr

/-- What is reported about a cause. -/
def ExclusionCause.message : ExclusionCause → String
  | cannotOpen path fault => "cannot open " ++ path ++ ": " ++ fault.message
  | cannotRead fault => fault.message
  | undecodable place => place.message
  | tooFewColumns columns =>
    "expected port and protocol, found " ++ toString columns ++ " column(s)"
  | badPort text => "'" ++ text ++ "' is not a valid port"
  | badProtocol text => "'" ++ text ++ "' is not an IANA protocol number"

/-- A cause with the number of the row that is at fault, from one; zero when no row was read. -/
structure ExclusionFault where
  row : Nat
  cause : ExclusionCause
  deriving DecidableEq, Repr

/-! ## One row -/

/-- The fields of a row as trimmed text; of a row that cannot be decoded, the index of the first
field at fault and how many bytes of it can be decoded after the blank bytes before it. -/
def decodeFields (fields : List Csv.Field) : Except (Nat × Nat) (List (List Char)) :=
  match fields.map Text.Utf8.decode? |>.findIdx? Option.isNone with
  | some index =>
    let field := Text.trimBy Text.isBlankByte (fields.getD index [])
    .error (index, Text.Utf8.validLength field)
  | none => .ok ((fields.filterMap Text.Utf8.decode?).map Text.trim)

/-- The port and the protocol number in the first two columns. -/
def serviceOfColumns (columns : List (List Char)) : Except ExclusionCause ServicePort :=
  match columns with
  | port :: proto :: _ =>
    match Text.readUnsigned 65535 port, Text.readUnsigned 255 proto with
    | none, _ => .error (.badPort (String.ofList port))
    | some _, none => .error (.badProtocol (String.ofList proto))
    | some p, some q => .ok ⟨p.toUInt16, q.toUInt8⟩
  | _ => .error (.tooFewColumns columns.length)

/-- The service of a row; a row whose fields are all empty has none. -/
def serviceOfFields (columns : List (List Char)) : Except ExclusionCause (Option ServicePort) :=
  if columns.all List.isEmpty then .ok none else (serviceOfColumns columns).map some

/-- The service of the row with a given number, from zero, in a document. -/
def serviceOfRow (document : List UInt8) (number : Nat) (row : Csv.Row) :
    Except ExclusionCause (Option ServicePort) :=
  match decodeFields row.fields with
  | .ok columns => serviceOfFields columns
  | .error (field, validLength) =>
    let before := Csv.bytesBefore document number row
    .error (.undecodable ⟨number, 1 + before.count Csv.lineFeed, field, before.length, validLength⟩)

/-! ## Documents -/

/-- The services of rows that are numbered from `number` on, up to the first row at fault. -/
def servicesOfRows (document : List UInt8) (number : Nat) :
    List Csv.Row → Except ExclusionFault (List ServicePort)
  | [] => .ok []
  | row :: rows =>
    match serviceOfRow document number row with
    | .error cause => .error ⟨number + 1, cause⟩
    | .ok service => (servicesOfRows document (number + 1) rows).map (service.toList ++ ·)

/-- **The services that a document lists.** -/
def readExclusions (document : List UInt8) : Except ExclusionFault (List ServicePort) :=
  servicesOfRows document 0 (Csv.read document)

/-- **The services that a file lists.**  A directory can be opened, and fails at its first row. -/
def loadExclusions (fs : FileSystem) (path : String) : Except ExclusionFault (List ServicePort) :=
  match fs.read path with
  | .ok text => readExclusions (Text.Utf8.encode text)
  | .error .isADirectory => .error ⟨1, .cannotRead .isADirectory⟩
  | .error fault => .error ⟨0, .cannotOpen path fault⟩

end TrafficDigest
