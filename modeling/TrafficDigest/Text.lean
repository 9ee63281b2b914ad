/-!
# Blanks and numbers in text

The blanks that may surround a date, a field or a number without belonging to it, and the reading
and writing of unsigned numbers in ASCII digits.  A number may be read with an upper bound (a port,
a count), and written with leading zeros (the fields of a date).
-/

namespace TrafficDigest.Text

/-! ## Blanks -/

/-- The characters with the Unicode property `White_Space`. -/
def isBlank (c : Char) : Bool :=
  ('\t' ≤ c && c ≤ '\r') || c == ' ' || c == '\u0085' || c == '\u00a0' || c == '\u1680' ||
  ('\u2000' ≤ c && c ≤ '\u200a') || c == '\u2028' || c == '\u2029' || c == '\u202f' ||
  c == '\u205f' || c == '\u3000'

/-- The bytes that are blank on their own: tab, line feed, form feed, carriage return, space. -/
def isBlankByte (b : UInt8) : Bool :=
  b == 0x09 || b == 0x0a || b == 0x0c || b == 0x0d || b == 0x20

/-- The list without the leading and trailing members that satisfy `p`. -/
def trimBy {α : Type} (p : α → Bool) (xs : List α) : List α :=
  ((xs.dropWhile p).reverse.dropWhile p).reverse

/-- The text without the blanks around it. -/
def trim (cs : List Char) : List Char := trimBy isBlank cs

/-! ## Reading numbers -/

/-- What one digit stands for. -/
def digitValue (c : Char) : Nat := c.toNat - '0'.toNat

/-- The number that a run of digits stands for, most significant digit first. -/
def digitsValue (cs : List Char) : Nat :=
  cs.foldl (fun n c => 10 * n + digitValue c) 0

/-- **One or more digits and nothing else.**  Leading zeros are allowed. -/
def readDigits (cs : List Char) : Option Nat :=
  if cs.isEmpty || !cs.all Char.isDigit then none else some (digitsValue cs)

/-- **A bounded unsigned number:** an optional `+`, then digits, with a value of at most `max`. -/
def readUnsigned (max : Nat) (cs : List Char) : Option Nat :=
  let digits := match cs with
    | '+' :: rest => rest
    | _ => cs
  (readDigits digits).filter (· ≤ max)

/-- The leading digits, at most `most` of them and at least one, with what follows them. -/
def takeNumber (most : Nat) (cs : List Char) : Option (Nat × List Char) :=
  match (cs.take most).takeWhile Char.isDigit with
  | [] => none
  | digits => some (digitsValue digits, cs.drop digits.length)

/-! ## Writing numbers -/

/-- The number in decimal digits, with zeros in front up to the given width. -/
def padZeros (width n : Nat) : String :=
  let digits := toString n
  String.ofList (List.replicate (width - digits.length) '0') ++ digits

end TrafficDigest.Text
