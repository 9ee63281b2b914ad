import TrafficDigest.Instant
import TrafficDigest.Text

/-!
# Reading instants

The reader of a relaxed form of RFC 3339.  A date, a separator, a time of day and an offset follow
each other; the numbers need no padding, blanks may stand before every number, mark and the
offset, and the offset may be written `Z`, `UTC`, or as a sign with hours and minutes.  Each
part is read from the front of the text and comes with what follows it.  Main definition:
`Instant.read?`.
-/

namespace TrafficDigest.Instant

open Text

/-! ## Parts -/

/-- Exactly this character. -/
def readMark (c : Char) : List Char → Option (List Char)
  | d :: rest => if d = c then some rest else none
  | [] => none

/-- A number of one or two digits after any blanks. -/
def readField (cs : List Char) : Option (Nat × List Char) := takeNumber 2 (cs.dropWhile isBlank)

/-- A year after any blanks: up to four digits, or any number of digits after a sign. -/
def readYear (cs : List Char) : Option (Int × List Char) :=
  match cs.dropWhile isBlank with
  | '-' :: rest => (takeNumber rest.length rest).map fun (n, rest) => (-(n : Int), rest)
  | '+' :: rest => (takeNumber rest.length rest).map fun (n, rest) => ((n : Int), rest)
  | cs => (takeNumber 4 cs).map fun (n, rest) => ((n : Int), rest)

/-- Year, month and day with a hyphen before the second and the third. -/
def readDate (cs : List Char) : Option (Date × List Char) := do
  let (year, cs) ← readYear cs
  let cs ← readMark '-' (cs.dropWhile isBlank)
  let (month, cs) ← readField cs
  let cs ← readMark '-' (cs.dropWhile isBlank)
  let (day, cs) ← readField cs
  let date ← Date.ofFields? year month day
  return (date, cs)

/-- A letter t of either case, or a space. -/
def readSeparator : List Char → Option (List Char)
  | c :: rest => if c = 't' ∨ c = 'T' ∨ c = ' ' then some rest else none
  | [] => none

/-- The fraction of a second in nanoseconds: nothing, or a point and at least one digit; the digits
after the ninth are passed over. -/
def readFraction : List Char → Option (Nat × List Char)
  | '.' :: cs => do
    let (n, rest) ← takeNumber 9 cs
    return (n * Nat.pow 10 (9 - (cs.length - rest.length)), rest.dropWhile Char.isDigit)
  | cs => some (0, cs)

/-- A time of day as seconds since midnight and nanoseconds; second 60 is a leap second. -/
def readClock (cs : List Char) : Option ((Nat × Nat) × List Char) := do
  let (hour, cs) ← readField cs
  let cs ← readMark ':' (cs.dropWhile isBlank)
  let (minute, cs) ← readField cs
  let cs ← readMark ':' (cs.dropWhile isBlank)
  let (second, cs) ← readField cs
  let (nano, cs) ← readFraction cs
  if hour < 24 ∧ minute < 60 ∧ second ≤ 60 then
    let ofDay := hour * 3600 + minute * 60
    if second = 60 then return ((ofDay + 59, nanosPerSecond + nano), cs)
    else return ((ofDay + second, nano), cs)
  else none

/-- Exactly two digits. -/
def readTwoDigits : List Char → Option (Nat × List Char)
  | a :: b :: rest =>
    if a.isDigit ∧ b.isDigit then some (digitsValue [a, b], rest) else none
  | _ => none

/-- The sign of an offset; the minus sign U+2212 counts as a hyphen. -/
def readSign : List Char → Option (Int × List Char)
  | '+' :: rest => some (1, rest)
  | '-' :: rest => some (-1, rest)
  | '\u2212' :: rest => some (-1, rest)
  | _ => none

/-- An offset with a sign, in seconds: two digits of hours, colons or blanks or none, and two digits
of minutes.  It is shorter than a day. -/
def readSignedOffset (cs : List Char) : Option (Int × List Char) := do
  let (sign, cs) ← readSign cs
  let (hours, cs) ← readTwoDigits cs
  let (minutes, cs) ← readTwoDigits (cs.dropWhile fun c => c = ':' || isBlank c)
  let seconds := hours * 3600 + minutes * 60
  if minutes < 60 ∧ seconds < secondsPerDay then return (sign * seconds, cs) else none

/-- An offset from UTC in seconds: the letter z or the letters utc of either case, or a signed
offset. -/
def readOffset (cs : List Char) : Option (Int × List Char) :=
  if (cs.take 1).map Char.toUpper = ['Z'] then some (0, cs.drop 1)
  else if (cs.take 3).map Char.toUpper = ['U', 'T', 'C'] then some (0, cs.drop 3)
  else readSignedOffset cs

/-! ## The whole -/

/-- The instants that lie in the years the calendar of this library reaches. -/
def InRange (second : Int) : Prop :=
  Date.dayNumber ⟨Date.minYear, 1, 1⟩ ≤ second / secondsPerDay ∧
    second / secondsPerDay ≤ Date.dayNumber ⟨Date.maxYear, 12, 31⟩

instance (second : Int) : Decidable (InRange second) := by unfold InRange; infer_instance

/-- The instant with a given calendar second, if it lies in range. -/
def ofSecond? (second : Int) (nano : Nat) : Option Instant :=
  if h : nano < 2 * nanosPerSecond ∧ InRange second then some ⟨second, nano, h.1⟩ else none

/-- **The instant that a whole text stands for.** -/
def read? (s : String) : Option Instant := do
  let (date, cs) ← readDate s.toList
  let cs ← readSeparator cs
  let ((ofDay, nano), cs) ← readClock cs
  let (offset, cs) ← readOffset (cs.dropWhile isBlank)
  if cs.all isBlank then
    ofSecond? (date.dayNumber * secondsPerDay + ofDay - offset) nano
  else none

end TrafficDigest.Instant
