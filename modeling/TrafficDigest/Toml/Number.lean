import TrafficDigest.Calendar
import TrafficDigest.Json.Token
import TrafficDigest.Text
import TrafficDigest.Toml

/-!
# Numbers and dates of TOML documents

Each reader takes a literal from the front of a text and gives what follows it.  Digits may have
underscores between them.
-/

namespace TrafficDigest.Toml

/-! ## Digits -/

/-- Digits of a class with single underscores between them. -/
def takeDigits (isDigit : Char → Bool) : List Char → List Char × List Char
  | [] => ([], [])
  | '_' :: d :: rest =>
    if isDigit d then
      let (ds, rest) := takeDigits isDigit rest
      (d :: ds, rest)
    else ([], '_' :: d :: rest)
  | d :: rest =>
    if isDigit d then
      let (ds, rest) := takeDigits isDigit rest
      (d :: ds, rest)
    else ([], d :: rest)

/-- Digits, of which the first is not an underscore and there is at least one. -/
def readDigits (isDigit : Char → Bool) (cs : List Char) : Option (List Char × List Char) :=
  if cs.head?.any isDigit then some (takeDigits isDigit cs) else none

/-- A sign, if there is one. -/
def readSign : List Char → Bool × List Char
  | '-' :: rest => (true, rest)
  | '+' :: rest => (false, rest)
  | cs => (false, cs)

/-- A whole number in decimal digits without leading zeros. -/
def readWhole (cs : List Char) : Option (List Char × List Char) :=
  match cs with
  | '0' :: rest => some (['0'], rest)
  | _ => readDigits Char.isDigit cs

/-! ## Integers -/

/-- The value of digits to a base. -/
def valueOf (base : Nat) (digits : List Char) : Nat :=
  digits.foldl (fun n c => base * n + (Json.hexValue? c).getD 0) 0

/-- The digits of a base. -/
def isDigitOf (base : Nat) (c : Char) : Bool := (Json.hexValue? c).any (· < base)

/-- An integer of 64 bits. -/
def integer? (value : Int) : Option Toml :=
  if Int64.minValue.toInt ≤ value ∧ value ≤ Int64.maxValue.toInt then some (.integer value)
  else none

/-- Digits to a base, without a sign. -/
def readBased (base : Nat) (cs : List Char) : Option (Toml × List Char) := do
  let (digits, rest) ← readDigits (isDigitOf base) cs
  let value ← integer? (valueOf base digits)
  return (value, rest)

/-- **An integer:** to the base 16, 8 or 2 after a mark, and decimal with a sign or none. -/
def readInteger (cs : List Char) : Option (Toml × List Char) :=
  match cs with
  | '0' :: 'x' :: rest => readBased 16 rest
  | '0' :: 'o' :: rest => readBased 8 rest
  | '0' :: 'b' :: rest => readBased 2 rest
  | _ => do
    let (negative, cs) := readSign cs
    let (digits, rest) ← readWhole cs
    let n : Int := valueOf 10 digits
    let value ← integer? (if negative then -n else n)
    return (value, rest)

/-! ## Floating-point numbers -/

/-- The digits and the exponent of a decimal number. -/
structure Scientific where
  digits : List Char
  exponent : Int

/-- The exponent of a number, zero if there is none. -/
def readExponent (cs : List Char) : Option (Int × List Char) :=
  match cs with
  | e :: rest =>
    if e = 'e' ∨ e = 'E' then do
      let (negative, rest) := readSign rest
      let (digits, rest) ← readDigits Char.isDigit rest
      let n : Int := valueOf 10 digits
      return (if negative then -n else n, rest)
    else some (0, cs)
  | [] => some (0, [])

/-- A whole number with a fraction, an exponent or both. -/
def readScientific (cs : List Char) : Option (Scientific × List Char) := do
  let (whole, rest) ← readWhole cs
  match rest with
  | '.' :: rest => do
    let (fraction, rest) ← readDigits Char.isDigit rest
    let (exponent, rest) ← readExponent rest
    return (⟨whole ++ fraction, exponent - fraction.length⟩, rest)
  | _ => do
    let (exponent, next) ← readExponent rest
    if next.length < rest.length then return (⟨whole, exponent⟩, next) else none

/-- The least number that rounds up to more than the largest floating-point number of 64 bits. -/
def overflowBound : Nat := 1 <<< 1024 - 1 <<< 970

/-- **The number is too large** for a floating-point number of 64 bits.  Far from the bound the
count of digits decides. -/
def Scientific.overflows (s : Scientific) : Bool :=
  let digits := s.digits.dropWhile (· = '0')
  let order : Int := digits.length + s.exponent
  if digits.isEmpty ∨ order < 309 then false
  else if 310 ≤ order then true
  else if 0 ≤ s.exponent then overflowBound ≤ valueOf 10 digits * Nat.pow 10 s.exponent.toNat
  else overflowBound * Nat.pow 10 (-s.exponent).toNat ≤ valueOf 10 digits

/-- The part of a text that comes before its rest. -/
def literalBefore (cs rest : List Char) : String :=
  String.ofList (cs.take (cs.length - rest.length))

/-- The words that stand for floating-point numbers without digits. -/
def readSpecial (cs : List Char) : Option (List Char) :=
  [['i', 'n', 'f'], ['n', 'a', 'n']].findSome? fun word =>
    if word.isPrefixOf cs then some (cs.drop 3) else none

/-- **A floating-point number.**  A negative number may overflow. -/
def readFloat (cs : List Char) : Option (Toml × List Char) :=
  let (negative, unsigned) := readSign cs
  match readScientific unsigned with
  | some (s, rest) =>
    if s.overflows && !negative then none else some (.float (literalBefore cs rest), rest)
  | none => (readSpecial unsigned).map fun rest => (.float (literalBefore cs rest), rest)

/-! ## Dates and times -/

/-- A number of exactly this many digits, between bounds. -/
def readField (width least most : Nat) (cs : List Char) : Option (Nat × List Char) :=
  let digits := cs.take width
  if digits.length = width ∧ digits.all Char.isDigit ∧ least ≤ Text.digitsValue digits ∧
      Text.digitsValue digits ≤ most then
    some (Text.digitsValue digits, cs.drop width)
  else none

/-- The rest after a character that must come next. -/
def after? (allowed : List Char) : List Char → Option (List Char)
  | [] => none
  | c :: rest => if allowed.contains c then some rest else none

/-- The rest after a date that the calendar has. -/
def afterDate? (cs : List Char) : Option (List Char) := do
  let (year, cs) ← readField 4 0 9999 cs
  let cs ← after? ['-'] cs
  let (month, cs) ← readField 2 1 12 cs
  let cs ← after? ['-'] cs
  let (day, cs) ← readField 2 1 31 cs
  if day ≤ Date.daysInMonth year month then return cs else none

/-- The rest after a fraction of a second, if there is one. -/
def afterFraction? : List Char → Option (List Char)
  | '.' :: rest => if rest.head?.any Char.isDigit then some (rest.dropWhile Char.isDigit) else none
  | cs => some cs

/-- The rest after a time of day. -/
def afterTime? (cs : List Char) : Option (List Char) := do
  let (_, cs) ← readField 2 0 23 cs
  let cs ← after? [':'] cs
  let (_, cs) ← readField 2 0 59 cs
  let cs ← after? [':'] cs
  let (_, cs) ← readField 2 0 60 cs
  afterFraction? cs

/-- The rest after an offset from UTC, if there is one. -/
def afterOffset (cs : List Char) : List Char :=
  let signed : Option (List Char) := do
    let cs ← after? ['+', '-'] cs
    let (_, cs) ← readField 2 0 23 cs
    let cs ← after? [':'] cs
    let (_, cs) ← readField 2 0 59 cs
    return cs
  (after? ['Z', 'z'] cs <|> signed).getD cs

/-- The rest after a date, a date with a time, or a time. -/
def afterMoment? (cs : List Char) : Option (List Char) :=
  match afterDate? cs with
  | some rest => some (((after? ['T', 't', ' '] rest).bind afterTime?).elim rest afterOffset)
  | none => afterTime? cs

/-- **A date or a time.** -/
def readMoment (cs : List Char) : Option (Toml × List Char) :=
  (afterMoment? cs).map fun rest => (.moment (literalBefore cs rest), rest)

end TrafficDigest.Toml
