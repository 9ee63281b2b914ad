import TrafficDigest.Text.Width.Tables

/-!
# The width of text on a terminal

How many columns a line takes.  Most characters take one column, wide ones two, and marks none.
Some sequences take less or more than their characters on their own: emoji that are joined, styled
or given a skin tone, flags, quotation marks that are told to be wide, and ligatures of several
scripts.  So a line is gone through from its end, and each character is looked at in what follows
it: a `Context`, and perhaps a `Style` that a mark asks for.
-/

namespace TrafficDigest.Text

namespace Width

/-! ## What follows a character -/

/-- What follows a character, as far as that bears on the character's width. -/
inductive Context where
  | plain
  /-- An emoji. -/
  | emoji
  /-- A skin tone. -/
  | skinTone
  /-- A joiner and an emoji. -/
  | joined
  /-- A key cap with a joiner and an emoji after it. -/
  | joinedKeyCap
  /-- Letters of flags, and whether there are several. -/
  | flag (several : Bool)
  /-- One letter of a flag, with a joiner and an emoji after it. -/
  | joinedFlag
  /-- Two or more letters of flags, with a joiner and an emoji after them. -/
  | joinedFlags (even : Bool)
  /-- The end of a tag before a joiner and an emoji, with the number of letters before that end and
  of digits before those. -/
  | joinedTag (letters digits : Nat)
  /-- An Arabic letter of the form of alef. -/
  | alef
  /-- The Hebrew letter lamed, and whether a joiner comes before it. -/
  | lamed (joined : Bool)
  /-- A Khmer letter that takes a subscript form. -/
  | khmerLetter
  /-- The Buginese letter ya, and whether a joiner comes before it. -/
  | buginese (joined : Bool)
  /-- The Buginese vowel sign i with a joiner and the letter ya. -/
  | bugineseSign
  /-- A Tifinagh consonant, and whether a joiner comes before it. -/
  | tifinagh (joined : Bool)
  /-- The Tifinagh consonant joiner with a consonant. -/
  | tifinaghJoiner
  /-- A Lisu tone letter that ends a combination. -/
  | lisuTone
  /-- The Old Turkic letter i, and whether a joiner comes before it. -/
  | oldTurkic (joined : Bool)
  /-- The Kirat Rai vowel sign e, and whether it is there twice, which is the sign ai. -/
  | kiratRai (twice : Bool)
  deriving DecidableEq, Repr

/-- How a mark asks for the character before it to be shown. -/
inductive Style where
  | asEmoji
  | asText
  /-- As a quotation mark of two columns. -/
  | asWideQuote
  deriving DecidableEq, Repr

/-- What follows a character: a context, and a mark before that. -/
structure Following where
  context : Context
  style : Option Style := none
  deriving DecidableEq, Repr

/-! ## Kinds of characters -/

/-- The joiner. -/
def joiner : Char := '\u200d'

/-- The code point lies between two others. -/
def between (first last : Nat) (c : Char) : Bool := within [(first, last)] c

/-- A letter of a flag. -/
def isFlagLetter : Char → Bool := between 0x1f1e6 0x1f1ff

/-- A skin tone. -/
def isSkinTone : Char → Bool := between 0x1f3fb 0x1f3ff

/-- A digit of a tag. -/
def isTagDigit : Char → Bool := between 0xe0030 0xe0039

/-- A letter of a tag. -/
def isTagLetter : Char → Bool := between 0xe0061 0xe007a

/-- A character that can be told to be shown as an emoji. -/
def takesEmojiStyle (c : Char) : Bool :=
  within textByDefault c || within textOnDemand c || within ideographic c

/-- A Tifinagh consonant. -/
def isTifinaghConsonant (c : Char) : Bool := within [(0x2d31, 0x2d65), (0x2d6f, 0x2d6f)] c

/-- An Arabic letter of the form of alef. -/
def isAlef (c : Char) : Bool :=
  within [(0x622, 0x623), (0x625, 0x625), (0x627, 0x627), (0x671, 0x673), (0x675, 0x675),
    (0x773, 0x774), (0x870, 0x882)] c

/-- An Arabic letter of the form of lam. -/
def isLam (c : Char) : Bool :=
  within [(0x644, 0x644), (0x6b5, 0x6b8), (0x76a, 0x76a), (0x8a6, 0x8a6), (0x8c7, 0x8c7)] c

/-- A mark that lets the letters at its two sides join. -/
def isTransparent (c : Char) : Bool := within zeroWidth c && !within separating c

/-- A mark that is ignored by default. -/
def isIgnored (c : Char) : Bool :=
  within [(0x34f, 0x34f), (0x17b4, 0x17b5), (0x180b, 0x180d), (0x180f, 0x180f),
    (0xfe00, 0xfe0f), (0xe0100, 0xe01ef)] c

/-- A Khmer letter that takes a subscript form. -/
def isKhmerLetter (c : Char) : Bool :=
  within [(0x1780, 0x1782), (0x1784, 0x1787), (0x1789, 0x178c), (0x178e, 0x1793),
    (0x1795, 0x1798), (0x179b, 0x179d), (0x17a0, 0x17a0), (0x17a2, 0x17a2), (0x17a7, 0x17a7),
    (0x17ab, 0x17ac), (0x17af, 0x17af)] c

/-- A quotation mark that can be told to take two columns. -/
def isQuote (c : Char) : Bool := within [(0x2018, 0x2019), (0x201c, 0x201d)] c

/-! ## One character -/

/-- **The width of a character on its own**, and the context it is for what comes before it. -/
def alone (c : Char) : Int × Context :=
  if c ≤ '\u00a0' then (1, .plain)
  else if isFlagLetter c then (1, .flag false)
  else if isSkinTone c then (2, .skinTone)
  else if within emojiByDefault c then (2, .emoji)
  else if isAlef c then (1, .alef)
  else if c = '\u05dc' then (1, .lamed false)
  else if isKhmerLetter c then (1, .khmerLetter)
  else if c = '\u1a10' then (1, .buginese false)
  else if isTifinaghConsonant c then (1, .tifinagh false)
  else if between 0xa4fc 0xa4fd c then (1, .lisuTone)
  else if c.toNat = 0x10c03 then (1, .oldTurkic false)
  else if c.toNat = 0x16d67 then (1, .kiratRai false)
  else if c.toNat = 0x16d68 then (1, .kiratRai true)
  else if c = '\u115f' ∨ c = '\u17a4' then (2, .plain)
  else if c = '\u17d8' then (3, .plain)
  else if within zeroWidth c then (0, .plain)
  else if within wide c then (2, .plain)
  else (1, .plain)

/-! ## Sequences -/

/-- The context with a joiner before it, in the ligatures that joiners and ignored marks do not
break. -/
def Context.withJoiner? : Context → Option Context
  | lamed _ => some (lamed true)
  | khmerLetter => some khmerLetter
  | buginese _ => some (buginese true)
  | bugineseSign => some bugineseSign
  | tifinagh _ => some (tifinagh true)
  | tifinaghJoiner => some tifinaghJoiner
  | lisuTone => some lisuTone
  | oldTurkic _ => some (oldTurkic true)
  | _ => none

/-- The width of a character of a ligature, where the context makes it one. -/
def inLigature? (c : Char) (context : Context) : Option (Int × Context) :=
  match context with
  | .alef =>
    if isLam c then some (0, .plain) else if isTransparent c then some (0, .alef) else none
  | .lamed true => if c = '\u05d0' then some (0, .plain) else none
  | .khmerLetter => if c = '\u17d2' then some (-1, .plain) else none
  | .buginese true => if c = '\u1a17' then some (0, .bugineseSign) else none
  | .bugineseSign => if c = '\u1a15' then some (0, .plain) else none
  | .tifinagh joined =>
    if c = '\u2d7f' then some (1, .tifinaghJoiner)
    else if joined && isTifinaghConsonant c then some (0, .plain)
    else none
  | .tifinaghJoiner => if isTifinaghConsonant c then some (-1, .plain) else none
  | .lisuTone => if between 0xa4f8 0xa4fb c then some (0, .plain) else none
  | .oldTurkic true => if c.toNat = 0x10c32 then some (0, .plain) else none
  | .kiratRai twice =>
    if c.toNat = 0x16d63 then some (0, .plain)
    else if twice then none
    else if c.toNat = 0x16d67 then some (0, .kiratRai true)
    else if c.toNat = 0x16d68 then some (1, .kiratRai false)
    else if c.toNat = 0x16d69 then some (0, .plain)
    else none
  | _ => none

/-- What a joiner or an ignored mark is to the ligature that it comes before. -/
def beforeLigature? (c : Char) (context : Context) : Option (Int × Context) :=
  context.withJoiner?.bind fun withJoiner =>
    if c = joiner then some (0, withJoiner) else if isIgnored c then some (0, context) else none

/-- The width of a character of a sequence of emoji, where the context makes it one.  The tag of a
flag is three to six letters, or three digits and up to four letters. -/
def inEmoji? (c : Char) (context : Context) : Option (Int × Context) :=
  match context with
  | .skinTone =>
    if within modifierBases c then some (0, .emoji)
    else if c = joiner then some (0, .joined)
    else none
  | .emoji => if c = joiner then some (0, .joined) else none
  | .flag several =>
    if isFlagLetter c then some (1, .flag true)
    else if several && c == joiner then some (0, .joined)
    else none
  | .joined =>
    if c = '\u20e3' then some (0, .joinedKeyCap)
    else if isFlagLetter c then some (1, .joinedFlag)
    else if isSkinTone c then some (0, .skinTone)
    else if c.toNat = 0xe007f then some (0, .joinedTag 0 0)
    else if within emojiByDefault c then some (0, .emoji)
    else none
  | .joinedFlag => if isFlagLetter c then some (-1, .joinedFlags true) else none
  | .joinedFlags even =>
    if isFlagLetter c then some (if even then (3, .joinedFlags false) else (-1, .joinedFlags true))
    else if c = joiner then some (0, .joined)
    else none
  | .joinedTag letters digits =>
    if isTagLetter c ∧ digits = 0 ∧ letters < 6 then some (0, .joinedTag (letters + 1) 0)
    else if isTagDigit c ∧ letters ≤ 4 ∧ digits < 3 then some (0, .joinedTag letters (digits + 1))
    else if c.toNat = 0x1f3f4 ∧ (digits = 3 ∨ digits = 0 ∧ 3 ≤ letters) then some (0, .emoji)
    else none
  | _ => none

/-! ## Styles -/

/-- The style that a mark asks for. -/
def Style.ofMark? (c : Char) : Option Style :=
  if c = '\ufe0f' then some asEmoji
  else if c = '\ufe0e' then some asText
  else if c = '\ufe01' then some asWideQuote
  else none

/-- The width of a character that is told to be shown in some style, where it can be. -/
def Style.widthOf? (c : Char) (context : Context) : Style → Option (Int × Context)
  | asEmoji =>
    if takesEmojiStyle c then
      some (if context = .joined ∨ context = .joinedKeyCap then 0 else 2, .emoji)
    else none
  | asText => if within textOnDemand c then some (1, .plain) else none
  | asWideQuote => if isQuote c then some (2, .plain) else none

/-- What is left of a context once a mark of style comes before it: a ligature of letters, and the
end of a joined emoji if the style is that of emoji. -/
def Context.styled (style : Option Style) (context : Context) : Context :=
  match context with
  | .joined | .joinedKeyCap => if style = some .asEmoji then context else .plain
  | .alef => .alef
  | _ => if context.withJoiner?.isSome then context else .plain

/-- **The width of a character before others**, and what the two are for what comes before them. -/
def before (c : Char) (following : Following) : Int × Following :=
  match following.style.bind (·.widthOf? c following.context) with
  | some (w, context) => (w, ⟨context, none⟩)
  | none =>
    let context :=
      if following.style.isSome then following.context.styled none else following.context
    match Style.ofMark? c with
    | some style => (0, ⟨context.styled (some style), some style⟩)
    | none =>
      let (w, context) :=
        ((inEmoji? c context).or ((beforeLigature? c context).or (inLigature? c context))).getD
          (alone c)
      (w, ⟨context, none⟩)

end Width

/-- **The number of columns that a line takes.** -/
def width (line : List Char) : Nat :=
  (line.foldr (fun c (sum, following) =>
    let (w, following) := Width.before c following
    (sum + w, following)) ((0 : Int), (⟨.plain, none⟩ : Width.Following))).1.toNat

end TrafficDigest.Text
