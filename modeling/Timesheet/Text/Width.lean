import Timesheet.Text.EmojiTable
import Timesheet.Text.Joining
import Timesheet.Text.WidthTable

/-!
Columns that a text takes on a terminal. A character mostly takes the columns of its own, but signs
that are drawn as one (emoji with selectors, tones and joiners, ligatures of a few scripts) take the
columns of one sign. A text is read from its end, so that each character knows what follows it.
-/
namespace Timesheet.Text

/-- What stands right after a character, as far as it changes the columns of that character. The
constructors with `joined` say that a joiner stands before the sign. -/
inductive Follower
  | other
  | lineFeed
  | emoji
  | tone
  | indicator
  | indicators
  | joinedEmoji
  | joinedKeycap
  | joinedIndicator
  | joinedEvenIndicators
  | joinedOddIndicators
  /-- The end of a flag in tags, after so many tag letters. -/
  | joinedTagLetters (count : Nat)
  /-- The end of a flag in tags, after so many tag digits. -/
  | joinedTagDigits (count : Nat)
  | kiratRaiE
  | kiratRaiAi
  | alef
  | lamed
  | joinedLamed
  | buginYa
  | joinedBuginYa
  | buginIYa
  | tifinagh
  | joinedTifinagh
  | tifinaghJoiner
  | lisuTone
  | orkhonI
  | joinedOrkhonI
  | coengLetter
deriving DecidableEq

namespace Follower

/-- Letters that may end a ligature. -/
def endsLigature : Follower → Bool
  | alef | lamed | joinedLamed | buginYa | joinedBuginYa | buginIYa | tifinagh | joinedTifinagh
  | tifinaghJoiner | lisuTone | orkhonI | joinedOrkhonI | coengLetter => true
  | _ => false

/-- Invisible marks and joiners do not come between a letter and these. -/
def seenThroughMarks (f : Follower) : Bool := f.endsLigature && f != alef

def joined : Follower → Follower
  | lamed => joinedLamed
  | buginYa => joinedBuginYa
  | tifinagh => joinedTifinagh
  | orkhonI => joinedOrkhonI
  | f => f

end Follower

structure Ahead where
  sign : Follower
  emojiStyle : Bool
  textStyle : Bool
  wideQuote : Bool

namespace Ahead

def of (sign : Follower) : Ahead := ⟨sign, false, false, false⟩

def plain : Ahead := of .other

/-- The emoji selector keeps what follows it only where the two can belong together. -/
def selectEmoji (a : Ahead) : Ahead :=
  if a.sign.endsLigature then { a with emojiStyle := true }
  else if a.sign = .joinedEmoji ∨ a.sign = .joinedKeycap then { of a.sign with emojiStyle := true }
  else { plain with emojiStyle := true }

def selectText (a : Ahead) : Ahead :=
  if a.sign.endsLigature then { a with textStyle := true } else { plain with textStyle := true }

def selectWideQuote (a : Ahead) : Ahead :=
  if a.sign.endsLigature then { a with wideQuote := true } else { plain with wideQuote := true }

/-- Without an emoji selector that has no emoji before it. -/
def dropEmojiStyle (a : Ahead) : Ahead :=
  if a.sign.endsLigature then { a with emojiStyle := false } else plain

end Ahead

def isTone (c : Char) : Bool := 0x1F3FB ≤ c.toNat && c.toNat ≤ 0x1F3FF

def isIndicator (c : Char) : Bool := 0x1F1E6 ≤ c.toNat && c.toNat ≤ 0x1F1FF

def isTagLetter (c : Char) : Bool := 0xE0061 ≤ c.toNat && c.toNat ≤ 0xE007A

def isTagDigit (c : Char) : Bool := 0xE0030 ≤ c.toNat && c.toNat ≤ 0xE0039

def isCurlyQuote (c : Char) : Bool := c = '‘' || c = '’' || c = '“' || c = '”'

/-- Characters that are narrow with the text selector and wide without it. The signs in ideographic
boxes are wide always. -/
def narrowsAsText (c : Char) : Bool :=
  emojiPresentation.has c && styledBases.has c && !(0x1F200 ≤ c.toNat && c.toNat < 0x1F300)

def isInvisibleMark (c : Char) : Bool :=
  Ranges.has [(0x34F, 0x34F), (0x17B4, 0x17B5), (0x180B, 0x180D), (0x180F, 0x180F),
    (0xFE00, 0xFE0F), (0xE0100, 0xE01EF)] c

def isArabicLam (c : Char) : Bool :=
  Ranges.has [(0x644, 0x644), (0x6B5, 0x6B8), (0x76A, 0x76A), (0x8A6, 0x8A6), (0x8C7, 0x8C7)] c

def isArabicAlef (c : Char) : Bool :=
  Ranges.has [(0x622, 0x623), (0x625, 0x625), (0x627, 0x627), (0x671, 0x673), (0x675, 0x675),
    (0x773, 0x774), (0x870, 0x882)] c

/-- Khmer letters that the coeng sign puts below the letter before them. -/
def isCoengLetter (c : Char) : Bool :=
  Ranges.has [(0x1780, 0x1782), (0x1784, 0x1787), (0x1789, 0x178C), (0x178E, 0x1793),
    (0x1795, 0x1798), (0x179B, 0x179D), (0x17A0, 0x17A0), (0x17A2, 0x17A2), (0x17A7, 0x17A7),
    (0x17AB, 0x17AC), (0x17AF, 0x17AF)] c

def isTifinaghConsonant (c : Char) : Bool := Ranges.has [(0x2D31, 0x2D65), (0x2D6F, 0x2D6F)] c

def charWidth (c : Char) : Nat :=
  if c.toNat < 0xA1 then 1
  else if c = '\u17d8' then 3
  else if zeroWidth.has c then 0
  else if doubleWidth.has c then 2
  else 1

/-- Whether Arabic letters join across a character that takes no column. -/
def isBetweenLetters (c : Char) : Bool := charWidth c == 0 && joinsAcross.has c

/-- What a character is for the character before it. -/
def Follower.ofChar (c : Char) : Follower :=
  if c = '\n' then .lineFeed
  else if c.toNat < 0xA1 then .other
  else if c = '\u05dc' then .lamed
  else if isArabicAlef c then .alef
  else if isCoengLetter c then .coengLetter
  else if c = '\u1a10' then .buginYa
  else if isTifinaghConsonant c then .tifinagh
  else if c = '\ua4fc' ∨ c = '\ua4fd' then .lisuTone
  else if c = Char.ofNat 0x10C03 then .orkhonI
  else if c = Char.ofNat 0x16D67 then .kiratRaiE
  else if c = Char.ofNat 0x16D68 then .kiratRaiAi
  else if isIndicator c then .indicator
  else if isTone c then .tone
  else if emojiPresentation.has c then .emoji
  else .other

/-- A character that stands alone: its own columns, and what it is for the character before it. -/
def aloneWidth (c : Char) : Int × Ahead :=
  let ahead := match c with
    | '\ufe01' => Ahead.plain.selectWideQuote
    | '\ufe0e' => Ahead.plain.selectText
    | '\ufe0f' => Ahead.plain.selectEmoji
    | c => .of (.ofChar c)
  (charWidth c, ahead)

/-- Columns that a character adds to the text after it, where the two are one sign. -/
def ligatureWidth (c : Char) (sign : Follower) : Option (Int × Follower) :=
  match sign with
  | .alef =>
    if isArabicLam c then some (0, .other)
    else if isBetweenLetters c then some (0, .alef)
    else none
  | .joinedLamed => if c = 'א' then some (0, .other) else none
  | .coengLetter => if c = '\u17d2' then some (-1, .other) else none
  | .joinedBuginYa => if c = '\u1a17' then some (0, .buginIYa) else none
  | .buginIYa => if c = '\u1a15' then some (0, .other) else none
  | .tifinagh => if c = '\u2d7f' then some (1, .tifinaghJoiner) else none
  | .joinedTifinagh =>
    if c = '\u2d7f' then some (1, .tifinaghJoiner)
    else if isTifinaghConsonant c then some (0, .other)
    else none
  | .tifinaghJoiner => if isTifinaghConsonant c then some (-1, .other) else none
  | .lisuTone => if 0xA4F8 ≤ c.toNat ∧ c.toNat ≤ 0xA4FB then some (0, .other) else none
  | .joinedOrkhonI => if c = Char.ofNat 0x10C32 then some (0, .other) else none
  | .kiratRaiE =>
    if c = Char.ofNat 0x16D63 ∨ c = Char.ofNat 0x16D69 then some (0, .other)
    else if c = Char.ofNat 0x16D67 then some (0, .kiratRaiAi)
    else if c = Char.ofNat 0x16D68 then some (1, .kiratRaiE)
    else none
  | .kiratRaiAi => if c = Char.ofNat 0x16D63 then some (0, .other) else none
  | _ => none

/-- The same for emoji with tones, joiners and tags. -/
def emojiWidth (c : Char) (sign : Follower) : Option (Int × Follower) :=
  match sign with
  | .tone =>
    if toneBases.has c then some (0, .emoji)
    else if c = joiner then some (0, .joinedEmoji)
    else none
  | .indicator => if isIndicator c then some (1, .indicators) else none
  | .indicators =>
    if isIndicator c then some (1, .indicators)
    else if c = joiner then some (0, .joinedEmoji)
    else none
  | .emoji => if c = joiner then some (0, .joinedEmoji) else none
  | .joinedEmoji =>
    if c = '\u20e3' then some (0, .joinedKeycap)
    else if isIndicator c then some (1, .joinedIndicator)
    else if isTone c then some (0, .tone)
    else if c = Char.ofNat 0xE007F then some (0, .joinedTagLetters 0)
    else if Follower.ofChar c = .emoji then some (0, .emoji)
    else none
  | .joinedIndicator => if isIndicator c then some (-1, .joinedEvenIndicators) else none
  | .joinedEvenIndicators =>
    if isIndicator c then some (3, .joinedOddIndicators)
    else if c = joiner then some (0, .joinedEmoji)
    else none
  | .joinedOddIndicators =>
    if isIndicator c then some (-1, .joinedEvenIndicators)
    else if c = joiner then some (0, .joinedEmoji)
    else none
  | .joinedTagLetters n =>
    if isTagLetter c ∧ n < 6 then some (0, .joinedTagLetters (n + 1))
    else if isTagDigit c ∧ n ≤ 4 then some (0, .joinedTagDigits 1)
    else if c = '🏴' ∧ 3 ≤ n then some (0, .emoji)
    else none
  | .joinedTagDigits n =>
    if isTagDigit c ∧ n < 3 then some (0, .joinedTagDigits (n + 1))
    else if c = '🏴' ∧ n = 3 then some (0, .emoji)
    else none
  | _ => none

def widthBefore (c : Char) (a : Ahead) : Int × Ahead :=
  if c = joiner ∧ a.sign.seenThroughMarks then (0, { a with sign := a.sign.joined })
  else if isInvisibleMark c ∧ a.sign.seenThroughMarks then (0, a)
  else
    match (ligatureWidth c a.sign).or (emojiWidth c a.sign) with
    | some (width, sign) => (width, .of sign)
    | none => aloneWidth c

/-- Columns that a character adds to what stands after it. -/
def addedWidth (c : Char) (a : Ahead) : Int × Ahead :=
  if a.emojiStyle ∧ styledBases.has c then
    (if a.sign = .joinedEmoji ∨ a.sign = .joinedKeycap then 0 else 2, .of .emoji)
  else
    let a := if a.emojiStyle then a.dropEmojiStyle else a
    if c = '\r' ∧ a.sign = .lineFeed then (0, .plain)
    else if c.toNat < 0xA1 then aloneWidth c
    else if c = '\ufe0f' then (0, a.selectEmoji)
    else if c = '\ufe0e' then (0, a.selectText)
    else if c = '\ufe01' then (0, a.selectWideQuote)
    else if a.textStyle ∧ narrowsAsText c then (1, .plain)
    else if a.wideQuote ∧ isCurlyQuote c then (2, .plain)
    else widthBefore c { a with textStyle := false, wideQuote := false }

def textWidth (cs : List Char) : Nat :=
  (cs.foldr (fun c (sum, ahead) =>
    let (width, ahead) := addedWidth c ahead
    (sum + width, ahead)) ((0 : Int), Ahead.plain)).1.toNat

end Timesheet.Text
