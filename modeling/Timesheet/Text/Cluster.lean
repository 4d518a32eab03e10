import Timesheet.Text.ClusterTable

/-!
Clusters: the shortest pieces of a text that a reader takes for single characters. A letter and its
accents are one cluster, and so are the letters of a Korean syllable, the consonants of an Indic
one, the two halves of a flag, and pictures that a joiner makes one. Main statement: the clusters
of a text, put together, are the text.
-/
namespace Timesheet.Text

namespace Cluster

inductive Kind where
  | returnKey
  | newline
  | control
  | mark
  | joiner
  | spacingMark
  | preposed
  | flagHalf
  /-- Consonants that begin a Korean syllable. -/
  | lead
  | vowel
  | tail
  /-- Korean syllables without and with a final consonant. -/
  | openSyllable
  | closedSyllable
  | picture
  | consonant
  | other
deriving DecidableEq

def koreanKind? (n : Nat) : Option Kind :=
  if (0x1100 ≤ n ∧ n ≤ 0x115F) ∨ (0xA960 ≤ n ∧ n ≤ 0xA97C) then some .lead
  else if (0x1160 ≤ n ∧ n ≤ 0x11A7) ∨ (0xD7B0 ≤ n ∧ n ≤ 0xD7C6) then some .vowel
  else if (0x11A8 ≤ n ∧ n ≤ 0x11FF) ∨ (0xD7CB ≤ n ∧ n ≤ 0xD7FB) then some .tail
  else if 0xAC00 ≤ n ∧ n ≤ 0xD7A3 then
    some (if (n - 0xAC00) % 28 = 0 then .openSyllable else .closedSyllable)
  else none

/-- Vowels of Kirat Rai, which combine like Korean ones. -/
def isKiratVowel (n : Nat) : Bool := n == 0x16D63 || (0x16D67 ≤ n && n ≤ 0x16D6A)

def Kind.of (c : Char) : Kind :=
  if c = '\r' then .returnKey
  else if c = '\n' then .newline
  else if c = '\u200D' then .joiner
  else if separators.has c then .control
  else if extenders.has c then .mark
  else if spacingMarks.has c then .spacingMark
  else if preposedSigns.has c then .preposed
  else if pictures.has c then .picture
  else if conjunctConsonants.has c then .consonant
  else if 0x1F1E6 ≤ c.toNat ∧ c.toNat ≤ 0x1F1FF then .flagHalf
  else if isKiratVowel c.toNat then .vowel
  else (koreanKind? c.toNat).getD .other

/-- What the characters so far mean for the next one. -/
structure Context where
  last : Kind
  /-- A picture and marks came last. -/
  afterPicture : Bool
  /-- A joiner came last, after a picture and marks. -/
  joinedPicture : Bool
  /-- A consonant and marks came last; whether a linker is among the marks. -/
  conjunct : Option Bool
  /-- An odd number of flag halves came last. -/
  halfFlag : Bool

namespace Context

def start : Context := ⟨.other, false, false, none, false⟩

def nextConjunct (conjunct : Option Bool) (c : Char) : Option Bool :=
  match Kind.of c with
  | .consonant => some false
  | .mark | .joiner =>
    if conjunctLinkers.has c then conjunct.map fun _ => true
    else if c = '\u200C' then none
    else conjunct
  | _ => none

def next (x : Context) (c : Char) : Context :=
  let kind := Kind.of c
  { last := kind
    afterPicture := kind = .picture || (kind = .mark && x.afterPicture)
    joinedPicture := kind = .joiner && x.afterPicture
    conjunct := nextConjunct x.conjunct c
    halfFlag := kind = .flagHalf && !x.halfFlag }

def takes (x : Context) (kind : Kind) : Bool :=
  match x.last, kind with
  | .returnKey, .newline => true
  | .returnKey, _ | .newline, _ | .control, _ => false
  | _, .returnKey | _, .newline | _, .control => false
  | _, .mark | _, .joiner | _, .spacingMark => true
  | .preposed, _ => true
  | .lead, .lead | .lead, .vowel | .lead, .openSyllable | .lead, .closedSyllable => true
  | .openSyllable, .vowel | .openSyllable, .tail | .vowel, .vowel | .vowel, .tail => true
  | .closedSyllable, .tail | .tail, .tail => true
  | _, .consonant => x.conjunct = some true
  | _, .picture => x.joinedPicture
  | _, .flagHalf => x.halfFlag
  | _, _ => false

end Context

end Cluster

open Cluster

/-- The clusters of a text of which the last characters, in reverse, begin the first one. -/
def clustersFrom (x : Context) (begun : List Char) : List Char → List (List Char)
  | [] => [begun.reverse]
  | c :: cs =>
    if x.takes (Kind.of c) then clustersFrom (x.next c) (c :: begun) cs
    else begun.reverse :: clustersFrom (x.next c) [c] cs

def clusters : List Char → List (List Char)
  | [] => []
  | c :: cs => clustersFrom (Context.start.next c) [c] cs

end Timesheet.Text
