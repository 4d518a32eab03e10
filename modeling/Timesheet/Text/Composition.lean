import Timesheet.Text.CompositionTable

/-!
The composed form of a text: marks are in a fixed order, and a character with a mark is one
character where there is one for the two. Texts that look alike have one composed form. Characters that only
stand for others are left as they are: who composes a text replaces them first.
-/
namespace Timesheet.Text

def markClass (c : Char) : Nat :=
  ((markClasses.find? fun r => r.first ≤ c.toNat && c.toNat ≤ r.last).map (·.order)).getD 0

/-- Korean syllables are numbered from here, by the vowel and the ending after each of nineteen
first consonants. -/
def firstSyllable : Nat := 0xAC00
def vowelCount : Nat := 21
/-- One more than there are endings, for syllables without. -/
def endingCount : Nat := 28

/-- Number of `c` from `first` on, when it is one of `count`. -/
def numberFrom? (first count : Nat) (c : Char) : Option Nat :=
  if first ≤ c.toNat ∧ c.toNat < first + count then some (c.toNat - first) else none

def consonant? : Char → Option Nat := numberFrom? 0x1100 19
def vowel? : Char → Option Nat := numberFrom? 0x1161 vowelCount

/-- Endings count from one. -/
def ending? (c : Char) : Option Nat := (numberFrom? 0x11A8 27 c).map (· + 1)

def syllable? : Char → Option Nat := numberFrom? firstSyllable (19 * vowelCount * endingCount)

/-- The syllable of a consonant and a vowel, or of a syllable without ending and an ending. -/
def composedSyllable? (first second : Char) : Option Char :=
  match consonant? first, vowel? second, syllable? first, ending? second with
  | some c, some v, _, _ => some (Char.ofNat (firstSyllable + (c * vowelCount + v) * endingCount))
  | _, _, some n, some e =>
    if n % endingCount = 0 then some (Char.ofNat (firstSyllable + n + e)) else none
  | _, _, _, _ => none

def decomposedSyllable (n : Nat) : List Char :=
  let open_ := [Char.ofNat (0x1100 + n / (vowelCount * endingCount)),
    Char.ofNat (0x1161 + n / endingCount % vowelCount)]
  if n % endingCount = 0 then open_ else open_ ++ [Char.ofNat (0x11A7 + n % endingCount)]

def partner? (first : Char) : List Char → Option Char
  | a :: b :: rest => if a = first then some b else partner? first rest
  | _ => none

def partOf? (whole : Char) : List Char → Option Char
  | a :: b :: rest => if b = whole then some a else partOf? whole rest
  | _ => none

def composed? (first second : Char) : Option Char :=
  (composedSyllable? first second).or
    (compositionRows.findSome? fun r =>
      if r.second = second.toNat then partner? first r.pairs.toList else none)

def parts? (whole : Char) : Option (Char × Char) :=
  compositionRows.findSome? fun r =>
    (partOf? whole r.pairs.toList).map fun first => (first, Char.ofNat r.second)

/-- A character without its marks, and the marks. No character has more than `depth` of them. -/
def decomposed (depth : Nat) (c : Char) : List Char :=
  match syllable? c, depth with
  | some n, _ => decomposedSyllable n
  | none, 0 => [c]
  | none, depth + 1 =>
    match parts? c with
    | some (first, second) => decomposed depth first ++ [second]
    | none => [c]

def deepest : Nat := 4

/-- Puts a mark among the marks before it, after those of its own class. The marks are in reverse
order. -/
def insertMark (m : Char) : List Char → List Char
  | [] => [m]
  | x :: rest =>
    if markClass m < markClass x then x :: insertMark m rest else m :: x :: rest

/-- Sorts every row of marks by class; `marks` is the row so far, in reverse order. -/
def orderMarks (marks : List Char) : List Char → List Char
  | [] => marks.reverse
  | c :: cs =>
    if markClass c = 0 then marks.reverse ++ c :: orderMarks [] cs
    else orderMarks (insertMark c marks) cs

/-- Composes a character with what follows it. `kept` are the marks in between that did not go
together with it, in reverse order; a mark of the same class, and a character that is no mark, stand
in the way of what comes after them. -/
def composeOnto (base : Char) (kept : List Char) : List Char → List Char
  | [] => base :: kept.reverse
  | c :: cs =>
    let free := kept.head?.all fun k => markClass k < markClass c
    match if free then composed? base c else none with
    | some whole => composeOnto whole kept cs
    | none =>
      if markClass c = 0 then base :: kept.reverse ++ composeOnto c [] cs
      else composeOnto base (c :: kept) cs

def composeAll : List Char → List Char
  | [] => []
  | c :: cs => if markClass c = 0 then composeOnto c [] cs else c :: composeAll cs

def composedForm (cs : List Char) : List Char :=
  if cs.all fun c => c.toNat < 0x80 then cs
  else composeAll (orderMarks [] (cs.flatMap (decomposed deepest)))

end Timesheet.Text
