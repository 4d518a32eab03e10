import Timesheet.Text.DirectionTable

/-!
Directions of writing: whether a word of a name reads the same on a line that runs from the left as
on one that runs from the right.
-/
namespace Timesheet.Text

inductive Direction
  | leftToRight
  | rightToLeft
  | europeanNumber
  | arabicNumber
  | neutral
  /-- As what the mark follows. -/
  | mark
deriving DecidableEq

def direction (c : Char) : Direction :=
  if rightToLeft.has c then .rightToLeft
  else if europeanNumbers.has c then .europeanNumber
  else if arabicNumbers.has c then .arabicNumber
  else if followingMarks.has c then .mark
  else if neutralSigns.has c then .neutral
  else .leftToRight

/-- Something in the text runs from the right. -/
def hasRightToLeft (cs : List Char) : Bool :=
  cs.any fun c => direction c = .rightToLeft ∨ direction c = .arabicNumber

def lastDirection? (ds : List Direction) : Option Direction :=
  ds.reverse.find? (· ≠ .mark)

/-- A word begins with a letter, ends with a letter or number, and has no letters of the other
direction; numbers of the two kinds do not meet where the word runs from the right. -/
def isOneDirection (cs : List Char) : Bool :=
  let ds := cs.map direction
  match ds.head? with
  | none => true
  | some .rightToLeft =>
    !ds.contains .leftToRight &&
      (lastDirection? ds).any ([.rightToLeft, .europeanNumber, .arabicNumber].contains ·) &&
      !(ds.contains .europeanNumber && ds.contains .arabicNumber)
  | some .leftToRight =>
    !ds.contains .rightToLeft && !ds.contains .arabicNumber &&
      (lastDirection? ds).any ([.leftToRight, .europeanNumber].contains ·)
  | some _ => false

end Timesheet.Text
