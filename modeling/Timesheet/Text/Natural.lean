import Timesheet.Text.LetterCase

/-!
Natural order of ticket keys: runs of digits compare by value, letters without case, so that `ABC-2`
comes before `abc-10`. Two texts are read side by side; where that tells no difference, they are
ordered by code point.
-/
namespace Timesheet.Text

/-- Lexicographic comparison; a proper beginning of a list comes before the list. -/
def lexCompare {α : Type} (cmp : α → α → Ordering) : List α → List α → Ordering
  | [], [] => .eq
  | [], _ :: _ => .lt
  | _ :: _, [] => .gt
  | a :: as, b :: bs => (cmp a b).then (lexCompare cmp as bs)

def compareCode (a b : Char) : Ordering := compare a.toNat b.toNat

def compareText : List Char → List Char → Ordering := lexCompare compareCode

/-- A run of digits without the zeros at its beginning. -/
def significant (run : List Char) : List Char := run.dropWhile (· == '0')

/-- Compares two runs of digits of any length: the one with more significant digits is larger, and
among equally many the first difference tells. -/
def compareRuns (m n : List Char) : Ordering :=
  (compare (significant m).length (significant n).length).then
    (compareText (significant m) (significant n))

/-- Reads two texts side by side. Two runs of digits are read whole, whatever their lengths, and of
all else one character each. -/
def compareParts : List Char → List Char → Ordering
  | [], [] => .eq
  | [], _ :: _ => .lt
  | _ :: _, [] => .gt
  | c :: cs, d :: ds =>
    if c.isDigit && d.isDigit then
      (compareRuns (c :: cs.takeWhile Char.isDigit) (d :: ds.takeWhile Char.isDigit)).then
        (compareParts (cs.dropWhile Char.isDigit) (ds.dropWhile Char.isDigit))
    else (compareText (lowerForm c) (lowerForm d)).then (compareParts cs ds)
termination_by cs => cs.length
decreasing_by
  · have := (cs.dropWhile_sublist Char.isDigit).length_le
    simp only [List.length_cons]
    omega
  · simp

def naturalCompare (a b : String) : Ordering :=
  (compareParts a.toList b.toList).then (compareText a.toList b.toList)

def naturalLE (a b : String) : Bool := naturalCompare a b != .gt

def naturalSort (keys : List String) : List String := keys.mergeSort naturalLE

end Timesheet.Text
