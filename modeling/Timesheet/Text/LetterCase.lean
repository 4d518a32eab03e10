import Timesheet.Text.LowerTable
import Timesheet.Text.UpperTable

/-!
Letter case of single characters. A form may have several characters; no context is looked at, so a
sigma has the same small form at the end of a word as elsewhere.
-/
namespace Timesheet.Text

/-- Form of `c` under the mapping that `spans` and `expansions` describe; `c` itself where they are
silent. -/
def caseForm (spans : List Span) (expansions : List (Nat × List Nat)) (c : Char) : List Char :=
  match expansions.find? (·.1 == c.toNat) with
  | some (_, form) => form.map Char.ofNat
  | none =>
    match spans.findSome? (·.image? c.toNat) with
    | some n => [Char.ofNat n]
    | none => [c]

def lowerForm (c : Char) : List Char :=
  if c.toNat < 0x80 then [c.toLower] else caseForm lowerSpans lowerExpansions c

def upperForm (c : Char) : List Char :=
  if c.toNat < 0x80 then [c.toUpper] else caseForm upperSpans upperExpansions c

def lower (cs : List Char) : List Char := cs.flatMap lowerForm

def upper (cs : List Char) : List Char := cs.flatMap upperForm

/-- Equality that ignores the case of the letters A to Z only. -/
def sameLetters (a b : String) : Bool :=
  a.toList.map Char.toLower == b.toList.map Char.toLower

end Timesheet.Text
