import Timesheet.Text.Composition
import Timesheet.Text.JoiningTable

/-!
Joiners between letters: invisible characters that make letters join or keep them apart.
-/
namespace Timesheet.Text

def joiner : Char := '\u200d'

def nonJoiner : Char := '\u200c'

def vowelKiller : Nat := 9

def afterVowelKiller (before : List Char) : Bool :=
  before.head?.any fun c => markClass c = vowelKiller

/-- The next letter, when marks are passed over, is one of `letters`. -/
def reaches (letters : List Ranges) (cs : List Char) : Bool :=
  (cs.dropWhile joinsAcross.has).head?.any fun c => letters.any (·.has c)

/-- Letters on both sides would join without the non-joiner between them. -/
def keepsApart (before after : List Char) : Bool :=
  reaches [joinsLeft, joinsBoth] before && reaches [joinsRight, joinsBoth] after

/-- Every joiner changes how its neighbours look. `before` is the text before in reverse order. -/
def joinersWork (before : List Char) : List Char → Bool
  | [] => true
  | c :: after =>
    (if c = joiner then afterVowelKiller before
      else if c = nonJoiner then afterVowelKiller before || keepsApart before after
      else true) && joinersWork (c :: before) after

end Timesheet.Text
