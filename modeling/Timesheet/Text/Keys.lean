import Timesheet.Text.Blank

/-!
Lists of keys written in one text, with commas between them.
-/
namespace Timesheet.Text

def splitOnChar (sep : Char) : List Char → List (List Char)
  | [] => [[]]
  | c :: cs =>
    if c = sep then [] :: splitOnChar sep cs
    else
      match splitOnChar sep cs with
      | [] => [[c]]
      | piece :: rest => (c :: piece) :: rest

def joinOnChar (sep : Char) : List (List Char) → List Char
  | [] => []
  | [piece] => piece
  | piece :: rest => piece ++ sep :: joinOnChar sep rest

/-- The keys of a comma list: its pieces without white space around them, blank pieces left out. -/
def splitKeys (joined : String) : List String :=
  (((splitOnChar ',' joined.toList).map trimBlank).filter (· ≠ [])).map String.ofList

def joinKeys (keys : List String) : String :=
  String.ofList (joinOnChar ',' (keys.map String.toList))

end Timesheet.Text
