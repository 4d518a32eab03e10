import Timesheet.Text.Keys

/-!
Where a file is: the names on the way to it.
-/
namespace Timesheet

/-- The names on the way from the folder in which the program runs. A slash as the first name
stands for the root of all folders. -/
abbrev Location := List String

namespace Location

def root : Location := ["/"]

/-- The names in a path. Empty names and single points lead nowhere. -/
def ofText (path : String) : Location :=
  let names := (Text.splitOnChar '/' path.toList).map String.ofList
  let way := names.filter fun name => name ≠ "" && name ≠ "."
  if path.toList.head? = some '/' then root ++ way else way

def text (l : Location) : String :=
  if l = root then "/"
  else if l.head? = some "/" then "/" ++ "/".intercalate l.tail
  else "/".intercalate l

/-- One folder up; nothing is above the root. -/
def up (l : Location) : Location := if l = root then l else l.dropLast

def enter (l : Location) (name : String) : Location := if name = ".." then l.up else l ++ [name]

/-- The same place without steps up, as long as all folders on the way exist. -/
def straight (l : Location) : Location := l.foldl enter []

def parent? (l : Location) : Option Location := if l = [] ∨ l = root then none else some l.dropLast

end Location

end Timesheet
