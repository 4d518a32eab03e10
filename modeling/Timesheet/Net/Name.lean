import Timesheet.Net.NameTable
import Timesheet.Net.Punycode
import Timesheet.Text.Direction
import Timesheet.Text.Joining
import Timesheet.Text.Keys
import Timesheet.Text.LetterCase
import Timesheet.Text.MarkTable

/-!
Names of hosts in all scripts. A name is read in the form that its characters stand for, and each of
its labels has to be one that can be told from others.
-/
namespace Timesheet.Net.Name

/-- Characters of ASCII that no name has. -/
def isForbidden (c : Char) : Bool :=
  c.toNat ≤ 0x20 || c == '\x7f' || "\"#%/:<>?@[\\]^\u0060\x7b|\x7d".toList.contains c

def tableForm? (c : Char) : Option (List Char) :=
  (formRows.find? fun r => r.first ≤ c.toNat && c.toNat ≤ r.last).bind fun r =>
    (Text.splitOnChar ' ' r.forms.toList)[c.toNat - r.first]?

/-- Cherokee letters, whose capital form is the one that counts. -/
def isCherokee (c : Char) : Bool := 0x13A0 ≤ c.toNat && c.toNat ≤ 0x13F5

/-- What a character stands for in a name, if a name can have it. -/
def form? (c : Char) : Option (List Char) :=
  if c.toNat < 0x80 then some [c.toLower]
  else if refusedInNames.has c then none
  else if ignoredInNames.has c then some []
  else
    match tableForm? c with
    | some form => some form
    | none => some (if isCherokee c then [c] else Text.lowerForm c)

/-- The form of a text in which its characters stand for themselves. -/
def plainForm? (cs : List Char) : Option (List Char) :=
  (cs.mapM form?).map fun forms => Text.composedForm forms.flatten

def isAscii (cs : List Char) : Bool := cs.all (·.toNat < 0x80)

/-- What a label in ASCII for one beyond ASCII begins with. -/
def asciiMark : List Char := "xn--".toList

/-- Longest label that is read from ASCII, and longest one that is written in ASCII. -/
def longestWritten : Nat := 2000
def longestRead : Nat := 1000

/-- The label that is meant: one in ASCII may stand for one beyond it, which then is in its plain
form. -/
def meantLabel? (label : List Char) : Option (List Char) :=
  if asciiMark.isPrefixOf label then
    if !isAscii label || longestWritten < label.length - asciiMark.length then none
    else
      match Punycode.decode? (label.drop asciiMark.length) with
      | none => none
      | some meant =>
        if !isAscii meant && meant.all (fun c => form? c = some [c]) &&
          Text.composedForm meant = meant
        then some meant else none
  else if !isAscii label && longestRead < label.length then none
  else some label

/-- A label does not begin with a mark, and its joiners have an effect. -/
def isLabel (label : List Char) : Bool :=
  !label.head?.any Text.combiningMarks.has && Text.joinersWork [] label

/-- The plain form of a name, if the text is one. A name of which a part runs from the right has to
keep each of its labels in one direction. -/
def parse? (cs : List Char) : Option (List Char) := do
  let name ← plainForm? cs
  if name.isEmpty || name.any isForbidden then none
  else
    let labels ← (Text.splitOnChar '.' name).mapM meantLabel?
    if !labels.all isLabel then none
    else if labels.any Text.hasRightToLeft && !labels.all Text.isOneDirection then none
    else some name

end Timesheet.Net.Name
