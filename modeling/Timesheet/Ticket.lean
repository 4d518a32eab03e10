import Timesheet.Catalog

/-!
Ticket keys such as `ABC-12`, and which of them a project accepts.
-/
namespace Timesheet

namespace TicketKey

def isCapital (c : Char) : Bool := 'A' ≤ c && c ≤ 'Z'

def split? (cs : List Char) : Option (List Char × List Char) :=
  let number := (cs.reverse.takeWhile (· ≠ '-')).reverse
  match (cs.reverse.dropWhile (· ≠ '-')) with
  | _ :: stem => some (stem.reverse, number)
  | [] => none

/-- A capital, then capitals and digits. -/
def isStem : List Char → Bool
  | [] => false
  | c :: cs => isCapital c && cs.all fun d => isCapital d || d.isDigit

def isNumber (cs : List Char) : Bool := !cs.isEmpty && cs.all Char.isDigit

def isValid (ticket : String) : Bool :=
  match split? ticket.toList with
  | some (stem, number) => isStem stem && isNumber number
  | none => false

/-- The part before the last hyphen; all of a ticket without a hyphen. -/
def stem (ticket : String) : String :=
  match split? ticket.toList with
  | some (stem, _) => String.ofList stem
  | none => ticket

end TicketKey

/-- The project takes a ticket of the right form: it has no prefixes, or one of them fits, or the
ticket is a known sub-ticket. Projects that are managed internally take tickets of any tracker. -/
def Project.takes (p : Project) (ticket : String) : Bool :=
  p.internalProjectKey.isSome || p.prefixList.isEmpty ||
    p.prefixList.contains (TicketKey.stem ticket) || p.subticketKeys.contains ticket

end Timesheet
