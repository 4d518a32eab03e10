import Timesheet.Id
import Timesheet.Text.Keys
import Timesheet.Text.LetterCase

/-!
The people, ticket systems, customers, activities and projects that entries refer to.
-/
namespace Timesheet

structure User where
  name : String
deriving DecidableEq

/-- Credentials for one ticket system. With a secret they are a login and its password. -/
structure AccessToken where
  token : String
  secret : String
deriving DecidableEq

inductive SystemKind where
  | jira
  | otrs
deriving DecidableEq

namespace SystemKind

def name : SystemKind → String
  | jira => "JIRA"
  | otrs => "OTRS"

def supportsWorklogs : SystemKind → Bool
  | jira => true
  | otrs => false

/-- The kind of this name in any letter case, or else the capitals that name none. -/
def ofText (text : String) : Except String SystemKind :=
  let capitals := String.ofList (Text.upper text.toList)
  match [jira, otrs].find? (·.name == capitals) with
  | some kind => .ok kind
  | none => .error capitals

def refusal (capitals : String) : String := "Unknown ticket system kind \"" ++ capitals ++ "\""

end SystemKind

structure TicketSystem where
  name : String
  kind : SystemKind
  url : String
  bookTime : Bool
deriving DecidableEq

/-- Entries booked on this system have a work-log there. -/
def TicketSystem.booksWorklogs (s : TicketSystem) : Bool := s.bookTime && s.kind.supportsWorklogs

structure Customer where
  name : String
  active : Bool
deriving DecidableEq

structure Activity where
  name : String
deriving DecidableEq

/-- A project. Its lists of keys are comma lists. -/
structure Project where
  name : String
  active : Bool
  customer : Option CustomerId
  /-- Where work-logs are booked, unless an internal tracker is in charge. -/
  system : Option SystemId
  /-- Ticket prefixes that the project accepts. -/
  prefixes : Option String
  /-- Project key in the internal tracker. -/
  internalKey : Option String
  internalSystem : Option SystemId
  lead : Option UserId
  /-- Tickets whose sub-tickets belong to the project. -/
  mainTickets : Option String
  /-- Keys collected from the main tickets. -/
  subtickets : String
deriving DecidableEq

namespace Project

def blank (name : String) : Project :=
  { name, active := true, customer := none, system := none, prefixes := none, internalKey := none
    internalSystem := none, lead := none, mainTickets := none, subtickets := "" }

def mainTicketKeys (p : Project) : List String := Text.splitKeys (p.mainTickets.getD "")

def subticketKeys (p : Project) : List String := Text.splitKeys p.subtickets

def prefixList (p : Project) : List String := Text.splitKeys (p.prefixes.getD "")

/-- Key of the internal project without white space around it; tickets are managed there when it is
not blank. -/
def internalProjectKey (p : Project) : Option String :=
  (p.internalKey.map Text.trim).filter (· ≠ "")

def isSwept (p : Project) : Bool := p.active && (p.mainTickets.any (· ≠ ""))

end Project

end Timesheet
