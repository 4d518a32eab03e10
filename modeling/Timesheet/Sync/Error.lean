import Timesheet.Store.Basic
import Timesheet.Tracker.Basic

/-!
Failures of the work on entries and tickets, and what is said of them.
-/
namespace Timesheet

inductive Rejection where
  | foreignEntry (id : EntryId)
  | closedProject (name : String)
  | unknownCustomer (id : CustomerId)
  | closedCustomer (name : String)
  | unknownActivity (id : ActivityId)
  | malformedTicket (ticket : String)
  | foreignTicket (ticket project : String)
  | reversedRange (first last : Date)
deriving DecidableEq

def quoted (text : String) : String := "\"" ++ text ++ "\""

def Rejection.message : Rejection → String
  | foreignEntry id => "Entry " ++ toString id ++ " belongs to another user"
  | closedProject name => "Project " ++ quoted name ++ " is no longer active"
  | unknownCustomer id => "Customer " ++ toString id ++ " doesn't exist"
  | closedCustomer name => "Customer " ++ quoted name ++ " is no longer active"
  | unknownActivity id => "Activity " ++ toString id ++ " doesn't exist"
  | malformedTicket ticket => quoted ticket ++ " is not a valid ticket key"
  | foreignTicket ticket project =>
    "Ticket " ++ quoted ticket ++ " doesn't belong to project " ++ quoted project
  | reversedRange first last =>
    "Range start " ++ first.text ++ " is after its end " ++ last.text

inductive SyncError where
  | projectNotFound (id : ProjectId)
  | entryNotFound (id : EntryId)
  | noTicketSystem (project : String)
  | projectLeadMissing (project : String)
  | missingToken (user system : String)
  | rejected (why : Rejection)
  | tracker (error : TrackerError)
  | storage (error : StorageError)
deriving DecidableEq

namespace SyncError

def message : SyncError → String
  | projectNotFound id => "project " ++ toString id ++ " doesn't exist"
  | entryNotFound id => "entry " ++ toString id ++ " doesn't exist"
  | noTicketSystem project => "no ticket system is configured for project " ++ quoted project
  | projectLeadMissing project => "project " ++ quoted project ++ " has no lead user"
  | missingToken user system =>
    "user " ++ quoted user ++ " has no access token for ticket system " ++ quoted system
  | rejected why => why.message
  | tracker error => error.message
  | storage _ => "storage error"

def causes : SyncError → List String
  | tracker error => error.causes
  | storage error => error.texts
  | _ => []

/-- Status in the manner of HTTP. -/
def status : SyncError → Nat
  | projectNotFound _ | entryNotFound _ => 404
  | noTicketSystem _ | projectLeadMissing _ => 400
  | missingToken .. => 401
  | rejected _ => 422
  | tracker (.unauthorized _) => 401
  | tracker (.missing _) => 404
  | tracker (.failed ..) => 502
  | storage _ => 500

/-- The user has to authorize with the ticket system before work-logs can be kept. -/
def needsAuthorization : SyncError → Bool
  | missingToken .. | tracker (.unauthorized _) => true
  | _ => false

def chain (e : SyncError) : String := ": ".intercalate (e.message :: e.causes)

end SyncError

/-- What was being done when a failure occurred that does not undo the local change. -/
inductive Phase where
  | sync
  | removal
  | reclassification
deriving DecidableEq

def Phase.text : Phase → String
  | sync => "work-log sync failed"
  | removal => "work-log removal failed"
  | reclassification => "reclassification failed"

/-- Something went wrong after the local change. -/
structure Alert where
  phase : Phase
  error : SyncError
deriving DecidableEq

namespace Alert

def reauthenticate (a : Alert) : Bool := a.error.needsAuthorization

def text (a : Alert) : String :=
  a.phase.text ++ ": " ++ a.error.chain ++
    if a.reauthenticate then "; store a new access token to resume work-log sync" else ""

end Alert

end Timesheet
