import Timesheet.Catalog
import Timesheet.Calendar.Date

/-!
Remote trackers: what is asked of one, what it answers, and how it fails.
-/
namespace Timesheet

inductive TrackerError where
  /-- The token was rejected. -/
  | unauthorized (detail : String)
  /-- The issue or work-log does not exist. -/
  | missing (resource : String)
  /-- Any other failure, with the texts of what caused it. -/
  | failed (text : String) (causes : List String)
deriving DecidableEq

namespace TrackerError

def message : TrackerError → String
  | unauthorized detail => "unauthorized: " ++ detail
  | missing resource => "resource not found: " ++ resource
  | failed text _ => text

def causes : TrackerError → List String
  | failed _ causes => causes
  | _ => []

end TrackerError

structure Issue where
  key : String
  summary : Option String
deriving DecidableEq

structure IssueDraft where
  summary : String
  description : String
deriving DecidableEq

structure WorklogDraft where
  day : Date
  start : Clock
  minutes : Int
  comment : String
deriving DecidableEq

inductive Request where
  | connect
  | search (query : String) (fields : List String) (limit : Nat)
  | createIssue (project : String) (draft : IssueDraft)
  | createWorklog (issue : String) (draft : WorklogDraft)
  | updateWorklog (issue worklog : String) (draft : WorklogDraft)
  | deleteWorklog (issue worklog : String)
  | subtickets (issue : String)
deriving DecidableEq

/-- What a successful request gives. -/
abbrev Request.Answer : Request → Type
  | connect => Unit
  | search .. => List Issue
  | createIssue .. => String
  | createWorklog .. => String
  | updateWorklog .. => Unit
  | deleteWorklog .. => Unit
  | subtickets _ => List String

/-- A ticket system, used with somebody's credentials. -/
structure Connection where
  id : SystemId
  system : TicketSystem
  token : AccessToken
deriving DecidableEq

/-- Any remote side: how requests are answered, depending on a state of its own. -/
abbrev Tracker (σ : Type) :=
  Connection → (request : Request) → StateM σ (Except TrackerError request.Answer)

end Timesheet
