import Timesheet.Catalog
import Timesheet.Entry
import Timesheet.Store.Table

/-!
The stored data of a team, and what storage refuses.
-/
namespace Timesheet

/-- Columns in which no text occurs twice. -/
inductive UniqueColumn where
  | userName
  | systemName
  | activityName
deriving DecidableEq

def UniqueColumn.text : UniqueColumn → String
  | .userName => "users.username"
  | .systemName => "ticket_systems.name"
  | .activityName => "activities.name"

inductive StorageError where
  /-- The text occurs in the column already. -/
  | notUnique (column : UniqueColumn)
  /-- A reference to a row that does not exist. -/
  | noReferent
  /-- The class of a stored entry cannot be written. -/
  | frozen
  /-- The number stored for the class of an entry means no class. -/
  | unknownClass (code : Int)
deriving DecidableEq

/-- What is said of the failure, the outermost text first. -/
def StorageError.texts : StorageError → List String
  | .notUnique column => ["UNIQUE constraint failed: " ++ column.text]
  | .noReferent => ["FOREIGN KEY constraint failed"]
  | .frozen => ["classes are frozen"]
  | .unknownClass code =>
    ["Error deserializing field 'class'", "Unknown entry class " ++ toString code]

/-- A work-log that should be gone, but whose deletion the ticket system has not confirmed. -/
structure StaleWorklog where
  user : UserId
  system : SystemId
  ticket : String
  worklog : String
deriving DecidableEq

structure Grant where
  user : UserId
  system : SystemId
  token : AccessToken
deriving DecidableEq

structure Store where
  users : Table .user User
  systems : Table .system TicketSystem
  /-- At most one for a user and a system. -/
  grants : List Grant
  customers : Table .customer Customer
  activities : Table .activity Activity
  projects : Table .project Project
  entries : Table .entry StoredEntry
  stale : Table .stale StaleWorklog
  /-- Classes of stored entries cannot be written. -/
  frozen : Bool

namespace Store

def empty : Store :=
  { users := ∅, systems := ∅, grants := [], customers := ∅, activities := ∅, projects := ∅
    entries := ∅, stale := ∅, frozen := false }

end Store

end Timesheet
