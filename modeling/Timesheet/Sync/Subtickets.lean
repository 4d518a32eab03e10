import Timesheet.Sync.Route
import Timesheet.Text.Natural

/-!
The tickets below the main tickets of a project, kept with the project.
-/
namespace Timesheet.Sync

variable {σ : Type}

/-- The main tickets, each followed by the tickets below it. -/
def gather (tracker : Tracker σ) (connection : Connection) : List String → Sync σ (List String)
  | [] => return []
  | main :: rest => do
    let children : List String ← send tracker connection (.subtickets main)
    return main :: children ++ (← gather tracker connection rest)

/-- Asks for the sub-tickets of a project, stores their keys in natural order and gives them. -/
def resolveSubtickets (tracker : Tracker σ) (id : ProjectId) : Sync σ (List String) := do
  let s ← store
  let some project := s.project? id | throw (.projectNotFound id)
  let some systemId := project.system | throw (.noTicketSystem project.name)
  let some system := s.system? systemId | throw (.noTicketSystem project.name)
  let mains := project.mainTicketKeys
  if mains.isEmpty then
    if project.subtickets ≠ "" then
      update (Store.saveProject id { project with subtickets := "" })
    return []
  let some lead := project.lead | throw (.projectLeadMissing project.name)
  let some user := s.user? lead | throw (.projectLeadMissing project.name)
  let some token := s.token? lead systemId | throw (.missingToken user.name system.name)
  let connection : Connection := ⟨systemId, system, token⟩
  send tracker connection .connect
  let keys := Text.naturalSort (← gather tracker connection mains)
  update (Store.saveProject id { project with subtickets := Text.joinKeys keys })
  return keys

structure Refresh where
  id : ProjectId
  project : Project
  result : Except SyncError (List String)

/-- Refreshes each of the projects; one that fails does not stop the others. -/
def refreshAll (tracker : Tracker σ) : List (ProjectId × Project) → Sync σ (List Refresh)
  | [] => return []
  | (id, project) :: rest => do
    let result ← attempt (resolveSubtickets tracker id)
    return ⟨id, project, result⟩ :: (← refreshAll tracker rest)

def refreshSubtickets (tracker : Tracker σ) : Sync σ (List Refresh) := do
  refreshAll tracker (← store).sweptProjects

end Timesheet.Sync
