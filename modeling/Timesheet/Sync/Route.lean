import Timesheet.Store.Catalog
import Timesheet.Sync.World

/-!
Which ticket system governs the entries of a project, and connections to it.
-/
namespace Timesheet

structure Route where
  id : SystemId
  system : TicketSystem
  /-- Project key in the internal tracker, when that one is in charge. -/
  internalKey : Option String
deriving DecidableEq

namespace Route

def books (r : Route) : Bool := r.system.booksWorklogs

/-- The internal tracker wins over the system of the project itself. -/
def ofProject (s : Store) (p : Project) : Except SyncError (Option Route) :=
  match p.internalProjectKey with
  | some key =>
    match p.internalSystem.bind fun id => (s.system? id).map fun system => (id, system) with
    | some (id, system) => .ok (some ⟨id, system, some key⟩)
    | none => .error (.noTicketSystem p.name)
  | none =>
    .ok (p.system.bind fun id => (s.system? id).map fun system => ⟨id, system, none⟩)

end Route

namespace Sync

variable {σ : Type}

def bookingRoute (p : Project) : Sync σ (Option Route) := do
  let route ← Route.ofProject (← store) p
  return route.filter (·.books)

def connect (tracker : Tracker σ) (user : UserId) (id : SystemId) (system : TicketSystem) :
    Sync σ Connection := do
  let s ← store
  match s.token? user id with
  | some token =>
    let connection : Connection := ⟨id, system, token⟩
    send tracker connection .connect
    return connection
  | none =>
    let name := ((s.user? user).map (·.name)).getD (toString user)
    throw (.missingToken name system.name)

end Sync

end Timesheet
