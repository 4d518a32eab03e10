import Timesheet.Sync.Save
import Timesheet.Sync.Subtickets

/-!
Histories: what users do to their entries, one action after the other, with changes of the catalog
in between. Nothing is undone when an action fails; the history goes on from where it stopped.
-/
namespace Timesheet

inductive Action where
  | save (id : Option EntryId) (input : EntryInput)
  | delete (id : EntryId)
  | bulk (template : EntryInput) (range : Sync.BulkRange)

/-- An action, the user who performs it, and the tracker that answers meanwhile. -/
structure Call (σ : Type) where
  tracker : Tracker σ
  user : UserId
  action : Action

/-- Statements that change users, tokens, ticket systems, customers, activities or projects. No
command marks a customer as active or not; that is set in the store. -/
inductive CatalogChange where
  | user (name : String)
  | system (system : TicketSystem)
  | token (user : UserId) (system : SystemId) (token : AccessToken)
  | customer (name : String)
  | customerActive (id : CustomerId) (active : Bool)
  | activity (name : String)
  | project (project : Project)
  | saveProject (id : ProjectId) (project : Project)
  | projectActive (id : ProjectId) (active : Bool)
  | mainTickets (id : ProjectId) (keys : List String)

/-- The store after the statement; one that is refused leaves the store as it is. -/
def CatalogChange.apply (change : CatalogChange) (s : Store) : Store :=
  match change with
  | .user name => created (s.createUser name)
  | .system added => created (s.createSystem added)
  | .token holder target secret => changed (s.setToken holder target secret)
  | .customer name => (s.createCustomer name).2
  | .customerActive id active => s.setCustomerActive id active
  | .activity name => created (s.createActivity name)
  | .project added => created (s.createProject added)
  | .saveProject id values => changed (s.saveProject id values)
  | .projectActive id active => changed (s.setProjectActive id active)
  | .mainTickets id keys => changed (s.setMainTickets id keys)
where
  changed {ε : Type} (result : Except ε Store) : Store := result.toOption.getD s
  created {ε α : Type} (result : Except ε (α × Store)) : Store := changed (result.map (·.2))

inductive Event (σ : Type) where
  | call (call : Call σ)
  | catalog (change : CatalogChange)
  /-- The sub-tickets of one project are collected anew. -/
  | refresh (tracker : Tracker σ) (project : ProjectId)
  /-- The sub-tickets of all projects with main tickets are collected anew. -/
  | sweep (tracker : Tracker σ)

variable {σ : Type}

/-- The work of a call. What it gives besides the changes of the world is left out. -/
def Call.work (c : Call σ) : Sync σ Unit :=
  match c.action with
  | .save id input => discard (Sync.save c.tracker c.user id input)
  | .delete id => discard (Sync.delete c.tracker c.user id)
  | .bulk template range => discard (Sync.bulkCreate c.tracker c.user template range)

namespace World

def next (w : World σ) : Event σ → World σ
  | .call c => (Sync.outcome c.work w).2
  | .catalog change => { w with store := change.apply w.store }
  | .refresh tracker project => (Sync.outcome (Sync.resolveSubtickets tracker project) w).2
  | .sweep tracker => (Sync.outcome (Sync.refreshSubtickets tracker) w).2

/-- The world after events, the earliest of which comes first. -/
def after (w : World σ) (events : List (Event σ)) : World σ := events.foldl next w

end World

end Timesheet
