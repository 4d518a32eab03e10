import Timesheet.Store.Basic

/-!
Statements on users, tokens, ticket systems, customers, activities and projects.
-/
namespace Timesheet.Store

def user? (s : Store) (id : UserId) : Option User := s.users.find? id

def userNamed? (s : Store) (name : String) : Option (UserId × User) :=
  s.users.rows.find? (·.2.name == name)

def createUser (name : String) (s : Store) : Except StorageError (UserId × Store) :=
  if s.users.any (·.name == name) then .error (.notUnique .userName)
  else .ok (s.users.nextId, { s with users := s.users.push ⟨name⟩ })

def system? (s : Store) (id : SystemId) : Option TicketSystem := s.systems.find? id

def createSystem (system : TicketSystem) (s : Store) : Except StorageError (SystemId × Store) :=
  if s.systems.any (·.name == system.name) then .error (.notUnique .systemName)
  else .ok (s.systems.nextId, { s with systems := s.systems.push system })

/-- The token that a user holds for a system. An empty token counts as none. -/
def token? (s : Store) (user : UserId) (system : SystemId) : Option AccessToken :=
  ((s.grants.find? fun g => g.user == user && g.system == system).map (·.token)).filter
    (·.token ≠ "")

def setToken (user : UserId) (system : SystemId) (token : AccessToken) (s : Store) :
    Except StorageError Store :=
  if s.users.contains user && s.systems.contains system then
    let others := s.grants.filter fun g => !(g.user == user && g.system == system)
    .ok { s with grants := others ++ [⟨user, system, token⟩] }
  else .error .noReferent

def customer? (s : Store) (id : CustomerId) : Option Customer := s.customers.find? id

def createCustomer (name : String) (s : Store) : CustomerId × Store :=
  (s.customers.nextId, { s with customers := s.customers.push ⟨name, true⟩ })

def setCustomerActive (id : CustomerId) (active : Bool) (s : Store) : Store :=
  { s with customers := s.customers.modify id fun c => { c with active } }

def activity? (s : Store) (id : ActivityId) : Option Activity := s.activities.find? id

def createActivity (name : String) (s : Store) : Except StorageError (ActivityId × Store) :=
  if s.activities.any (·.name == name) then .error (.notUnique .activityName)
  else .ok (s.activities.nextId, { s with activities := s.activities.push ⟨name⟩ })

def project? (s : Store) (id : ProjectId) : Option Project := s.projects.find? id

def allowsProject (s : Store) (p : Project) : Bool :=
  p.customer.all s.customers.contains && p.system.all s.systems.contains &&
    p.internalSystem.all s.systems.contains && p.lead.all s.users.contains

def createProject (p : Project) (s : Store) : Except StorageError (ProjectId × Store) :=
  if s.allowsProject p then .ok (s.projects.nextId, { s with projects := s.projects.push p })
  else .error .noReferent

/-- Writes all columns of the project `id`; without such a project nothing happens. -/
def saveProject (id : ProjectId) (p : Project) (s : Store) : Except StorageError Store :=
  if !s.projects.contains id then .ok s
  else if s.allowsProject p then
    .ok { s with projects := s.projects.modify id fun _ => p }
  else .error .noReferent

def sweptProjects (s : Store) : List (ProjectId × Project) := s.projects.filter (·.isSwept)

structure NoSuchProject where
  id : ProjectId
deriving DecidableEq

def NoSuchProject.message (e : NoSuchProject) : String :=
  "Project " ++ toString e.id ++ " doesn't exist"

def alterProject (id : ProjectId) (f : Project → Project) (s : Store) :
    Except NoSuchProject Store :=
  if s.projects.contains id then .ok { s with projects := s.projects.modify id f }
  else .error ⟨id⟩

def setProjectActive (id : ProjectId) (active : Bool) : Store → Except NoSuchProject Store :=
  alterProject id fun p => { p with active }

/-- Stores the comma list of the keys, and nothing in place of an empty one. -/
def setMainTickets (id : ProjectId) (keys : List String) : Store → Except NoSuchProject Store :=
  alterProject id fun p => { p with mainTickets := (some (Text.joinKeys keys)).filter (· ≠ "") }

end Timesheet.Store
