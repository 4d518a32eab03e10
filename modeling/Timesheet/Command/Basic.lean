import Timesheet.Command.DateOptions
import Timesheet.Sync.Save

/-!
What can be asked of the program.
-/
namespace Timesheet

/-- When an entry ends: at a time of day, or so many minutes after its start. -/
inductive EntryEnd where
  | clock (t : Clock)
  | duration (minutes : Nat)
deriving DecidableEq

/-- The end of an entry that starts at `start`, which has to be before midnight. Seconds of the
start do not count. -/
def EntryEnd.resolve (e : EntryEnd) (start : Clock) : Option Clock :=
  match e with
  | clock t => some t
  | duration minutes => Clock.ofSeconds? ((start.hour * 60 + start.minute + minutes) * 60)

/-- Values of a new entry, apart from its day and its span. -/
structure EntryFields where
  project : ProjectId
  customer : Option CustomerId
  activity : Option ActivityId
  ticket : String
  description : String
deriving DecidableEq

def EntryFields.input (f : EntryFields) (day : Date) (start finish : Clock) : EntryInput :=
  { project := f.project, customer := f.customer, activity := f.activity, ticket := f.ticket
    description := f.description, day, start, finish }

inductive CustomerChange where
  | keep
  | clear
  | set (id : CustomerId)
deriving DecidableEq

/-- New values for an entry; what is left out stays. -/
structure EntryChange where
  start : Option Clock
  finish : Option Clock
  day : Option Date
  project : Option ProjectId
  customer : CustomerChange
  activity : Option ActivityId
  ticket : Option String
  description : Option String
deriving DecidableEq

def EntryChange.applyTo (c : EntryChange) (i : EntryInput) : EntryInput where
  start := c.start.getD i.start
  finish := c.finish.getD i.finish
  day := c.day.getD i.day
  project := c.project.getD i.project
  customer := match c.customer with
    | .keep => i.customer
    | .clear => none
    | .set id => some id
  activity := c.activity <|> i.activity
  ticket := c.ticket.getD i.ticket
  description := c.description.getD i.description

/-- A project to be created. Its lead is given by name, and its own name is asked for when it is
left out. -/
structure ProjectDraft where
  name : Option String
  customer : Option CustomerId
  system : Option SystemId
  prefixes : Option String
  internalKey : Option String
  internalSystem : Option SystemId
  lead : Option String
  mainTickets : Option String
deriving DecidableEq

inductive Command where
  | add (start : Clock) (finish : EntryEnd) (fields : EntryFields) (date : DateOptions)
  | edit (id : EntryId) (change : EntryChange)
  | delete (id : EntryId) (confirmed : Bool)
  | bulk (range : Sync.BulkRange) (start : Clock) (finish : EntryEnd) (fields : EntryFields)
  | showDay (date : DateOptions)
  | createProject (draft : ProjectDraft)
  | listProjects
  | setMainTickets (id : ProjectId) (keys : List String)
  | syncSubtickets (id : Option ProjectId)
  | setProjectActive (id : ProjectId) (active : Bool)
  | createSystem (system : TicketSystem)
  | listSystems
  | createUser (name : String)
  | listUsers
  | storeToken (system : SystemId) (user : Option String)
  | createCustomer (name : String)
  | listCustomers
  | createActivity (name : String)
  | listActivities
  /-- The settings are shown, or changed when there is a new value. -/
  | dataPath (new : Option String)
  | actingUser (new : Option String)
  | dayStart (new : Option Clock)
  | timeout (new : Option Nat)
  | resetConfig

end Timesheet
