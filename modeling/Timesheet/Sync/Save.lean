import Timesheet.Sync.Worklog
import Timesheet.Ticket

/-!
Saving and deleting entries. The local change always stands; what goes wrong on the remote side, or
afterwards, is reported as an alert.
-/
namespace Timesheet

structure EntryInput where
  project : ProjectId
  customer : Option CustomerId
  activity : Option ActivityId
  ticket : String
  description : String
  day : Date
  start : Clock
  finish : Clock
deriving DecidableEq

namespace EntryInput

def ofEntry {κ : Type} (e : Entry κ) : EntryInput :=
  { project := e.project, customer := e.customer, activity := e.activity, ticket := e.ticket
    description := e.description, day := e.day, start := e.start, finish := e.finish }

/-- A new entry of the user. It is taken for the first of its day until the day is classified. -/
def newEntry (i : EntryInput) (user : UserId) : TimeEntry :=
  let e : TimeEntry :=
    { user, project := i.project, customer := i.customer, activity := i.activity, day := i.day
      start := i.start, finish := i.finish, minutes := 0, kind := .dayStart
      ticket := Text.trim i.ticket, typed := none, worklog := none
      description := i.description }
  e.normalize

/-- The entry with these values. A newly typed ticket replaces whatever the internal tracker made of
the old one. -/
def applyTo (i : EntryInput) (e : TimeEntry) : TimeEntry :=
  let ticket := Text.trim i.ticket
  let typed := if ticket ≠ e.ticket ∧ e.typed ≠ some ticket then none else e.typed
  { e with
      project := i.project, customer := i.customer, activity := i.activity, ticket, typed
      description := i.description, day := i.day, start := i.start, finish := i.finish }.normalize

end EntryInput

/-- Whether the project takes the ticket; an empty text is no ticket. -/
def checkTicket (p : Project) (ticket : String) : Except Rejection Unit :=
  if ticket = "" then .ok ()
  else if !TicketKey.isValid ticket then .error (.malformedTicket ticket)
  else if p.takes ticket then .ok ()
  else .error (.foreignTicket ticket p.name)

def checkCustomer (s : Store) : Option CustomerId → Except Rejection Unit
  | none => .ok ()
  | some id =>
    match s.customer? id with
    | none => .error (.unknownCustomer id)
    | some c => if c.active then .ok () else .error (.closedCustomer c.name)

def checkActivity (s : Store) : Option ActivityId → Except Rejection Unit
  | none => .ok ()
  | some id => if (s.activity? id).isSome then .ok () else .error (.unknownActivity id)

def EntryInput.check (i : EntryInput) (s : Store) : Except SyncError Unit :=
  match s.project? i.project with
  | none => .error (.projectNotFound i.project)
  | some p =>
    Except.mapError SyncError.rejected do
      if !p.active then throw (.closedProject p.name)
      checkCustomer s i.customer
      checkActivity s i.activity
      checkTicket p (Text.trim i.ticket)

/-- A saved entry as it is stored, and what went wrong after it was stored. -/
structure Saved where
  id : EntryId
  entry : TimeEntry
  alert : Option Alert

namespace Sync

variable {σ : Type}

/-- The entry `id`, which has to be the user's. -/
def ownEntry (user : UserId) (id : EntryId) : Sync σ TimeEntry := do
  match ← query (·.entryAt id) with
  | none => throw (.entryNotFound id)
  | some e =>
    if e.user ≠ user then throw (.rejected (.foreignEntry id))
    return e

def alerting (phase : Phase) (work : Sync σ Unit) : Sync σ (Option Alert) := do
  match ← attempt work with
  | .ok _ => return none
  | .error e => return some ⟨phase, e⟩

def reclassify (user : UserId) (day : Date) : Sync σ Nat := do
  let (result, s) := (← store).reclassifyDay user day
  change fun _ => s
  match result with
  | .ok written => return written
  | .error e => throw (.storage e)

/-- Classifies a day anew; an earlier alert counts for more than a failure in this. -/
def alertingReclassify (user : UserId) (day : Date) (earlier : Option Alert) :
    Sync σ (Option Alert) := do
  let later ← alerting .reclassification do
    let _ ← reclassify user day
  return earlier <|> later

def storeEntry (user : UserId) (input : EntryInput) :
    Option (EntryId × TimeEntry) → Sync σ (EntryId × TimeEntry)
  | some (id, previous) => do
    let e := input.applyTo previous
    update (Store.saveEntry id e)
    return (id, e)
  | none => do
    let e := input.newEntry user
    return (← insert (Store.insertEntry e), e)

/-- The local part of a save: turns the input away or stores it. Gives the entry and, when it was
there already, the entry before. -/
def accept (user : UserId) (id : Option EntryId) (input : EntryInput) :
    Sync σ (EntryId × TimeEntry × Option TimeEntry) := do
  let previous ← match id with
    | none => pure none
    | some id => do pure (some (id, ← ownEntry user id))
  input.check (← store)
  let (id, e) ← storeEntry user input previous
  return (id, e, previous.map (·.2))

/-- Classifies the day of an entry anew, and the day that it was on before when that is another. -/
def alertingReclassifyDays (user : UserId) (e : TimeEntry) (previous : Option TimeEntry)
    (earlier : Option Alert) : Sync σ (Option Alert) := do
  let alert ← alertingReclassify user e.day earlier
  match previous with
  | none => return alert
  | some p => if p.day = e.day then return alert else alertingReclassify user p.day alert

def reload (id : EntryId) (alert : Option Alert) : Sync σ Saved := do
  match ← query (·.entryAt id) with
  | none => throw (.entryNotFound id)
  | some entry => return ⟨id, entry, alert⟩

/-- What follows the local part of a save: the work-log, and the classes of the days concerned. -/
def followUp (tracker : Tracker σ) (user : UserId) (id : EntryId) (e : TimeEntry)
    (previous : Option TimeEntry) : Sync σ Saved := do
  let alert ← alerting .sync ((reconcile tracker id previous).on e)
  let alert ← alertingReclassifyDays user e previous alert
  reload id alert

def save (tracker : Tracker σ) (user : UserId) (id : Option EntryId) (input : EntryInput) :
    Sync σ Saved := do
  let (id, e, previous) ← accept user id input
  followUp tracker user id e previous

/-- Deletes an entry of the user, first its work-log when that is possible. -/
def delete (tracker : Tracker σ) (user : UserId) (id : EntryId) : Sync σ (Option Alert) := do
  let e ← ownEntry user id
  let alert ← alerting .removal (removeWorklog tracker e)
  change (Store.eraseEntry id)
  alertingReclassify user e.day alert

structure BulkRange where
  first : Date
  last : Date
  skipWeekends : Bool

/-- The days of the range, without Saturdays and Sundays where these are skipped. -/
def BulkRange.days (r : BulkRange) : List Date :=
  (Date.upTo r.last r.first).filter fun d => !(r.skipWeekends && d.weekday.isWeekend)

def bulkCreate (tracker : Tracker σ) (user : UserId) (template : EntryInput) (range : BulkRange) :
    Sync σ (List Saved) := do
  if range.last < range.first then throw (.rejected (.reversedRange range.first range.last))
  range.days.mapM fun day => save tracker user none { template with day }

end Sync

end Timesheet
