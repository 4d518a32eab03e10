import Timesheet.Store.Entries
import Timesheet.Store.Stale
import Timesheet.Sync.Route

/-!
Keeping remote work-logs in line with entries.

A work-log that has to go is recorded as a pending deletion before the request to delete it is sent,
and stays recorded until the tracker confirms that it is gone. Nothing is booked for a user while
one of their deletions is pending.
-/
namespace Timesheet.Sync

variable {σ : Type}

def deletePending (tracker : Tracker σ) (id : StaleId) (w : StaleWorklog) : Sync σ Unit := do
  match (← store).system? w.system with
  | none => pure ()
  | some system =>
    let connection ← connect tracker w.user w.system system
    match ← ask tracker connection (.deleteWorklog w.ticket w.worklog) with
    | .ok _ | .error (.missing _) => pure ()
    | .error e => throw (.tracker e)
  change (Store.forgetStale id)

/-- Sends the pending deletions one after the other, also after failures. Gives the first failure.
-/
def deleteAll (tracker : Tracker σ) :
    List (StaleId × StaleWorklog) → Sync σ (Option SyncError)
  | [] => return none
  | (id, w) :: rest => do
    let first ← attempt (deletePending tracker id w)
    let later ← deleteAll tracker rest
    match first with
    | .ok _ => return later
    | .error e => return some e

/-- Sends every pending deletion of the user once and then fails if one of them failed. -/
def retryPending (tracker : Tracker σ) (user : UserId) : Sync σ Unit := do
  match ← deleteAll tracker ((← store).pendingOf user) with
  | none => return
  | some e => throw e

/-- Deletes the work-log of an entry in the ticket system of the entry's own project. -/
def removeWorklog (tracker : Tracker σ) (e : TimeEntry) : Sync σ Unit := do
  let some worklog := e.worklog | return
  if e.ticket = "" then return
  let some project := (← store).project? e.project | return
  let some route ← bookingRoute project | return
  update (Store.recordStale ⟨e.user, route.id, e.ticket, worklog⟩)
  retryPending tracker e.user

def draft (s : Store) (id : EntryId) (e : TimeEntry) : WorklogDraft :=
  let activity := (e.activity.bind s.activity?).elim "" fun a => a.name ++ ": "
  { day := e.day, start := e.start, minutes := e.minutes
    comment := "#" ++ toString id ++ ": " ++ activity ++ e.description }

/-- Writes the work-log of an entry and gives its identifier. One that has vanished is created
anew. -/
def writeWorklog (tracker : Tracker σ) (connection : Connection) (e : TimeEntry)
    (content : WorklogDraft) : Sync σ String := do
  match e.worklog with
  | none => send tracker connection (.createWorklog e.ticket content)
  | some worklog =>
    match ← ask tracker connection (.updateWorklog e.ticket worklog content) with
    | .ok _ => return worklog
    | .error (.missing _) => send tracker connection (.createWorklog e.ticket content)
    | .error error => throw (.tracker error)

/-- The ticket changed, and not merely because the internal tracker replaced the typed one. -/
def movedToOtherTicket (current previous : TimeEntry) : Bool :=
  current.ticket ≠ previous.ticket && current.typed ≠ some current.ticket

/-- Ticket by which the internal tracker is searched: the typed one. -/
def identifier (e : TimeEntry) : String := (e.typed.filter (· ≠ "")).getD e.ticket

/-- At most this many issues of the internal tracker are looked at. -/
def internalSearchLimit : Nat := 50

/-- Finds the issues of an internal project with `summary` in their summaries. -/
def internalQuery (project summary : String) : String :=
  let escaped := summary.toList.flatMap fun c => if c = '"' then ['\\', '"'] else [c]
  "project = " ++ project ++ " AND summary ~ \"" ++ String.ofList escaped ++ "\""

/-- The issue whose summary is `summary`, white space around it and the case of letters aside. -/
def issueOf (summary : String) (issues : List Issue) : Option Issue :=
  issues.find? fun i => i.summary.any fun s => Text.sameLetters (Text.trim s) summary

/-- Work on one entry, of which a copy is kept that may be ahead of the stored entry. The copy
outlives a failure. -/
abbrev Working (σ : Type) := ExceptT SyncError (StateT TimeEntry (StateM (World σ)))

namespace Working

def lift {α : Type} (work : Sync σ α) : Working σ α :=
  ExceptT.mk (StateT.lift work.run)

/-- Does the work on the copy `e` and lets go of the copy. -/
def on {α : Type} (work : Working σ α) (e : TimeEntry) : Sync σ α :=
  ExceptT.mk ((·.1) <$> work.run.run e)

def save (id : EntryId) : Working σ Unit := do
  let e ← get
  lift (update (Store.saveEntry id e))

end Working

/-- Key of the internal issue for `summary`, which is opened if there is none. -/
def internalIssue (tracker : Tracker σ) (connection : Connection) (project : String)
    (draft : IssueDraft) : Sync σ String := do
  let found ← send tracker connection
    (.search (internalQuery project draft.summary) ["key", "summary"] internalSearchLimit)
  match issueOf draft.summary found with
  | some issue => return issue.key
  | none => send tracker connection (.createIssue project draft)

/-- Replaces the ticket of the copy by that of the internal tracker, where the project `key` is in
charge. -/
def resolveInternal (tracker : Tracker σ) (id : EntryId) (route : Route) (key : String) :
    Working σ Unit := do
  let e ← get
  let summary := identifier e
  if summary = "" then return
  let ticket ← Working.lift do
    let connection ← connect tracker e.user route.id route.system
    internalIssue tracker connection key ⟨summary, e.description⟩
  set { e with typed := some summary, ticket }
  Working.save id

/-- Takes the work-log away from a copy whose entry moved to another ticket. -/
def leaveTicket (tracker : Tracker σ) (id : EntryId) (previous : TimeEntry) : Working σ Unit := do
  let e ← get
  if movedToOtherTicket e previous then
    let removed ← Working.lift (attempt (removeWorklog tracker previous))
    -- After a failure the deletion is pending, so the work-log is no longer the entry's.
    if e.worklog.isSome then
      set { e with worklog := none }
      Working.save id
    removed

def book (tracker : Tracker σ) (id : EntryId) (route : Route) : Working σ Unit := do
  let e ← get
  if e.ticket = "" then return
  let worklog ← Working.lift do
    let connection ← connect tracker e.user route.id route.system
    writeWorklog tracker connection e (draft (← store) id e)
  if e.worklog ≠ some worklog then
    set { e with worklog := some worklog }
    Working.save id

/-- What comes before any booking of the entry `id`: the pending deletions of the user, the route of
the project, and the ticket of the internal tracker where that one is in charge. Gives the route. -/
def settle (tracker : Tracker σ) (id : EntryId) : Working σ (Option Route) := do
  let e ← get
  let route ← Working.lift do
    retryPending tracker e.user
    let some project := (← store).project? e.project | throw (.projectNotFound e.project)
    bookingRoute project
  if let some r := route then
    if let some key := r.internalKey then resolveInternal tracker id r key
  return route

/-- Brings the work-log of the entry `id` up to date. `previous` is the entry before it was changed;
a new entry has none. -/
def reconcile (tracker : Tracker σ) (id : EntryId) (previous : Option TimeEntry) :
    Working σ Unit := do
  let route ← settle tracker id
  if let some p := previous then leaveTicket tracker id p
  if let some r := route then book tracker id r

end Timesheet.Sync
