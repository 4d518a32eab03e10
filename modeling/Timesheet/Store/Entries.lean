import Timesheet.Store.Basic

/-!
Statements on entries. Entries of a day come in the order of their starts; those that start together
keep the order in which they were added.
-/
namespace Timesheet

def Entry.read (e : StoredEntry) : Except StorageError TimeEntry :=
  match EntryClass.ofCode? e.kind with
  | some kind => .ok (e.withKind kind)
  | none => .error (.unknownClass e.kind)

def Entry.stored (e : TimeEntry) : StoredEntry := e.withKind e.kind.code

@[simp] theorem Entry.read_stored (e : TimeEntry) : e.stored.read = .ok e := by
  simp [Entry.read, Entry.stored, Entry.withKind]

namespace Store

def readRow (row : EntryId × StoredEntry) : Except StorageError (EntryId × TimeEntry) :=
  row.2.read.map fun e => (row.1, e)

def entryAt (s : Store) (id : EntryId) : Except StorageError (Option TimeEntry) :=
  match s.entries.find? id with
  | none => .ok none
  | some e => e.read.map some

def allowsEntry {κ : Type} (s : Store) (e : Entry κ) : Bool :=
  s.users.contains e.user && s.projects.contains e.project &&
    e.customer.all s.customers.contains && e.activity.all s.activities.contains

def insertEntry (e : TimeEntry) (s : Store) : Except StorageError (EntryId × Store) :=
  if s.allowsEntry e then
    .ok (s.entries.nextId, { s with entries := s.entries.push e.stored })
  else .error .noReferent

/-- Writes all columns of the entry `id`; without such an entry nothing happens. -/
def saveEntry (id : EntryId) (e : TimeEntry) (s : Store) : Except StorageError Store :=
  if !s.entries.contains id then .ok s
  else if s.frozen then .error .frozen
  else if s.allowsEntry e then
    .ok { s with entries := s.entries.modify id fun _ => e.stored }
  else .error .noReferent

def saveCode (id : EntryId) (code : Int) (s : Store) : Except StorageError Store :=
  if !s.entries.contains id then .ok s
  else if s.frozen then .error .frozen
  else .ok { s with entries := s.entries.modify id fun e => { e with kind := code } }

def saveClass (id : EntryId) (kind : EntryClass) : Store → Except StorageError Store :=
  saveCode id kind.code

def eraseEntry (id : EntryId) (s : Store) : Store := { s with entries := s.entries.erase id }

/-- Puts a row in front of those that do not start earlier. -/
def insertByStart (row : EntryId × StoredEntry) :
    List (EntryId × StoredEntry) → List (EntryId × StoredEntry)
  | [] => [row]
  | other :: rest =>
    if row.2.start ≤ other.2.start then row :: other :: rest
    else other :: insertByStart row rest

def dayRows (s : Store) (user : UserId) (day : Date) : List (EntryId × StoredEntry) :=
  (s.entries.filter fun e => e.user == user && e.day == day).foldr insertByStart []

def dayEntries (s : Store) (user : UserId) (day : Date) :
    Except StorageError (List (EntryId × TimeEntry)) :=
  (s.dayRows user day).mapM readRow

def allEntries (s : Store) : Except StorageError (List (EntryId × TimeEntry)) :=
  s.entries.rows.mapM readRow

def span {κ : Type} (e : Entry κ) : Clock × Clock := (e.start, e.finish)

/-- Classes that the entries of a day ought to have, each under its identifier, where a different
one is stored. -/
def classChanges (day : List (EntryId × TimeEntry)) : List (EntryId × EntryClass) :=
  ((day.zip (classify (day.map fun r => span r.2))).filter fun (r, kind) => r.2.kind ≠ kind).map
    fun (r, kind) => (r.1, kind)

/-- Stores the right classes of a user's day. Gives the number of entries written. A failure stops
halfway; what was written before it stays. -/
def reclassifyDay (user : UserId) (day : Date) (s : Store) : Except StorageError Nat × Store :=
  match s.dayEntries user day with
  | .error e => (.error e, s)
  | .ok entries => writeAll (classChanges entries) 0 s
where
  writeAll : List (EntryId × EntryClass) → Nat → Store → Except StorageError Nat × Store
    | [], written, s => (.ok written, s)
    | (id, kind) :: rest, written, s =>
      match s.saveClass id kind with
      | .error e => (.error e, s)
      | .ok s' => writeAll rest (written + 1) s'

end Store

end Timesheet
