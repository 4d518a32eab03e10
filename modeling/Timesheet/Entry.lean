import Timesheet.Calendar.Date
import Timesheet.Id

/-!
Time entries, and how the entries of a day relate to each other.
-/
namespace Timesheet

/-- Position of an entry relative to the one before it on the same day. -/
inductive EntryClass where
  /-- Starts where the entry before ended. -/
  | plain
  /-- First entry of the day. -/
  | dayStart
  /-- Starts after the entry before ended. -/
  | pause
  /-- Starts before the entry before ended. -/
  | overlap
deriving DecidableEq

namespace EntryClass

def code : EntryClass → Int
  | plain => 1
  | dayStart => 2
  | pause => 4
  | overlap => 8

def ofCode? (n : Int) : Option EntryClass := [plain, dayStart, pause, overlap].find? (·.code == n)

@[simp] theorem ofCode?_code (c : EntryClass) : ofCode? c.code = some c := by
  cases c <;> rfl

def label : EntryClass → String
  | plain => "plain"
  | dayStart => "day start"
  | pause => "pause"
  | overlap => "overlap"

end EntryClass

/-- Time that a user spent on a project, with its class given as a `κ`. -/
structure Entry (κ : Type) where
  user : UserId
  project : ProjectId
  customer : Option CustomerId
  activity : Option ActivityId
  day : Date
  start : Clock
  finish : Clock
  minutes : Int
  kind : κ
  ticket : String
  /-- Ticket as typed, before an internal tracker replaced it. -/
  typed : Option String
  worklog : Option String
  description : String
deriving DecidableEq

/-- An entry as it is stored, with a number for its class. -/
abbrev StoredEntry := Entry Int

abbrev TimeEntry := Entry EntryClass

namespace Entry

def withKind {κ μ : Type} (e : Entry κ) (kind : μ) : Entry μ := { e with kind }

/-- The entry runs forward and its minutes are those between its ends. -/
def Normal {κ : Type} (e : Entry κ) : Prop :=
  e.start ≤ e.finish ∧ e.minutes = spanMinutes e.start e.finish

def normalize {κ : Type} (e : Entry κ) : Entry κ :=
  let (start, finish) := if e.finish < e.start then (e.finish, e.start) else (e.start, e.finish)
  { e with start, finish, minutes := spanMinutes start finish }

end Entry

/-- Class of a span that starts at `start`, when the one before it ended at `before`. -/
def classAfter (before start : Clock) : EntryClass :=
  if before < start then .pause else if start < before then .overlap else .plain

def classesAfter (before : Clock) : List (Clock × Clock) → List EntryClass
  | [] => []
  | (start, finish) :: rest => classAfter before start :: classesAfter finish rest

/-- Classes of the spans of a day, which are given in order of their starts. -/
def classify : List (Clock × Clock) → List EntryClass
  | [] => []
  | (_, finish) :: rest => .dayStart :: classesAfter finish rest

@[simp] theorem length_classesAfter (before : Clock) (spans : List (Clock × Clock)) :
    (classesAfter before spans).length = spans.length := by
  induction spans generalizing before with
  | nil => rfl
  | cons s rest ih => simp [classesAfter, ih]

@[simp] theorem length_classify (spans : List (Clock × Clock)) :
    (classify spans).length = spans.length := by
  cases spans with
  | nil => rfl
  | cons s rest => simp [classify]

end Timesheet
