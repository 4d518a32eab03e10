import Timesheet.Calendar.Typed
import Timesheet.Json.Fields
import Timesheet.Store.Basic
import Timesheet.Text.Integer

/-!
A store as a JSON document. A table is an array of rows, and a row an array of its identifier and
its columns. That classes cannot be written is not part of the document.
-/
namespace Timesheet.Store

open Json (asText)

def orNull {α : Type} (write : α → Json) : Option α → Json
  | none => .null
  | some a => write a

def writeId {kind : RowKind} (id : Id kind) : Json := .ofInt id.value

def asInt : Json → Option Int
  | .number digits => (Text.readInteger 0x80000000 0x7FFFFFFF digits.toList).toOption
  | _ => none

def asBool : Json → Option Bool
  | .bool b => some b
  | _ => none

def asId {kind : RowKind} (j : Json) : Option (Id kind) := (asInt j).map Id.mk

def unlessNull {α : Type} (read : Json → Option α) : Json → Option (Option α)
  | .null => some none
  | j => (read j).map some

def systemColumns (s : TicketSystem) : List Json :=
  [.ofText s.name, .ofText s.kind.name, .ofText s.url, .bool s.bookTime]

def asSystem : List Json → Option TicketSystem
  | [name, kind, url, bookTime] => do
    return { name := ← asText name, kind := ← (SystemKind.ofText (← asText kind)).toOption
             url := ← asText url, bookTime := ← asBool bookTime }
  | _ => none

def grantColumns (g : Grant) : List Json :=
  [writeId g.user, writeId g.system, .ofText g.token.token, .ofText g.token.secret]

def asGrant : Json → Option Grant
  | .array [user, system, token, secret] => do
    return ⟨← asId user, ← asId system, ← asText token, ← asText secret⟩
  | _ => none

def projectColumns (p : Project) : List Json :=
  [.ofText p.name, .bool p.active, orNull writeId p.customer, orNull writeId p.system,
    orNull .ofText p.prefixes, orNull .ofText p.internalKey, orNull writeId p.internalSystem,
    orNull writeId p.lead, orNull .ofText p.mainTickets, .ofText p.subtickets]

def asProject : List Json → Option Project
  | [name, active, customer, system, prefixes, internalKey, internalSystem, lead, mainTickets,
      subtickets] => do
    return { name := ← asText name, active := ← asBool active
             customer := ← unlessNull asId customer, system := ← unlessNull asId system
             prefixes := ← unlessNull asText prefixes
             internalKey := ← unlessNull asText internalKey
             internalSystem := ← unlessNull asId internalSystem, lead := ← unlessNull asId lead
             mainTickets := ← unlessNull asText mainTickets, subtickets := ← asText subtickets }
  | _ => none

def entryColumns (e : StoredEntry) : List Json :=
  [writeId e.user, writeId e.project, orNull writeId e.customer, orNull writeId e.activity,
    .ofText e.day.text, .ofText e.start.text, .ofText e.finish.text, .ofInt e.minutes,
    .ofInt e.kind, .ofText e.ticket, orNull .ofText e.typed, orNull .ofText e.worklog,
    .ofText e.description]

def asEntry : List Json → Option StoredEntry
  | [user, project, customer, activity, day, start, finish, minutes, kind, ticket, typed,
      worklog, description] => do
    return { user := ← asId user, project := ← asId project, customer := ← unlessNull asId customer
             activity := ← unlessNull asId activity, day := ← Date.ofText? (← asText day)
             start := ← Clock.ofText? (← asText start), finish := ← Clock.ofText? (← asText finish)
             minutes := ← asInt minutes, kind := ← asInt kind, ticket := ← asText ticket
             typed := ← unlessNull asText typed, worklog := ← unlessNull asText worklog
             description := ← asText description }
  | _ => none

def staleColumns (w : StaleWorklog) : List Json :=
  [writeId w.user, writeId w.system, .ofText w.ticket, .ofText w.worklog]

def asStale : List Json → Option StaleWorklog
  | [user, system, ticket, worklog] => do
    return ⟨← asId user, ← asId system, ← asText ticket, ← asText worklog⟩
  | _ => none

def writeTable {kind : RowKind} {α : Type} (columns : α → List Json) (t : Table kind α) : Json :=
  .array (t.rows.map fun (id, row) => .array (writeId id :: columns row))

def asTable {kind : RowKind} {α : Type} (read : List Json → Option α) :
    Json → Option (Table kind α)
  | .array items => do
    let rows ← items.mapM fun
      | .array (id :: columns) => do return ((← asId id : Id kind), ← read columns)
      | _ => none
    if h : rows.Pairwise fun r s => r.1.value < s.1.value then some ⟨rows, h⟩ else none
  | _ => none

def render (s : Store) : String :=
  (Json.ofMembers [
    ("users", writeTable (fun u => [.ofText u.name]) s.users),
    ("systems", writeTable systemColumns s.systems),
    ("grants", .array (s.grants.map fun g => .array (grantColumns g))),
    ("customers", writeTable (fun c => [.ofText c.name, .bool c.active]) s.customers),
    ("activities", writeTable (fun a => [.ofText a.name]) s.activities),
    ("projects", writeTable projectColumns s.projects),
    ("entries", writeTable entryColumns s.entries),
    ("stale", writeTable staleColumns s.stale)]).compact

def parse (document : String) : Option Store := do
  let f ← Json.Fields.ofJson
    ["users", "systems", "grants", "customers", "activities", "projects", "entries", "stale"]
    (← Json.parse document)
  let user : List Json → Option User
    | [name] => (asText name).map User.mk
    | _ => none
  let customer : List Json → Option Customer
    | [name, active] => do return ⟨← asText name, ← asBool active⟩
    | _ => none
  let activity : List Json → Option Activity
    | [name] => (asText name).map Activity.mk
    | _ => none
  return { users := ← f.required "users" (asTable user)
           systems := ← f.required "systems" (asTable asSystem)
           grants := ← f.required "grants" (Json.asList asGrant)
           customers := ← f.required "customers" (asTable customer)
           activities := ← f.required "activities" (asTable activity)
           projects := ← f.required "projects" (asTable asProject)
           entries := ← f.required "entries" (asTable asEntry)
           stale := ← f.required "stale" (asTable asStale), frozen := false }

end Timesheet.Store
