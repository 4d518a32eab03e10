import Timesheet.Report.Grid
import Timesheet.Store.Catalog
import Timesheet.Store.Entries
import Timesheet.Text.Natural

/-!
The tables that list what is stored.
-/
namespace Timesheet.Listing

def yesNo (b : Bool) : String := if b then "yes" else "no"

def byText {α : Type} (text : α → String) (rows : List α) : List α :=
  rows.mergeSort fun a b => Text.compareText (text a).toList (text b).toList != .gt

def users (s : Store) : Grid where
  header := ["ID", "Username"]
  rows := (byText (·.2.name) s.users.rows).map fun (id, u) => [toString id, u.name]

def activities (s : Store) : Grid where
  header := ["ID", "Name"]
  rows := (byText (·.2.name) s.activities.rows).map fun (id, a) => [toString id, a.name]

def customers (s : Store) : Grid where
  header := ["ID", "Name", "Active"]
  rows := s.customers.rows.map fun (id, c) => [toString id, c.name, yesNo c.active]

def systems (s : Store) : Grid where
  header := ["ID", "Name", "Kind", "URL", "Book time"]
  rows := s.systems.rows.map fun (id, t) =>
    [toString id, t.name, t.kind.name, t.url, yesNo t.bookTime]

def projects (s : Store) : Grid where
  header := ["ID", "Name", "Customer", "Active", "Main tickets", "Subtickets"]
  rows := s.projects.rows.map fun (id, p) =>
    let customer := (p.customer.bind s.customer?).map (·.name)
    [toString id, p.name, customer.getD "", yesNo p.active, p.mainTickets.getD "", p.subtickets]

structure DayReport where
  grid : Grid
  day : Date
  minutes : Int

def day (s : Store) (user : UserId) (day : Date) : Except StorageError DayReport := do
  let entries ← s.dayEntries user day
  let rows := entries.map fun (id, e) =>
    [toString id, e.start.shortText, e.finish.shortText, minutesText e.minutes, e.kind.label,
      ((s.project? e.project).map (·.name)).getD "",
      ((e.activity.bind s.activity?).map (·.name)).getD "",
      if e.ticket = "" then "-" else e.ticket, e.worklog.getD "-", e.description]
  let header :=
    ["ID", "Start", "End", "Duration", "Class", "Project", "Activity", "Ticket", "Worklog",
      "Description"]
  let minutes := entries.foldl (fun sum (_, e) => sum + e.minutes) 0
  return { grid := ⟨header, rows⟩, day, minutes }

def DayReport.total (r : DayReport) : String :=
  "Total: " ++ minutesText r.minutes ++ " (" ++ r.day.weekday.name ++ ")"

end Timesheet.Listing
