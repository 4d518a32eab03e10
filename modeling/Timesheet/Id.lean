/-!
Identifiers of stored rows, kept apart by the kind of row that they name. They are numbers of any
size; `Timesheet.Sync.Narrow` has what becomes of a save where they are cut to 32 bits.
-/
namespace Timesheet

/-- The kinds of rows that have an identifier. -/
inductive RowKind where
  | user | system | customer | activity | project | entry | stale
deriving DecidableEq

structure Id (kind : RowKind) where
  value : Int
deriving DecidableEq

instance {kind : RowKind} : ToString (Id kind) := ⟨fun id => toString id.value⟩

abbrev UserId := Id .user
abbrev SystemId := Id .system
abbrev CustomerId := Id .customer
abbrev ActivityId := Id .activity
abbrev ProjectId := Id .project
abbrev EntryId := Id .entry
abbrev StaleId := Id .stale

end Timesheet
