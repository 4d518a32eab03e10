import Timesheet.Store.Basic

/-!
Pending deletions: work-logs that are to be deleted and not yet confirmed as gone.
-/
namespace Timesheet.Store

/-- Remembers a deletion. One that is remembered already, for whichever user, is kept as it is. -/
def recordStale (w : StaleWorklog) (s : Store) : Except StorageError Store :=
  let same (v : StaleWorklog) : Bool :=
    v.system == w.system && v.ticket == w.ticket && v.worklog == w.worklog
  if s.stale.any same then .ok s
  else if s.users.contains w.user && s.systems.contains w.system then
    .ok { s with stale := s.stale.push w }
  else .error .noReferent

def pendingOf (s : Store) (user : UserId) : List (StaleId × StaleWorklog) :=
  s.stale.filter (·.user == user)

def forgetStale (id : StaleId) (s : Store) : Store := { s with stale := s.stale.erase id }

end Timesheet.Store
