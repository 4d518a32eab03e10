import Timesheet.Proofs.Accounts

/-!
What happens on the way to an alert: the exchanges, and the failures that come before any exchange,
for want of a token or of a route.

For each stage of the work it is told here what can happen in it, in order. Where a failure is
possible it is part of the account, so nothing is left out when the account is without failures.
-/
namespace Timesheet

/-- What happens besides changes of the store. -/
inductive Incident where
  | exchange (x : Exchange)
  /-- A connection was needed, but the user holds no token for the system. -/
  | noToken (user system : String)
  /-- A route was needed, but no ticket system is configured for the project. -/
  | noRoute (project : String)

/-- The failure of an exchange. A work-log that is to be deleted or updated may be missing. -/
def Exchange.failure? : Exchange → Option TrackerError
  | ⟨_, .deleteWorklog .., .error (.missing _), _⟩ => none
  | ⟨_, .updateWorklog .., .error (.missing _), _⟩ => none
  | ⟨_, _, .error err, _⟩ => some err
  | ⟨_, _, .ok _, _⟩ => none

namespace Incident

def exchange? : Incident → Option Exchange
  | exchange x => some x
  | _ => none

def failure? : Incident → Option SyncError
  | exchange x => x.failure?.map .tracker
  | noToken user system => some (.missingToken user system)
  | noRoute project => some (.noTicketSystem project)

end Incident

/-- Incidents, the earliest first. -/
abbrev Account := List Incident

namespace Account

def exchanges (a : Account) : List Exchange := a.filterMap Incident.exchange?

def firstFailure (a : Account) : Option SyncError := a.findSome? Incident.failure?

/-- `Q` comes after `P`, unless `P` ends with a failure. -/
def Then (P Q : Account → Prop) (a : Account) : Prop :=
  P a ∧ a.firstFailure ≠ none ∨
    ∃ first rest : Account, a = first ++ rest ∧ P first ∧ first.firstFailure = none ∧ Q rest

/-- All of it goes through the connection. -/
def Via (c : Connection) (a : Account) : Prop := ∀ i ∈ a, ∃ x, i = .exchange x ∧ x.connection = c

/-- The system is needed. Without a token there is no connection to it. With one, the connection is
made first, and all the rest goes through it. -/
def Reaching (s : Store) (user : UserId) (id : SystemId) (system : TicketSystem) (a : Account) :
    Prop :=
  match s.token? user id with
  | none => a = [.noToken (((s.user? user).map (·.name)).getD (toString user)) system.name]
  | some token => ∃ reply seen rest,
    a = .exchange ⟨⟨id, system, token⟩, .connect, reply, seen⟩ :: rest ∧
      Via ⟨id, system, token⟩ rest

/-- A pending deletion is tried, unless its ticket system is not there any more. -/
def Attempt (s : Store) (d : StaleWorklog) (a : Account) : Prop :=
  match s.system? d.system with
  | none => a = []
  | some system => Reaching s d.user d.system system a

/-- Pending deletions are tried one after the other, also after failures. -/
inductive Attempts (s : Store) : List StaleWorklog → Account → Prop
  | nil : Attempts s [] []
  | cons {d : StaleWorklog} {rows : List StaleWorklog} {first rest : Account}
    (head : Attempt s d first) (tail : Attempts s rows rest) :
    Attempts s (d :: rows) (first ++ rest)

/-- The route of the project is looked up, and what is done there is `P` if it books work-logs. -/
def Along (s : Store) (id : ProjectId) (P : Route → Account → Prop) (a : Account) : Prop :=
  match s.project? id with
  | none => a = []
  | some project =>
    match Route.ofProject s project with
    | .error _ => a = [.noRoute project.name]
    | .ok route =>
      match route.filter (·.books) with
      | none => a = []
      | some r => P r a

/-- The ticket is looked for in the internal tracker where that one is in charge. -/
def LookingUp (s : Store) (e : TimeEntry) (r : Route) (a : Account) : Prop :=
  if r.internalKey.isSome ∧ Sync.identifier e ≠ "" then Reaching s e.user r.id r.system a
  else a = []

/-- The pending deletions `own` of a user, after that of `d` is recorded. One that is pending
already, for whichever user, is not recorded again. -/
def withDeletion (s : Store) (own : List StaleWorklog) (d : StaleWorklog) : List StaleWorklog :=
  if (∃ r ∈ s.stale.rows, r.2.user ≠ d.user ∧ r.2.target = d.target) ∨
      ∃ v ∈ own, v.target = d.target then own
  else own ++ [d]

/-- The work-log of `p`, where it has one on a ticket, is to be deleted, while deletions `own` of
the user are pending. -/
def Clearing (s : Store) (own : List StaleWorklog) (p : TimeEntry) (a : Account) : Prop :=
  match p.worklog with
  | none => a = []
  | some worklog =>
    if p.ticket = "" then a = []
    else Along s p.project
      (fun r => Attempts s (withDeletion s own ⟨p.user, r.id, p.ticket, worklog⟩)) a

/-- The entry leaves the ticket on which it was before, when this is another. -/
def Leaving (s : Store) (previous : Option TimeEntry) (e : TimeEntry) (a : Account) : Prop :=
  match previous with
  | none => a = []
  | some p => if Sync.movedToOtherTicket e p then Clearing s [] p a else a = []

/-- The work-log of the entry is written. -/
def Booking (s : Store) (e : TimeEntry) (a : Account) : Prop :=
  match s.bookingRoute? e.project with
  | none => a = []
  | some r => if e.ticket = "" then a = [] else Reaching s e.user r.id r.system a

def pending (s : Store) (user : UserId) : List StaleWorklog := (s.pendingOf user).map (·.2)

def Opening (s : Store) (e : TimeEntry) : Account → Prop :=
  Then (Attempts s (pending s e.user)) (Along s e.project (LookingUp s e))

/-- What happens on a save, which leaves the entry `e` in place of `previous`. -/
def OfSave (s : Store) (previous : Option TimeEntry) (e : TimeEntry) : Account → Prop :=
  Then (Then (Opening s e) (Leaving s previous e)) (Booking s e)

/-- What happens on the deletion of `e`. -/
def OfDelete (s : Store) (e : TimeEntry) : Account → Prop := Clearing s (pending s e.user) e

/-- Between the two journals something happened that is `P`, with this first failure. -/
def Tells (P : Account → Prop) (failure : Option SyncError) (journal later : List Exchange) :
    Prop :=
  ∃ a : Account, later = journal ++ a.exchanges ∧ P a ∧ a.firstFailure = failure

variable {P Q R : Account → Prop} {failure : Option SyncError}
  {journal middle later : List Exchange}

theorem Tells.nothing (h : P []) : Tells P none journal journal := ⟨[], by simp [exchanges], h, rfl⟩

theorem Tells.incident {i : Incident} (hi : i.exchange? = none) (h : P [i]) :
    Tells P i.failure? journal journal := by
  refine ⟨[i], by simp [exchanges, hi], h, ?_⟩
  cases hf : i.failure? <;> simp [firstFailure, hf]

theorem Tells.mono (h : Tells P failure journal later) (hPQ : ∀ a, P a → Q a) :
    Tells Q failure journal later := by
  obtain ⟨a, hj, hP, hf⟩ := h
  exact ⟨a, hj, hPQ a hP, hf⟩

theorem firstFailure_append (a b : Account) :
    firstFailure (a ++ b) = a.firstFailure.or b.firstFailure := List.findSome?_append

theorem exchanges_append (a b : Account) : exchanges (a ++ b) = a.exchanges ++ b.exchanges :=
  List.filterMap_append

theorem Tells.append {later_failure : Option SyncError} (h : Tells P failure journal middle)
    (h' : Tells Q later_failure middle later) (hR : ∀ a b, P a → Q b → R (a ++ b)) :
    Tells R (failure.or later_failure) journal later := by
  obtain ⟨a, rfl, hP, rfl⟩ := h
  obtain ⟨b, rfl, hQ, rfl⟩ := h'
  exact ⟨a ++ b, by rw [exchanges_append, List.append_assoc], hR a b hP hQ, firstFailure_append a b⟩

theorem Tells.next (h : Tells P none journal middle) (h' : Tells Q failure middle later) :
    Tells (Then P Q) failure journal later := by
  obtain ⟨a, rfl, hP, hf⟩ := h
  obtain ⟨b, rfl, hQ, rfl⟩ := h'
  refine ⟨a ++ b, by rw [exchanges_append, List.append_assoc], .inr ⟨a, b, rfl, hP, hf, hQ⟩, ?_⟩
  rw [firstFailure_append, hf, Option.none_or]

theorem Tells.stop {err : SyncError} (h : Tells P (some err) journal later) :
    Tells (Then P Q) (some err) journal later := by
  obtain ⟨a, hj, hP, hf⟩ := h
  exact ⟨a, hj, .inl ⟨hP, by simp [hf]⟩, hf⟩

end Account

end Timesheet
