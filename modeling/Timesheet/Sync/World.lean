import Timesheet.Sync.Error

/-!
The setting of the work on entries: the store, a remote side, and a journal of what passed between
them. Every request goes through `send`, so the journal misses none.
-/
namespace Timesheet

/-- A request and its reply, with the store at the time of the request. -/
structure Exchange where
  connection : Connection
  request : Request
  reply : Except TrackerError request.Answer
  store : Store

structure World (σ : Type) where
  store : Store
  remote : σ
  /-- The oldest exchange comes first. -/
  journal : List Exchange

/-- Work that changes the world and may fail. A failure does not undo what was done before it. -/
abbrev Sync (σ : Type) := ExceptT SyncError (StateM (World σ))

namespace Sync

variable {σ α : Type}

def outcome (work : Sync σ α) (w : World σ) : Except SyncError α × World σ := work.run.run w

def store : Sync σ Store := return (← get).store

def query (statement : Store → Except StorageError α) : Sync σ α := do
  match statement (← store) with
  | .ok a => return a
  | .error e => throw (.storage e)

def update (statement : Store → Except StorageError Store) : Sync σ Unit := do
  match statement (← store) with
  | .ok s => modify fun w => { w with store := s }
  | .error e => throw (.storage e)

def insert (statement : Store → Except StorageError (α × Store)) : Sync σ α := do
  match statement (← store) with
  | .ok (a, s) =>
    modify fun w => { w with store := s }
    return a
  | .error e => throw (.storage e)

def change (statement : Store → Store) : Sync σ Unit :=
  modify fun w => { w with store := statement w.store }

/-- Sends a request and notes it in the journal, whatever the reply is. -/
def ask (tracker : Tracker σ) (connection : Connection) (request : Request) :
    Sync σ (Except TrackerError request.Answer) := do
  let w ← get
  let (reply, remote) := tracker connection request w.remote
  let exchange : Exchange := { connection, request, reply, store := w.store }
  set { w with remote, journal := w.journal ++ [exchange] }
  return reply

/-- Sends a request and fails when its reply is a failure. -/
def send (tracker : Tracker σ) (connection : Connection) (request : Request) :
    Sync σ request.Answer := do
  match ← ask tracker connection request with
  | .ok answer => return answer
  | .error e => throw (.tracker e)

def attempt (work : Sync σ α) : Sync σ (Except SyncError α) :=
  ExceptT.mk (Except.ok <$> work.run)

end Sync

end Timesheet
