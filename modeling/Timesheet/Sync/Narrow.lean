import Timesheet.Sync.History

/-!
Identifiers of limited size. A row may have any number, and elsewhere an identifier is that number;
here it is what 32 bits hold of it. The two come apart when the numbers of entries no longer fit. A
new entry is then looked for under another number than it has.

Pending deletions are left as they are: one that is missed when it should be forgotten is sent
again, and no call fails for that.
-/
namespace Timesheet

namespace Id

variable {kind : RowKind}

/-- What is read back of an identifier: its last 32 bits, as a signed number. -/
def narrow (id : Id kind) : Id kind := ⟨id.value.bmod 0x100000000⟩

/-- It is read back as it is. -/
def Fits (id : Id kind) : Prop := -0x80000000 ≤ id.value ∧ id.value < 0x80000000

instance (id : Id kind) : Decidable id.Fits := inferInstanceAs (Decidable (_ ∧ _))

end Id

variable {σ : Type}

/-- The identifiers fit that the next `n` entries would get. -/
def Store.RoomFor (n : Nat) (s : Store) : Prop :=
  ∀ k < n, (⟨s.entries.nextId.value + k⟩ : EntryId).Fits

instance (n : Nat) (s : Store) : Decidable (s.RoomFor n) :=
  inferInstanceAs (Decidable (∀ k < n, (⟨s.entries.nextId.value + k⟩ : EntryId).Fits))

/-- Like `Store.reclassifyDay`, with the identifiers of the day as they are read back. -/
def Store.reclassifyDayNarrow (user : UserId) (day : Date) (s : Store) :
    Except StorageError Nat × Store :=
  match s.dayEntries user day with
  | .error e => (.error e, s)
  | .ok entries =>
    reclassifyDay.writeAll (classChanges (entries.map fun r => (r.1.narrow, r.2))) 0 s

namespace Sync.Narrow

def alertingReclassify (user : UserId) (day : Date) (earlier : Option Alert) :
    Sync σ (Option Alert) := do
  let later ← alerting .reclassification do
    let (result, s) := (← store).reclassifyDayNarrow user day
    change fun _ => s
    match result with
    | .ok _ => return
    | .error e => throw (.storage e)
  return earlier <|> later

def alertingReclassifyDays (user : UserId) (e : TimeEntry) (previous : Option TimeEntry)
    (earlier : Option Alert) : Sync σ (Option Alert) := do
  let alert ← alertingReclassify user e.day earlier
  match previous with
  | none => return alert
  | some p => if p.day = e.day then return alert else alertingReclassify user p.day alert

def followUp (tracker : Tracker σ) (user : UserId) (id : EntryId) (e : TimeEntry)
    (previous : Option TimeEntry) : Sync σ Saved := do
  let alert ← alerting .sync ((reconcile tracker id previous).on e)
  let alert ← alertingReclassifyDays user e previous alert
  reload id alert

/-- The identifier of a new entry is read back; that of an older one is known. -/
def save (tracker : Tracker σ) (user : UserId) (target : Option EntryId) (input : EntryInput) :
    Sync σ Saved := do
  let (id, e, previous) ← accept user target input
  followUp tracker user (target.getD id.narrow) e previous

def delete (tracker : Tracker σ) (user : UserId) (id : EntryId) : Sync σ (Option Alert) := do
  let e ← ownEntry user id
  let alert ← alerting .removal (removeWorklog tracker e)
  change (Store.eraseEntry id)
  alertingReclassify user e.day alert

def bulkCreate (tracker : Tracker σ) (user : UserId) (template : EntryInput) (range : BulkRange) :
    Sync σ (List Saved) := do
  if range.last < range.first then throw (.rejected (.reversedRange range.first range.last))
  range.days.mapM fun day => save tracker user none { template with day }

end Sync.Narrow

namespace Call

def narrowWork (c : Call σ) : Sync σ Unit :=
  match c.action with
  | .save target input => discard (Sync.Narrow.save c.tracker c.user target input)
  | .delete id => discard (Sync.Narrow.delete c.tracker c.user id)
  | .bulk template range => discard (Sync.Narrow.bulkCreate c.tracker c.user template range)

/-- At most this many entries are new after the call. -/
def newEntries (c : Call σ) : Nat :=
  match c.action with
  | .save none _ => 1
  | .save (some _) _ | .delete _ => 0
  | .bulk _ range => range.days.length

end Call

end Timesheet
