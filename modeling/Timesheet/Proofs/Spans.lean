import Timesheet.Proofs.Mirror
import Timesheet.Proofs.Upkeep

/-!
The span of an entry runs forward on its day, and its minutes are the whole ones between its ends.
An entry takes the same values from an input whether it is created from it or changed to it.
-/
namespace Timesheet

theorem spanMinutes_of_le {start finish : Clock} (h : start ≤ finish) :
    spanMinutes start finish = ((finish.seconds - start.seconds) / 60 : Nat) := by
  have hseconds : start.seconds ≤ finish.seconds := h
  unfold spanMinutes
  rw [← Int.ofNat_sub hseconds]
  exact (Int.ofNat_tdiv _ 60).symm

/-- What an entry takes from an input besides its ticket. -/
structure Values where
  project : ProjectId
  customer : Option CustomerId
  activity : Option ActivityId
  day : Date
  start : Clock
  finish : Clock
  minutes : Int
  description : String
deriving DecidableEq

namespace Entry

variable {κ : Type} {e : Entry κ}

theorem normalize_normal (e : Entry κ) : e.normalize.Normal := by
  unfold normalize
  by_cases hinverted : e.finish < e.start
  · simp only [if_pos hinverted]
    exact ⟨Nat.le_of_lt hinverted, rfl⟩
  · simp only [if_neg hinverted]
    exact ⟨Nat.le_of_not_lt hinverted, rfl⟩

theorem Normal.minutes_bounds (h : e.Normal) : 0 ≤ e.minutes ∧ e.minutes < 1440 := by
  obtain ⟨hle, hminutes⟩ := h
  have hday := e.finish.before_midnight
  rw [hminutes, spanMinutes_of_le hle]
  omega

def values (e : Entry κ) : Values :=
  { project := e.project, customer := e.customer, activity := e.activity, day := e.day
    start := e.start, finish := e.finish, minutes := e.minutes, description := e.description }

end Entry

namespace EntryInput

/-- The values of the input, with the earlier of its times first. -/
def values (i : EntryInput) : Values :=
  let (start, finish) := if i.finish < i.start then (i.finish, i.start) else (i.start, i.finish)
  { project := i.project, customer := i.customer, activity := i.activity, day := i.day
    start, finish, minutes := spanMinutes start finish, description := i.description }

theorem values_newEntry (i : EntryInput) (user : UserId) : (i.newEntry user).values = i.values := by
  unfold newEntry Entry.normalize values
  dsimp only
  split <;> rfl

theorem values_applyTo (i : EntryInput) (p : TimeEntry) : (i.applyTo p).values = i.values := by
  unfold applyTo Entry.normalize values
  dsimp only
  split <;> rfl

end EntryInput

theorem normal_outlasts (key : Option String) :
    Outlasts (fun _ e => e.Normal) (fun _ => True) key where
  kind _ h := h
  worklog _ h := h
  retitled _ _ h _ := h
  search _ _ _ := trivial
  opened _ _ _ := trivial
  others _ := trivial

theorem normal_admitted : Admitted fun _ e => e.Normal where
  created _ := Entry.normalize_normal _
  edited _ _ := Entry.normalize_normal _

/-- The entry `id` has the values of the input, and its ticket too where no project `key` of an
internal tracker is in charge. -/
def EntryInput.Entered (i : EntryInput) (key : Option String) (id : EntryId) (row : EntryId)
    (e : StoredEntry) : Prop :=
  row = id → e.values = i.values ∧ (key = none → e.ticket = Text.trim i.ticket)

theorem entered_outlasts (input : EntryInput) (key : Option String) (id : EntryId) :
    Outlasts (input.Entered key id) (fun _ => True) key where
  kind _ h hid := h hid
  worklog _ h hid := h hid
  retitled _ hkey h _ hid := ⟨(h hid).1, fun hnone => by simp [hkey] at hnone⟩
  search _ _ _ := trivial
  opened _ _ _ := trivial
  others _ := trivial

namespace Store

variable {s : Store} {user : UserId} {target : Option EntryId} {input : EntryInput}

theorem accept_of_check (hcheck : input.check s = .ok ()) (huser : s.users.contains user = true)
    (hown : ∀ id, target = some id →
      s.frozen = false ∧ ∃ p, s.entryAt id = .ok (some p) ∧ p.user = user) :
    ∃ r, s.accept user target input = .ok r := by
  unfold accept
  cases target with
  | none =>
      have hallowed : s.allowsEntry (input.newEntry user) = true :=
        input.allowsEntry_of_check hcheck huser rfl rfl rfl
      simp only [hcheck, insertEntry, if_pos hallowed]
      exact ⟨_, rfl⟩
  | some id =>
      obtain ⟨hthawed, p, hentry, howner⟩ := hown id rfl
      have hallowed : s.allowsEntry (input.applyTo p) = true :=
        input.allowsEntry_of_check hcheck (howner ▸ huser) rfl rfl rfl
      have hp : s.ownEntry user id = .ok p := by simp [ownEntry, hentry, howner]
      have hsave := saveEntry_of_contains (contains_of_entryAt hentry) hthawed hallowed
      simp only [hp, hcheck, bind, Except.bind, hsave]
      exact ⟨_, rfl⟩

end Store

namespace Sync

variable {σ : Type} {tracker : Tracker σ} {user : UserId} {target : Option EntryId}
  {input : EntryInput} {w : World σ}

section Accepted
variable {s s' : Store} {r : EntryId × TimeEntry × Option TimeEntry}
  (h : Accepted s user input target r s')
include h

theorem Accepted.id_eq : r.1 = target.getD s.entries.nextId := by
  cases h <;> rfl

theorem Accepted.values_eq : r.2.1.values = input.values := by
  cases h with
  | new => exact input.values_newEntry user
  | edited => exact input.values_applyTo _

theorem Accepted.ticket_eq : r.2.1.ticket = Text.trim input.ticket := by
  cases h <;> rfl

theorem Accepted.entered (key : Option String) :
    ∀ row ∈ s'.entries.rows, input.Entered key (target.getD s.entries.nextId) row.1 row.2 := by
  rintro ⟨id, e⟩ hrow rfl
  have hstored : e = r.2.1.stored := s'.entries.row_unique hrow (h.id_eq ▸ h.row)
  rw [hstored]
  exact ⟨h.values_eq, fun _ => h.ticket_eq⟩

end Accepted

theorem save_succeeds {r : (EntryId × TimeEntry × Option TimeEntry) × Store}
    (h : w.store.accept user target input = .ok r) :
    (save tracker user target input).Leads (fun _ _ => True) (fun _ _ => False) w := by
  refine save_local.mono (fun _ _ _ => trivial) ?_
  rintro err w' ⟨herr, -⟩
  rw [Store.saveLocally, h] at herr
  cases herr

/-- A saved entry has the values of its input, however the entry was before and whatever the tracker
does. -/
theorem save_enters :
    (save tracker user target input).Leads
      (fun saved w' => saved.id = target.getD w.store.entries.nextId ∧
        w'.store.entryAt saved.id = .ok (some saved.entry) ∧
        saved.entry.values = input.values ∧
        (w.store.internalKey? input.project = none →
          saved.entry.ticket = Text.trim input.ticket))
      (fun _ _ => True) w := by
  have laws := entered_outlasts input (w.store.internalKey? input.project)
    (target.getD w.store.entries.nextId)
  refine (save_upholds laws rfl (fun _ _ haccepted _ => haccepted.entered _)
    (.refl w)).mono ?_ (fun _ _ _ => trivial)
  rintro saved w' ⟨hupheld, hentry, r, s, haccepted, hid⟩
  have hsaved : saved.id = target.getD w.store.entries.nextId := hid.trans haccepted.id_eq
  exact ⟨hsaved, hentry, hupheld.entry laws hentry hsaved⟩

theorem save_stores (tracker : Tracker σ) (target : Option EntryId)
    (hcheck : input.check w.store = .ok ()) (huser : w.store.users.contains user = true)
    (hown : ∀ id, target = some id →
      w.store.frozen = false ∧ ∃ p, w.store.entryAt id = .ok (some p) ∧ p.user = user) :
    ∃ saved w', outcome (save tracker user target input) w = (.ok saved, w') ∧
      saved.id = target.getD w.store.entries.nextId ∧
      w'.store.entryAt saved.id = .ok (some saved.entry) ∧
      saved.entry.values = input.values ∧
      (w.store.internalKey? input.project = none →
        saved.entry.ticket = Text.trim input.ticket) := by
  obtain ⟨r, haccepted⟩ := Store.accept_of_check hcheck huser hown
  have hsucceeds : (save tracker user target input).Leads _ _ w := save_succeeds haccepted
  obtain ⟨saved, w', hrun, -⟩ := hsucceeds.succeeds
  exact ⟨saved, w', hrun, save_enters.of_ok hrun⟩

end Sync

/-- After any history that starts without entries, the spans of all entries run forward, and their
minutes are the whole ones between their ends, which are less than those of a day.

In every world whose storage lets entries be changed, a valid input is stored whether an entry is
created from it or an entry of the user is changed to it, and with the same values both times. The
ticket is the same, too, where the project has no internal tracker. -/
theorem spans_normal_however_entered {σ : Type} (w : World σ) (hempty : w.store.entries = ∅)
    (events : List (Event σ)) :
    (∀ row ∈ (w.after events).store.entries.rows, row.2.start ≤ row.2.finish ∧
      row.2.minutes = ((row.2.finish.seconds - row.2.start.seconds) / 60 : Nat) ∧
      0 ≤ row.2.minutes ∧ row.2.minutes < 1440) ∧
    ∀ (tracker other : Tracker σ) (v : World σ) (input : EntryInput) (id : EntryId) (p : TimeEntry),
      input.check v.store = .ok () → v.store.entryAt id = .ok (some p) →
      v.store.users.contains p.user = true → v.store.frozen = false →
      ∃ created edited v₁ v₂,
        Sync.outcome (Sync.save tracker p.user none input) v = (.ok created, v₁) ∧
        Sync.outcome (Sync.save other p.user (some id) input) v = (.ok edited, v₂) ∧
        v₁.store.entryAt created.id = .ok (some created.entry) ∧
        v₂.store.entryAt id = .ok (some edited.entry) ∧
        created.entry.values = input.values ∧ edited.entry.values = created.entry.values ∧
        (v.store.internalKey? input.project = none →
          edited.entry.ticket = created.entry.ticket) := by
  constructor
  · have hrows := (upheld_after normal_outlasts normal_admitted events (w := w) ?_).1
    · intro row hrow
      have hnormal := hrows row hrow
      refine ⟨hnormal.1, ?_, hnormal.minutes_bounds⟩
      rw [hnormal.2, spanMinutes_of_le hnormal.1]
    · rw [hempty]
      rintro row ⟨⟩
  · intro tracker other v input id p hcheck hentry huser hthawed
    have hown : ∀ i, some id = some i →
        v.store.frozen = false ∧ ∃ e, v.store.entryAt i = .ok (some e) ∧ e.user = p.user := by
      rintro i ⟨⟩
      exact ⟨hthawed, p, hentry, rfl⟩
    obtain ⟨created, v₁, hcreate, -, hstored₁, hvalues₁, hticket₁⟩ :=
      Sync.save_stores tracker none hcheck huser nofun
    obtain ⟨edited, v₂, hedit, hid, hstored₂, hvalues₂, hticket₂⟩ :=
      Sync.save_stores other (some id) hcheck huser hown
    obtain rfl : edited.id = id := hid
    refine ⟨created, edited, v₁, v₂, hcreate, hedit, hstored₁, hstored₂, hvalues₁, ?_, ?_⟩
    · exact hvalues₂.trans hvalues₁.symm
    · exact fun hnone => (hticket₂ hnone).trans (hticket₁ hnone).symm

/-- Three hours and a half minute, the end typed first. -/
def typedBackwards : EntryInput := { onOtherTicket with start := ⟨10830, by decide⟩ }

def createBackwards : List (Event InMemory) :=
  [.call { tracker := InMemory.tracker, user := ⟨1⟩, action := .save none typedBackwards }]

/-- Created or in place of the entry that moved, it lasts 180 minutes. -/
theorem spans_normal_however_entered_backwards :
    (quietOffice.after createBackwards).store.entries.rows.map (·.2.minutes) = [180] ∧
      (∀ row ∈ (quietOffice.after createBackwards).store.entries.rows,
        row.2.start ≤ row.2.finish) ∧
      ∃ created edited v₁ v₂,
        Sync.outcome (Sync.save InMemory.tracker ⟨1⟩ none typedBackwards) quietMove.2 =
          (.ok created, v₁) ∧
        Sync.outcome (Sync.save InMemory.tracker ⟨1⟩ (some ⟨1⟩) typedBackwards) quietMove.2 =
          (.ok edited, v₂) ∧
        edited.entry.values = created.entry.values ∧
        edited.entry.ticket = created.entry.ticket := by
  have hcheck : typedBackwards.check quietMove.2.store = .ok () := by decide +kernel
  have hentry : quietMove.2.store.entryAt ⟨1⟩ = .ok (some movedQuietly.entry) := by decide +kernel
  have hall := spans_normal_however_entered quietOffice rfl createBackwards
  obtain ⟨created, edited, v₁, v₂, hcreate, hedit, -, -, -, hsame, hticket⟩ :=
    hall.2 InMemory.tracker InMemory.tracker quietMove.2 typedBackwards ⟨1⟩ movedQuietly.entry
      hcheck hentry (by decide +kernel) (by decide +kernel)
  refine ⟨by decide +kernel, fun row hrow => (hall.1 row hrow).1, ?_⟩
  exact ⟨created, edited, v₁, v₂, hcreate, hedit, hsame, hticket (by decide +kernel)⟩

end Timesheet
