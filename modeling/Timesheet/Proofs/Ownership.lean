import Timesheet.Proofs.Events
import Timesheet.Tracker.InMemory

/-!
Work-logs belong to at most one entry, and a pending deletion never aims at the work-log of an
entry, as long as the tracker gives every new work-log an identifier of its own.

The invariant speaks about the entries, the pending deletions and the identifiers given so far.
While an entry is being worked on, it holds of the store without that entry, and the copy that is
worked on is apart from that store.
-/
namespace Timesheet

/-- No two entries have the same work-log, and no entry has one that is to be deleted. -/
structure Store.Exclusive (s : Store) : Prop where
  entries : ∀ r ∈ s.entries.rows, ∀ r' ∈ s.entries.rows, ∀ id, r.2.worklog = some id →
    r'.2.worklog = some id → r.1 = r'.1
  stale : ∀ r ∈ s.entries.rows, ∀ d ∈ s.stale.rows, r.2.worklog ≠ some d.2.worklog

def givenIds (journal : List Exchange) : List String := (createdIn journal).map Worklog.id

theorem givenIds_note {journal : List Exchange} (x : Exchange) {id : String}
    (h : id ∈ givenIds journal) : id ∈ givenIds (journal ++ [x]) := by
  simp only [givenIds, createdIn_append, List.map_append, List.mem_append] at *
  exact .inl h

/-- An exclusive store in which classes can be written, and which knows no work-log that was not
created. -/
structure Sound (s : Store) (journal : List Exchange) : Prop extends s.Exclusive where
  thawed : s.frozen = false
  entryIds : ∀ r ∈ s.entries.rows, ∀ id, r.2.worklog = some id → id ∈ givenIds journal
  staleIds : ∀ d ∈ s.stale.rows, d.2.worklog ∈ givenIds journal

/-- A work-log that was created and that neither an entry nor a pending deletion has. -/
structure Apart (s : Store) (journal : List Exchange) (id : String) : Prop where
  given : id ∈ givenIds journal
  entries : ∀ r ∈ s.entries.rows, r.2.worklog ≠ some id
  stale : ∀ d ∈ s.stale.rows, d.2.worklog ≠ id

variable {s s' : Store} {journal journal' : List Exchange} {id : EntryId} {e e' : TimeEntry}

theorem Sound.mono (h : Sound s journal) (hf : s'.frozen = s.frozen)
    (hentries : ∀ r ∈ s'.entries.rows, ∃ a, (r.1, a) ∈ s.entries.rows ∧ r.2.worklog = a.worklog)
    (hstale : ∀ d ∈ s'.stale.rows, d ∈ s.stale.rows)
    (hids : ∀ id ∈ givenIds journal, id ∈ givenIds journal') : Sound s' journal' where
  entries r hr r' hr' id hid hid' := by
    obtain ⟨a, ha, hw⟩ := hentries r hr
    obtain ⟨a', ha', hw'⟩ := hentries r' hr'
    exact h.entries (r.1, a) ha (r'.1, a') ha' id (hw ▸ hid) (hw' ▸ hid')
  stale r hr d hd := by
    obtain ⟨a, ha, hw⟩ := hentries r hr
    rw [hw]
    exact h.stale _ ha d (hstale d hd)
  thawed := hf.trans h.thawed
  entryIds r hr id hid := by
    obtain ⟨a, ha, hw⟩ := hentries r hr
    exact hids id (h.entryIds _ ha id (hw ▸ hid))
  staleIds d hd := hids _ (h.staleIds d (hstale d hd))

theorem Sound.note (h : Sound s journal) (x : Exchange) : Sound s (journal ++ [x]) :=
  h.mono rfl (fun r hr => ⟨r.2, hr, rfl⟩) (fun _ hd => hd) fun _ => givenIds_note x

theorem Sound.forget (h : Sound s journal) (stale : StaleId) :
    Sound (s.forgetStale stale) journal :=
  h.mono rfl (fun r hr => ⟨r.2, hr, rfl⟩) (fun _ hd => (Store.mem_forgetStale.mp hd).1)
    fun _ hid => hid

theorem Sound.erase (h : Sound s journal) (id : EntryId) : Sound (s.eraseEntry id) journal :=
  h.mono rfl (fun r hr => ⟨r.2, ((s.entries.mem_erase).mp hr).1, rfl⟩) (fun _ hd => hd)
    fun _ hid => hid

theorem Sound.saveClass (h : Sound s journal) {kind : EntryClass}
    (hs : s.saveClass id kind = .ok s') : Sound s' journal := by
  rw [Store.saveClass_ok hs]
  refine h.mono rfl (fun r hr => ?_) (fun _ hd => hd) fun _ hid => hid
  obtain ⟨a, ha, hr⟩ := (s.entries.mem_modify).mp hr
  refine ⟨a, ha, ?_⟩
  rw [hr]
  split <;> rfl

theorem Sound.sameEntries (h : Sound s journal) (hs : s.SameEntries s') : Sound s' journal :=
  h.mono hs.frozen (fun r hr => ⟨r.2, hs.entries ▸ hr, rfl⟩) (fun _ hd => hs.stale ▸ hd)
    fun _ hid => hid

theorem Sound.record (h : Sound s journal) {user : UserId} {system : SystemId}
    {ticket worklog : String} (hapart : Apart s journal worklog)
    (hs : s.recordStale ⟨user, system, ticket, worklog⟩ = .ok s') : Sound s' journal := by
  have honly := Store.recordStale_onlyStale hs
  refine ⟨⟨?_, ?_⟩, ?_, ?_, ?_⟩
  · rw [honly.entries_eq]
    exact h.entries
  · rw [honly.entries_eq]
    intro r hr d hd
    rcases Store.mem_recordStale hs d hd with hd | hd
    · exact h.stale r hr d hd
    · rw [hd]
      exact hapart.entries r hr
  · rw [honly.sameCatalog.frozen_eq]
    exact h.thawed
  · rw [honly.entries_eq]
    exact h.entryIds
  · intro d hd
    rcases Store.mem_recordStale hs d hd with hd | hd
    · exact h.staleIds d hd
    · rw [hd]
      exact hapart.given

theorem Apart.note {worklog : String} (h : Apart s journal worklog) (x : Exchange) :
    Apart s (journal ++ [x]) worklog := ⟨givenIds_note x h.given, h.entries, h.stale⟩

theorem Apart.forget {worklog : String} (h : Apart s journal worklog) (stale : StaleId) :
    Apart (s.forgetStale stale) journal worklog :=
  ⟨h.given, h.entries, fun d hd => h.stale d (Store.mem_forgetStale.mp hd).1⟩

theorem Sound.apart_new (h : Sound s journal) {x : Exchange} {g : Worklog}
    (hx : x.created? = some g) (hfresh : FreshIds (journal ++ [x])) :
    Apart s (journal ++ [x]) g.id where
  given := by simp [givenIds, hx]
  entries r hr hid := hfresh.new hx (h.entryIds r hr _ hid)
  stale d hd hid := hfresh.new hx (hid ▸ h.staleIds d hd)

theorem Sound.apart (h : Sound s journal) {row : StoredEntry} {worklog : String}
    (hrow : (id, row) ∈ s.entries.rows) (hw : row.worklog = some worklog) :
    Apart (s.eraseEntry id) journal worklog where
  given := h.entryIds _ hrow _ hw
  entries r hr hr' := by
    obtain ⟨hr, hne⟩ := (s.entries.mem_erase).mp hr
    exact hne (h.entries r hr _ hrow worklog hr' hw)
  stale d hd hd' := h.stale _ hrow d hd (hd' ▸ hw)

/-- An entry whose work-log is apart from the rest may join the rest. -/
theorem Sound.join (h : Sound (s.eraseEntry id) journal) (hrow : (id, e.stored) ∈ s.entries.rows)
    (hapart : ∀ worklog, e.worklog = some worklog → Apart (s.eraseEntry id) journal worklog) :
    Sound s journal := by
  have hcases : ∀ r ∈ s.entries.rows, r = (id, e.stored) ∨
      r.1 ≠ id ∧ r ∈ (s.eraseEntry id).entries.rows := by
    intro r hr
    by_cases hid : r.1 = id
    · exact .inl (s.entries.eq_of_mem hr hrow hid)
    · exact .inr ⟨hid, (s.entries.mem_erase).mpr ⟨hr, hid⟩⟩
  refine ⟨⟨?_, ?_⟩, h.thawed, ?_, h.staleIds⟩
  · intro r hr r' hr' worklog hw hw'
    rcases hcases r hr with rfl | ⟨-, hr⟩ <;> rcases hcases r' hr' with rfl | ⟨-, hr'⟩
    · rfl
    · exact absurd hw' ((hapart worklog hw).entries r' hr')
    · exact absurd hw ((hapart worklog hw').entries r hr)
    · exact h.entries r hr r' hr' worklog hw hw'
  · intro r hr d hd hw
    rcases hcases r hr with rfl | ⟨-, hr⟩
    · exact (hapart _ hw).stale d hd rfl
    · exact h.stale r hr d hd hw
  · intro r hr worklog hw
    rcases hcases r hr with rfl | ⟨-, hr⟩
    · exact (hapart worklog hw).given
    · exact h.entryIds r hr worklog hw

/-- The store has the copy under `id`, and it would take it again. -/
structure InStep (id : EntryId) (e : TimeEntry) (s : Store) : Prop where
  row : (id, e.stored) ∈ s.entries.rows
  thawed : s.frozen = false
  allowed : s.allowsEntry e = true

theorem InStep.contains (h : InStep id e s) : s.entries.contains id = true :=
  (s.entries.contains_iff).mpr ⟨_, h.row⟩

theorem InStep.onlyStale (h : InStep id e s) (hs : s.OnlyStale s') : InStep id e s' :=
  ⟨by rw [hs.entries_eq]; exact h.row, by rw [hs.sameCatalog.frozen_eq]; exact h.thawed,
    by rw [hs.sameCatalog.allowsEntry_eq]; exact h.allowed⟩

theorem InStep.saves (h : InStep id e s) (he : s.allowsEntry e' = s.allowsEntry e) :
    s.saveEntry id e' = .ok { s with entries := s.entries.modify id fun _ => e'.stored } :=
  Store.saveEntry_of_contains h.contains h.thawed (he.trans h.allowed)

theorem InStep.not_refused (h : InStep id e s) {err : StorageError}
    (he : s.allowsEntry e' = s.allowsEntry e) : s.saveEntry id e' ≠ .error err := by
  rw [h.saves he]
  exact nofun

theorem InStep.saved (h : InStep id e s) (he : s.allowsEntry e' = s.allowsEntry e)
    (hs : s.saveEntry id e' = .ok s') : InStep id e' s' ∧ s'.eraseEntry id = s.eraseEntry id := by
  refine ⟨?_, Store.saveEntry_erase hs⟩
  rw [Store.saveEntry_ok hs]
  exact ⟨(s.entries.mem_put h.contains).mpr (.inl rfl), h.thawed, he.trans h.allowed⟩

/-- The copy is in step with the store; what is left without it is sound. -/
structure Freed (id : EntryId) (e : TimeEntry) (s : Store) (journal : List Exchange) : Prop where
  step : InStep id e s
  rest : Sound (s.eraseEntry id) journal

/-- Besides, the work-log of the copy is apart from what is left. -/
structure Owned (id : EntryId) (e : TimeEntry) (s : Store) (journal : List Exchange) : Prop
    extends Freed id e s journal where
  apart : ∀ worklog, e.worklog = some worklog → Apart (s.eraseEntry id) journal worklog

theorem Owned.sound (h : Owned id e s journal) : Sound s journal := h.rest.join h.step.row h.apart

theorem Freed.saved (h : Freed id e s journal) (he : s.allowsEntry e' = s.allowsEntry e)
    (hapart : ∀ worklog, e'.worklog = some worklog → Apart (s.eraseEntry id) journal worklog)
    (hs : s.saveEntry id e' = .ok s') : Owned id e' s' journal := by
  obtain ⟨hstep, herase⟩ := h.step.saved he hs
  refine ⟨⟨hstep, ?_⟩, ?_⟩
  · rw [herase]
    exact h.rest
  · rw [herase]
    exact hapart

theorem Freed.owned_of_none (h : Freed id e s journal) (hnone : e.worklog = none) :
    Owned id e s journal := ⟨h, fun _ hw => by simp [hnone] at hw⟩

theorem Freed.not_refused (h : Freed id e s journal) {err : StorageError}
    (he : s.allowsEntry e' = s.allowsEntry e) : s.saveEntry id e' ≠ .error err :=
  h.step.not_refused he

/-- `P` outlasts exchanges and forgotten deletions. -/
structure Lasting (P : Store → List Exchange → Prop) : Prop where
  note : ∀ {s journal} (x : Exchange), P s journal → P s (journal ++ [x])
  forget : ∀ {s journal} (stale : StaleId), P s journal → P (s.forgetStale stale) journal

theorem Sound.lasting : Lasting Sound := ⟨fun x h => h.note x, fun stale h => h.forget stale⟩

theorem Sound.rest_lasting : Lasting fun s journal => Sound (s.eraseEntry id) journal :=
  ⟨fun x h => h.note x, fun stale h => h.forget stale⟩

theorem Freed.lasting : Lasting (Freed id e) where
  note x h := ⟨h.step, h.rest.note x⟩
  forget stale h := ⟨h.step.onlyStale (Store.onlyStale_forget stale), h.rest.forget stale⟩

theorem Owned.lasting : Lasting (Owned id e) where
  note x h := ⟨Freed.lasting.note x h.toFreed, fun worklog hw => (h.apart worklog hw).note x⟩
  forget stale h :=
    ⟨Freed.lasting.forget stale h.toFreed, fun worklog hw => (h.apart worklog hw).forget stale⟩

namespace Sync

variable {σ : Type} {tracker : Tracker σ} {user : UserId} {p : TimeEntry} {w : World σ}
  {worklog : Option String} {P : Store → List Exchange → Prop}

/-- `P` holds of the store and the journal, provided that no identifier was given twice. -/
def IfFresh (P : Store → List Exchange → Prop) (w : World σ) : Prop :=
  FreshIds w.journal → P w.store w.journal

theorem IfFresh.note (h : IfFresh P w) (lasting : Lasting P) {x : Exchange} (remote : σ) :
    IfFresh P (w.note x remote) := fun hfresh => lasting.note x (h hfresh.of_append)

theorem IfFresh.forget (h : IfFresh P w) (lasting : Lasting P) {stale : StaleId} :
    IfFresh P (w.put (w.store.forgetStale stale)) := fun hfresh => lasting.forget stale (h hfresh)

theorem bearsRetry_of_lasting (lasting : Lasting P) : BearsRetry user (IfFresh (σ := σ) P) where
  connect remote h := h.note lasting remote
  refused remote h _ _ _ := h.note lasting remote
  confirmed remote h _ _ _ := (h.note lasting remote).forget lasting
  unreachable h _ _ := h.forget lasting

theorem owned_bearsSettling :
    BearsSettling id fun e w => e.worklog = worklog ∧ IfFresh (σ := σ) (Owned id e) w where
  retry _ := .and .const (bearsRetry_of_lasting Owned.lasting)
  lookUp remote h _ _ _ := ⟨h.1, h.2.note Owned.lasting remote⟩
  retitle _ _ h hs := ⟨h.1, fun hfresh => (h.2 hfresh).saved rfl (h.2 hfresh).apart hs⟩
  retitleFails _ _ h hs := ⟨h.1, fun hfresh => absurd hs ((h.2 hfresh).not_refused rfl)⟩

theorem owned_bearsLeaving :
    BearsLeaving id p (fun e w => e.worklog = p.worklog ∧ IfFresh (σ := σ) (Owned id e) w)
      (fun e => IfFresh (Freed id e)) (fun e => IfFresh (Owned id e)) where
  stays h _ := h.2
  skipped h _ _ := fun hfresh => (h.2 hfresh).toFreed
  recorded h _ hw _ _ hs := fun hfresh => by
    obtain ⟨⟨hstep, hrest⟩, hapart⟩ := h.2 hfresh
    refine ⟨hstep.onlyStale (Store.recordStale_onlyStale hs), ?_⟩
    exact hrest.record (hapart _ (h.1.trans hw)) (Store.recordStale_erase hs)
  refused h _ _ _ _ _ := fun hfresh => (h.2 hfresh).toFreed
  retry _ := bearsRetry_of_lasting Freed.lasting
  cleared h hs := fun hfresh => (h hfresh).saved rfl nofun hs
  uncleared h hs := fun hfresh => absurd hs ((h hfresh).not_refused rfl)
  none h hnone := fun hfresh => (h hfresh).owned_of_none hnone

theorem owned_bearsBooking : BearsBooking id fun e => IfFresh (σ := σ) (Owned id e) where
  connect remote h := h.note Owned.lasting remote
  update remote h _ _ _ _ := h.note Owned.lasting remote
  createFails remote h _ := h.note Owned.lasting remote
  create remote h _ _ _ _ _ hs := fun hfresh => by
    have howned := h hfresh.of_append
    refine (Freed.lasting.note _ howned.toFreed).saved rfl ?_ hs
    rintro _ ⟨⟩
    exact howned.rest.apart_new rfl hfresh
  createSame remote h _ _ := h.note Owned.lasting remote
  createUnsaved remote h _ hs := fun hfresh =>
    absurd hs ((h hfresh.of_append).not_refused rfl)

theorem sound_bearsClasses : BearsClasses (IfFresh (σ := σ) Sound) :=
  fun _ _ h hs hfresh => (h hfresh).saveClass hs

theorem sound_bearsCatalog : BearsCatalog (IfFresh (σ := σ) Sound) where
  note remote h _ _ := h.note Sound.lasting remote
  catalog h hs := fun hfresh => (h hfresh).sameEntries hs

theorem Accepted.owned {input : EntryInput} {target : Option EntryId}
    {r : EntryId × TimeEntry × Option TimeEntry} (h : Accepted s user input target r s')
    (hsound : Sound s journal) : Owned r.1 r.2.1 s' journal := by
  have hrest : Sound (s'.eraseEntry r.1) journal := by
    rw [h.erase]
    exact hsound.erase r.1
  have hrow := h.row
  have herase := h.erase
  cases h with
  | new allowed => exact ⟨⟨⟨hrow, hsound.thawed, allowed⟩, hrest⟩, nofun⟩
  | edited row own thawed allowed =>
      refine ⟨⟨⟨hrow, thawed, allowed⟩, hrest⟩, ?_⟩
      rw [herase]
      intro worklog hw
      obtain ⟨stored, kind, hstored, rfl⟩ := Store.row_of_entryAt row
      exact hsound.apart hstored hw

theorem save_keepsSound {target : Option EntryId} {input : EntryInput} (h : IfFresh Sound w) :
    (save tracker user target input).Leads (fun _ => IfFresh Sound) (fun _ => IfFresh Sound) w := by
  refine save_keeps (accept_stores.mono ?_ (fun _ _ hw => hw ▸ h)) sound_bearsClasses
  rintro ⟨id, e, previous⟩ _ ⟨s, haccepted, rfl⟩
  have howned : e.worklog = e.worklog ∧ IfFresh (Owned id e) (w.put s) :=
    ⟨rfl, fun hfresh => haccepted.owned (h hfresh)⟩
  have hleaves : ∀ p ∈ previous, p.user = e.user ∧ BearsLeaving id p
      (fun e' w' => e'.worklog = e.worklog ∧ IfFresh (σ := σ) (Owned id e') w')
      (fun e' => IfFresh (Freed id e')) (fun e' => IfFresh (Owned id e')) := by
    intro p hp
    obtain ⟨huser, hworklog⟩ := haccepted.previous p hp
    exact ⟨huser, hworklog ▸ owned_bearsLeaving⟩
  refine Working.Leads.mono (reconcile_keeps ?_ (fun _ _ _ h => h.2) hleaves owned_bearsBooking)
    (fun _ _ _ h hfresh => (h hfresh).sound) (fun _ _ _ h hfresh => (h hfresh).sound)
  exact (settle_keeps owned_bearsSettling howned).mono (fun _ _ _ h => h) (fun _ _ _ h => h.1.2)

/-- However the removal of its work-log ends, the entry leaves a sound rest. -/
theorem removeWorklog_keepsRest {stored : StoredEntry} {kind : EntryClass} (h : IfFresh Sound w)
    (hrow : (id, stored) ∈ w.store.entries.rows) :
    (removeWorklog tracker (stored.withKind kind)).Leads
      (fun _ => IfFresh fun s journal => Sound (s.eraseEntry id) journal)
      (fun _ => IfFresh fun s journal => Sound (s.eraseEntry id) journal) w := by
  refine (removeWorklog_keeps (K := IfFresh fun s journal => Sound (s.eraseEntry id) journal)
    (bearsRetry_of_lasting Sound.rest_lasting) ?_ ?_ ?_).mono (fun _ _ h => h.1) (fun _ _ h => h.1)
  · exact fun _ hfresh => (h hfresh).erase id
  · intro worklog r s hw _ _ hs hfresh
    have hapart := (h hfresh).apart hrow hw
    exact ((h hfresh).erase id).record hapart (Store.recordStale_erase hs)
  · exact fun _ _ _ _ hfresh => (h hfresh).erase id

theorem delete_keepsSound (h : IfFresh Sound w) :
    (delete tracker user id).Leads (fun _ => IfFresh Sound) (fun _ => IfFresh Sound) w := by
  refine (delete_keeps (fun {e} hentry _ => ?_) sound_bearsClasses).mono (fun _ _ h => h)
    (fun _ _ hw => hw ▸ h)
  obtain ⟨stored, kind, hrow, rfl⟩ := Store.row_of_entryAt hentry
  exact removeWorklog_keepsRest h hrow

theorem work_keepsSound (c : Call σ) (h : IfFresh Sound w) :
    c.work.Leads (fun _ => IfFresh Sound) (fun _ => IfFresh Sound) w :=
  work_keeps h (fun _ _ h => save_keepsSound h) (fun _ _ _ => save_keepsSound h)
    (fun _ _ => delete_keepsSound h)

end Sync

/-- There are neither entries nor pending deletions, nothing was sent, and classes can be
written. -/
structure World.Blank {σ : Type} (w : World σ) : Prop where
  entries : w.store.entries.rows = []
  stale : w.store.stale.rows = []
  journal : w.journal = []
  thawed : w.store.frozen = false

theorem World.Blank.sound {σ : Type} {w : World σ} (h : w.Blank) : Sound w.store w.journal := by
  refine ⟨⟨?_, ?_⟩, h.thawed, ?_, ?_⟩ <;> simp [h.entries, h.stale]

/-- Whatever happens, no work-log is shared, and no pending deletion aims at one that an entry
has. -/
theorem exclusive_after {σ : Type} {w : World σ} (blank : w.Blank) (events : List (Event σ))
    (fresh : FreshIds (w.after events).journal) : (w.after events).store.Exclusive :=
  (Sync.after_keeps Sync.sound_bearsCatalog (fun c _ h => Sync.work_keepsSound c h) events
    (fun _ => blank.sound) fresh).toExclusive

/-- One user, one ticket system to which that user has access, and one project that books on it. -/
def office : Store :=
  { Store.empty with
    users := Table.empty.push ⟨"ada"⟩
    systems := Table.empty.push ⟨"tracker", .jira, "", true⟩
    grants := [⟨⟨1⟩, ⟨1⟩, ⟨"token", ""⟩⟩]
    projects := Table.empty.push { Project.blank "project" with system := some ⟨1⟩ } }

def stubbornOffice : World InMemory :=
  { store := office, journal := []
    remote := { InMemory.empty with
      rules := [⟨.deleteWorklog, none, none, .failed "refused" []⟩] } }

def saveOnTicket (id : Option EntryId) (ticket : String) : Call InMemory where
  tracker := InMemory.tracker
  user := ⟨1⟩
  action := .save id
    { project := ⟨1⟩, customer := none, activity := none, ticket, description := ""
      day := ⟨2024, .may, 6, by decide, by decide, by decide, by decide⟩
      start := .midnight, finish := .midnight }

/-- Two entries are created, and then both are moved to other tickets. -/
def twoMoves : List (Call InMemory) :=
  [saveOnTicket none "A-1", saveOnTicket none "A-2", saveOnTicket (some ⟨2⟩) "A-3",
    saveOnTicket (some ⟨1⟩) "A-4"]

theorem stubbornOffice_blank : stubbornOffice.Blank := ⟨rfl, rfl, rfl, rfl⟩

theorem twoMoves_fresh : FreshIds (stubbornOffice.after (twoMoves.map .call)).journal := by
  decide +kernel

/-- After the second entry was moved, its old work-log is pending, and it is no entry's. -/
theorem exclusive_after_twoMoves :
    (stubbornOffice.after (twoMoves.map .call)).store.stale.rows.length = 1 ∧
      (stubbornOffice.after (twoMoves.map .call)).store.Exclusive :=
  ⟨by decide +kernel, exclusive_after stubbornOffice_blank _ twoMoves_fresh⟩

end Timesheet
