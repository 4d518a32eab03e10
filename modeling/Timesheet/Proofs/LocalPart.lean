import Timesheet.Proofs.Days
import Timesheet.Proofs.Frame
import Timesheet.Proofs.Stages

/-!
The local part of a store: what is left of it without pending deletions, and without the columns in
which the remote side has a say. Of these columns only those of given entries are left out.

Statements on entries and classes do to the local part what they do to the store.
-/
namespace Timesheet

/-- The entry without the columns in which the remote side has a say. -/
def Entry.localPart {κ : Type} (e : Entry κ) : Entry κ :=
  { e with ticket := "", typed := none, worklog := none }

/-- A row of which only the local part is left when its entry is one of `saved`. -/
def blankRow {κ : Type} (saved : List EntryId) (id : EntryId) (e : Entry κ) : Entry κ :=
  if id ∈ saved then e.localPart else e

/-- The store without pending deletions, and without the columns of the entries `saved` in which the
remote side has a say. -/
def Store.localPart (saved : List EntryId) (s : Store) : Store :=
  { s with entries := s.entries.mapRows (blankRow saved), stale := ∅ }

theorem blankRow_blankRow {κ : Type} {saved saved' : List EntryId} (h : saved ⊆ saved')
    (id : EntryId) (e : Entry κ) :
    blankRow saved' id (blankRow saved id e) = blankRow saved' id e := by
  unfold blankRow
  by_cases hid : id ∈ saved
  · simp only [if_pos hid, if_pos (h hid)]
    rfl
  · simp only [if_neg hid]

theorem blankRow_kind {κ : Type} (saved : List EntryId) (id : EntryId) (e : Entry κ) :
    (blankRow saved id e).kind = e.kind := by
  unfold blankRow
  split <;> rfl

theorem span_blankRow {κ : Type} (saved : List EntryId) (id : EntryId) (e : Entry κ) :
    Store.span (blankRow saved id e) = Store.span e := by
  unfold blankRow
  split <;> rfl

namespace Store

variable {saved : List EntryId} {s t : Store} {user : UserId} {id : EntryId}

/-- Two stores with the same local part may differ in the columns of the entries `saved` in which
the remote side has a say, and in pending deletions. -/
def SameLocal (saved : List EntryId) (s t : Store) : Prop := s.localPart saved = t.localPart saved

theorem SameLocal.sameCatalog (h : SameLocal saved s t) : s.SameCatalog t := by
  obtain ⟨users, systems, grants, customers, activities, projects, entries, stale, frozen⟩ := s
  simp only [SameLocal, localPart, Store.mk.injEq] at h
  obtain ⟨rfl, rfl, rfl, rfl, rfl, rfl, -, -, rfl⟩ := h
  rfl

theorem SameLocal.entries (h : SameLocal saved s t) :
    s.entries.mapRows (blankRow saved) = t.entries.mapRows (blankRow saved) :=
  congrArg Store.entries h

theorem SameLocal.refl (s : Store) : SameLocal saved s s := rfl

theorem SameLocal.trans {u : Store} (h : SameLocal saved s t) (h' : SameLocal saved t u) :
    SameLocal saved s u := Eq.trans h h'

theorem SameLocal.symm (h : SameLocal saved s t) : SameLocal saved t s := Eq.symm h

theorem SameLocal.mono {saved' : List EntryId} (h : SameLocal saved s t) (hsub : saved ⊆ saved') :
    SameLocal saved' s t := by
  have hmap : ∀ r : Store, r.localPart saved' = (r.localPart saved).localPart saved' := by
    intro r
    have hrows := r.entries.mapRows_mapRows (blankRow saved) (blankRow_blankRow hsub)
    simp only [localPart, hrows]
  unfold SameLocal
  rw [hmap s, hmap t]
  exact congrArg (localPart saved') h

theorem OnlyStale.sameLocal (h : s.OnlyStale t) : SameLocal saved s t := by
  unfold OnlyStale at h
  unfold SameLocal localPart
  rw [h]

theorem SameLocal.nextId_eq (h : SameLocal saved s t) :
    t.entries.nextId = s.entries.nextId := by
  rw [← t.entries.nextId_mapRows (blankRow saved), ← h.entries, Table.nextId_mapRows]

theorem SameLocal.push (h : SameLocal saved s t) (e : StoredEntry) :
    SameLocal saved { s with entries := s.entries.push e }
      { t with entries := t.entries.push e } := by
  have hcatalog := h.sameCatalog
  unfold SameLocal localPart
  simp only [Table.mapRows_push, h.nextId_eq, h.entries]
  rw [hcatalog]

theorem SameLocal.erase (h : SameLocal saved s t) (id : EntryId) :
    SameLocal saved (s.eraseEntry id) (t.eraseEntry id) := by
  have hcatalog := h.sameCatalog
  unfold SameLocal localPart eraseEntry
  simp only [Table.mapRows_erase, h.entries]
  rw [hcatalog]

theorem SameLocal.saveEntry {e e' : TimeEntry} {s' : Store} (h : SameLocal saved t s)
    (hrow : (id, e.stored) ∈ t.entries.rows) (hid : id ∈ saved) (he : e'.localPart = e.localPart)
    (hs : s.saveEntry id e' = .ok s') : SameLocal saved t s' := by
  have hblank : ∀ f : TimeEntry, blankRow saved id f.stored = f.stored.localPart := by
    intro f
    simp only [blankRow, if_pos hid]
  have hstored : e'.stored.localPart = e.stored.localPart := congrArg Entry.stored he
  have hwrite := s.entries.mapRows_modify (blankRow saved) id (g := fun _ => e'.stored)
    (h := fun _ => e.stored.localPart) fun _ => (hblank e').trans hstored
  have hkeep := t.entries.mapRows_modify (blankRow saved) id (g := fun _ => e.stored)
    (h := fun _ => e.stored.localPart) fun _ => hblank e
  have hentries := h.entries
  unfold SameLocal at h ⊢
  rw [h, saveEntry_ok hs]
  simp only [localPart]
  rw [hwrite, ← hentries, ← hkeep, Table.modify_of_mem _ hrow]

theorem saveClass_localPart {kind : EntryClass} :
    (s.localPart saved).saveClass id kind = (s.saveClass id kind).map (localPart saved) := by
  have hcontains : (s.localPart saved).entries.contains id = s.entries.contains id :=
    s.entries.contains_mapRows _
  have hmodify := s.entries.mapRows_modify (blankRow saved) id
    (g := fun e => { e with kind := kind.code }) (h := fun e => { e with kind := kind.code })
    fun e => by
      unfold blankRow
      split <;> rfl
  unfold saveClass saveCode
  rw [hcontains]
  split
  · rfl
  · by_cases hfrozen : s.frozen = true
    · simp only [localPart, hfrozen, if_true]
      rfl
    · simp only [localPart, hfrozen]
      simp only [Except.map, ← hmodify]
      rfl

def blankRows {κ : Type} (saved : List EntryId) (rows : List (EntryId × Entry κ)) :
    List (EntryId × Entry κ) :=
  rows.map fun r => (r.1, blankRow saved r.1 r.2)

theorem dayRows_localPart {day : Date} :
    (s.localPart saved).dayRows user day = blankRows saved (s.dayRows user day) := by
  have hkeep : ∀ (id : EntryId) (e : StoredEntry), (blankRow saved id e).user = e.user ∧
      (blankRow saved id e).day = e.day ∧ (blankRow saved id e).start = e.start := by
    intro id e
    unfold blankRow
    split <;> exact ⟨rfl, rfl, rfl⟩
  exact dayRows_mapRows hkeep

theorem readRow_blank (r : EntryId × StoredEntry) :
    readRow (r.1, blankRow saved r.1 r.2) =
      (readRow r).map fun row => (row.1, blankRow saved row.1 row.2) := by
  unfold readRow Entry.read blankRow
  by_cases h : r.1 ∈ saved
  · simp only [if_pos h, Entry.localPart]
    cases EntryClass.ofCode? r.2.kind with
    | none => rfl
    | some kind => simp [Except.map, h, Entry.withKind]
  · simp only [if_neg h]
    cases EntryClass.ofCode? r.2.kind with
    | none => rfl
    | some kind => simp [Except.map, h]

theorem mapM_readRow_blankRows (rows : List (EntryId × StoredEntry)) :
    (blankRows saved rows).mapM readRow = (rows.mapM readRow).map (blankRows saved) := by
  induction rows with
  | nil => rfl
  | cons r rest ih =>
      simp only [blankRows, List.map_cons, List.mapM_cons] at ih ⊢
      rw [readRow_blank, ih]
      cases readRow r with
      | error err => rfl
      | ok row => cases rest.mapM readRow <;> rfl

theorem classChanges_blankRows (day : List (EntryId × TimeEntry)) :
    classChanges (blankRows saved day) = classChanges day := by
  unfold classChanges blankRows
  simp only [List.map_map, Function.comp_def, span_blankRow]
  rw [List.zip_map_left, List.filter_map, List.map_map]
  simp only [Function.comp_def, Prod.map, blankRow_kind]
  rfl

theorem writeAll_localPart (changes : List (EntryId × EntryClass)) (written : Nat) :
    reclassifyDay.writeAll changes written (s.localPart saved) =
      ((reclassifyDay.writeAll changes written s).1,
        (reclassifyDay.writeAll changes written s).2.localPart saved) := by
  induction changes generalizing s written with
  | nil => rfl
  | cons change rest ih =>
      obtain ⟨id, kind⟩ := change
      unfold reclassifyDay.writeAll
      rw [saveClass_localPart]
      cases s.saveClass id kind with
      | error err => rfl
      | ok s' => exact ih (written + 1)

/-- Classes depend on the local part only, and writing them changes only this. -/
theorem reclassifyDay_localPart {day : Date} :
    ((s.localPart saved).reclassifyDay user day).2 =
      (s.reclassifyDay user day).2.localPart saved := by
  unfold reclassifyDay dayEntries
  rw [dayRows_localPart, mapM_readRow_blankRows]
  cases (s.dayRows user day).mapM readRow with
  | error err => rfl
  | ok entries =>
      simp only [Except.map, classChanges_blankRows]
      rw [writeAll_localPart]

theorem SameLocal.reclassifyDay (h : SameLocal saved s t) (day : Date) :
    SameLocal saved (s.reclassifyDay user day).2 (t.reclassifyDay user day).2 := by
  unfold SameLocal at h ⊢
  rw [← reclassifyDay_localPart, ← reclassifyDay_localPart, h]

theorem SameLocal.reclassifyDays (h : SameLocal saved s t) (e : TimeEntry)
    (previous : Option TimeEntry) :
    SameLocal saved (s.reclassifyDays user e previous) (t.reclassifyDays user e previous) := by
  unfold Store.reclassifyDays
  rcases previous with _ | p
  · exact h.reclassifyDay e.day
  · dsimp only
    split
    · exact h.reclassifyDay e.day
    · exact (h.reclassifyDay e.day).reclassifyDay p.day

end Store

end Timesheet
