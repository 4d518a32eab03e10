import Timesheet.Proofs.Retry

/-!
What the statements on entries and pending deletions leave alone, and routes, which depend only on
the catalog.
-/
namespace Timesheet

theorem Entry.read_ok {row : StoredEntry} {e : TimeEntry} (h : row.read = .ok e) :
    ∃ kind, e = row.withKind kind := by
  unfold Entry.read at h
  split at h
  · next kind _ => exact ⟨kind, by cases h; rfl⟩
  · cases h

namespace Store

variable {s s' s'' : Store}

/-- From `s` to `s'` nothing but entries and pending deletions changed. -/
def SameCatalog (s s' : Store) : Prop := s' = { s with entries := s'.entries, stale := s'.stale }

theorem SameCatalog.refl (s : Store) : s.SameCatalog s := rfl

theorem SameCatalog.trans (h : s.SameCatalog s') (h' : s'.SameCatalog s'') : s.SameCatalog s'' := by
  unfold SameCatalog at *
  rw [h', h]

theorem OnlyStale.sameCatalog (h : s.OnlyStale s') : s.SameCatalog s' := by
  unfold OnlyStale at h
  unfold SameCatalog
  rw [h]

theorem OnlyStale.entries_eq (h : s.OnlyStale s') : s'.entries = s.entries := by
  unfold OnlyStale at h
  rw [h]

/-- The route of the project under `id`. None where there is no such project or no ticket system is
configured for it. -/
def route? (s : Store) (id : ProjectId) : Option Route :=
  (s.project? id).bind fun p => (Route.ofProject s p).toOption.join

/-- The route of the project under `id`, when it books work-logs. -/
def bookingRoute? (s : Store) (id : ProjectId) : Option Route := (s.route? id).filter (·.books)

section Catalog
variable (h : s.SameCatalog s')
include h

theorem SameCatalog.frozen_eq : s'.frozen = s.frozen := by rw [h]

theorem SameCatalog.users_eq : s'.users = s.users := by rw [h]

theorem SameCatalog.system?_eq (id : SystemId) : s'.system? id = s.system? id := by rw [h]; rfl

theorem SameCatalog.token?_eq (user : UserId) (id : SystemId) :
    s'.token? user id = s.token? user id := by rw [h]; rfl

theorem SameCatalog.project?_eq (id : ProjectId) : s'.project? id = s.project? id := by rw [h]; rfl

theorem SameCatalog.allowsEntry_eq {κ : Type} (e : Entry κ) :
    s'.allowsEntry e = s.allowsEntry e := by
  rw [h]; rfl

theorem SameCatalog.ofProject_eq (p : Project) : Route.ofProject s' p = Route.ofProject s p := by
  rw [h]; rfl

theorem SameCatalog.route?_eq (id : ProjectId) : s'.route? id = s.route? id := by rw [h]; rfl

theorem SameCatalog.bookingRoute?_eq (id : ProjectId) :
    s'.bookingRoute? id = s.bookingRoute? id := by
  rw [bookingRoute?, h.route?_eq, bookingRoute?]

theorem SameCatalog.check_eq (i : EntryInput) : i.check s' = i.check s := by rw [h]; rfl

end Catalog

theorem saveEntry_ok {id : EntryId} {e : TimeEntry} (h : s.saveEntry id e = .ok s') :
    s' = { s with entries := s.entries.modify id fun _ => e.stored } := by
  unfold saveEntry at h
  split at h
  · next hno =>
      rw [Table.modify_of_not_contains _ (by simpa using hno)]
      cases h
      rfl
  · split at h
    · cases h
    · split at h
      · cases h
        rfl
      · cases h

theorem saveClass_ok {id : EntryId} {kind : EntryClass} (h : s.saveClass id kind = .ok s') :
    s' = { s with entries := s.entries.modify id fun e => e.withKind kind.code } := by
  unfold saveClass saveCode at h
  split at h
  · next hno =>
      rw [Table.modify_of_not_contains _ (by simpa using hno)]
      cases h
      rfl
  · split at h
    · cases h
    · cases h
      rfl

theorem saveEntry_of_contains {id : EntryId} {e : TimeEntry} (hid : s.entries.contains id = true)
    (hf : s.frozen = false) (he : s.allowsEntry e = true) :
    s.saveEntry id e = .ok { s with entries := s.entries.modify id fun _ => e.stored } := by
  simp [saveEntry, hid, hf, he]

theorem saveEntry_allowed {id : EntryId} {e : TimeEntry} (h : s.saveEntry id e = .ok s')
    (hid : s.entries.contains id = true) : s.frozen = false ∧ s.allowsEntry e = true := by
  simp only [saveEntry, hid, Bool.not_true, Bool.false_eq_true, if_false] at h
  split at h
  · cases h
  · next hf =>
      split at h
      · next ha => exact ⟨by simpa using hf, ha⟩
      · cases h

theorem users_of_allowsEntry {κ : Type} {e : Entry κ} (h : s.allowsEntry e = true) :
    s.users.contains e.user = true := by
  simp only [allowsEntry, Bool.and_eq_true] at h
  exact h.1.1.1

theorem systems_of_system? {id : SystemId} {system : TicketSystem}
    (h : s.system? id = some system) :
    s.systems.contains id = true := Option.isSome_of_eq_some h

theorem saveEntry_sameCatalog {id : EntryId} {e : TimeEntry} (h : s.saveEntry id e = .ok s') :
    s.SameCatalog s' := by
  rw [saveEntry_ok h]
  rfl

theorem saveEntry_erase {id : EntryId} {e : TimeEntry} (h : s.saveEntry id e = .ok s') :
    s'.eraseEntry id = s.eraseEntry id := by
  simp only [saveEntry_ok h, eraseEntry, Table.erase_modify]

theorem saveClass_sameCatalog {id : EntryId} {kind : EntryClass}
    (h : s.saveClass id kind = .ok s') : s.SameCatalog s' := by
  rw [saveClass_ok h]
  rfl

theorem entryAt_eq_some_iff {id : EntryId} {e : TimeEntry} :
    s.entryAt id = .ok (some e) ↔ ∃ row, (id, row) ∈ s.entries.rows ∧ row.read = .ok e := by
  unfold entryAt
  constructor
  · intro h
    cases hrow : s.entries.find? id with
    | none => simp [hrow] at h
    | some row =>
        refine ⟨row, (s.entries.find?_eq_some_iff).mp hrow, ?_⟩
        cases hread : row.read with
        | error err => simp [hrow, hread, Except.map] at h
        | ok e' => simpa [hrow, hread, Except.map] using h
  · rintro ⟨row, hrow, hread⟩
    rw [(s.entries.find?_eq_some_iff).mpr hrow]
    simp [hread, Except.map]

/-- A deletion that is there already, for whichever user, is not recorded again. Another one comes
last, and leads to rows that are there. -/
theorem recordStale_ok {d : StaleWorklog} (h : s.recordStale d = .ok s') :
    (s' = s ∧ ∃ r ∈ s.stale.rows, r.2.system = d.system ∧ r.2.ticket = d.ticket ∧
        r.2.worklog = d.worklog) ∨
      s' = { s with stale := s.stale.push d } ∧ s.users.contains d.user = true ∧
        s.systems.contains d.system = true := by
  simp only [recordStale] at h
  split at h
  · next hsame =>
      obtain ⟨r, hr, hsame⟩ := List.any_eq_true.mp hsame
      simp only [Bool.and_eq_true, beq_iff_eq, and_assoc] at hsame
      cases h
      exact .inl ⟨rfl, r, hr, hsame⟩
  · split at h
    · next hrefers =>
        cases h
        exact .inr ⟨rfl, Bool.and_eq_true_iff.mp hrefers⟩
    · cases h

theorem recordStale_onlyStale {d : StaleWorklog} (h : s.recordStale d = .ok s') :
    s.OnlyStale s' := by
  rcases recordStale_ok h with ⟨rfl, -⟩ | ⟨rfl, -⟩ <;> rfl

theorem row_of_entryAt {id : EntryId} {e : TimeEntry} (h : s.entryAt id = .ok (some e)) :
    ∃ row kind, (id, row) ∈ s.entries.rows ∧ e = row.withKind kind := by
  obtain ⟨row, hrow, hread⟩ := entryAt_eq_some_iff.mp h
  obtain ⟨kind, he⟩ := Entry.read_ok hread
  exact ⟨row, kind, hrow, he⟩

theorem contains_of_entryAt {id : EntryId} {e : TimeEntry} (h : s.entryAt id = .ok (some e)) :
    s.entries.contains id = true := by
  obtain ⟨row, -, hrow, -⟩ := row_of_entryAt h
  exact (s.entries.contains_iff).mpr ⟨row, hrow⟩

theorem mem_recordStale {d : StaleWorklog} (h : s.recordStale d = .ok s') :
    ∀ r ∈ s'.stale.rows, r ∈ s.stale.rows ∨ r.2 = d := by
  intro r hr
  rcases recordStale_ok h with ⟨rfl, -⟩ | ⟨rfl, -⟩
  · exact .inl hr
  · rcases (s.stale.mem_push).mp hr with hr | rfl
    · exact .inl hr
    · exact .inr rfl

theorem eq_of_pending_recordStale {d : StaleWorklog} {user : UserId}
    (h : s.recordStale d = .ok s') (hp : s.pendingOf user = []) :
    ∀ r ∈ s'.pendingOf user, r.2 = d := by
  intro r hr
  obtain ⟨hrow, huser⟩ := mem_pendingOf.mp hr
  rcases mem_recordStale h r hrow with hold | hnew
  · have hbefore := mem_pendingOf.mpr ⟨hold, huser⟩
    rw [hp] at hbefore
    cases hbefore
  · exact hnew

theorem recordStale_subset {d : StaleWorklog} (h : s.recordStale d = .ok s') :
    ∀ r ∈ s.stale.rows, r ∈ s'.stale.rows := by
  intro r hr
  rcases recordStale_ok h with ⟨rfl, -⟩ | ⟨rfl, -⟩
  · exact hr
  · exact (s.stale.mem_push).mpr (.inl hr)

theorem recordStale_target {d : StaleWorklog} (h : s.recordStale d = .ok s') :
    ∃ r ∈ s'.stale.rows, r.2.system = d.system ∧ r.2.ticket = d.ticket ∧
      r.2.worklog = d.worklog := by
  rcases recordStale_ok h with ⟨rfl, hthere⟩ | ⟨rfl, -⟩
  · exact hthere
  · exact ⟨_, (s.stale.mem_push).mpr (.inr rfl), rfl, rfl, rfl⟩

theorem recordStale_of_contains {d : StaleWorklog} (hu : s.users.contains d.user = true)
    (hs : s.systems.contains d.system = true) {err : StorageError} :
    s.recordStale d ≠ .error err := by
  simp only [recordStale, hu, hs, Bool.and_self, if_true]
  split <;> exact nofun

theorem recordStale_erase {d : StaleWorklog} {id : EntryId} (h : s.recordStale d = .ok s') :
    (s.eraseEntry id).recordStale d = .ok (s'.eraseEntry id) := by
  have hstale : (s.eraseEntry id).stale = s.stale := rfl
  have husers : (s.eraseEntry id).users = s.users := rfl
  have hsystems : (s.eraseEntry id).systems = s.systems := rfl
  simp only [recordStale] at *
  rw [hstale, husers, hsystems]
  split at h
  · next hsame =>
      cases h
      rw [if_pos hsame]
  · next hsame =>
      rw [if_neg hsame]
      split at h
      · next hrefers =>
          cases h
          rw [if_pos hrefers]
          rfl
      · cases h

end Store

end Timesheet
