import Timesheet.Proofs.Calls

/-!
Saves that fail change nothing. What comes after the local part of a save cannot fail, since the
entry that was stored can be read in the end; and a bulk creation stores either all of its entries
or none, since what decides about an entry is in the catalog, which no save changes.
-/
namespace Timesheet

/-- The entry `id` is there, and its class can be read. -/
def Store.Readable (s : Store) (id : EntryId) : Prop := ∃ e, s.entryAt id = .ok (some e)

namespace Store

variable {s s' : Store} {id : EntryId}

theorem readable_of_mem {e : TimeEntry} (h : (id, e.stored) ∈ s.entries.rows) : s.Readable id :=
  ⟨e, entryAt_eq_some_iff.mpr ⟨_, h, e.read_stored⟩⟩

theorem Readable.contains (h : s.Readable id) : s.entries.contains id = true := by
  obtain ⟨e, he⟩ := h
  exact contains_of_entryAt he

theorem Readable.saveEntry {e : TimeEntry} (h : s.Readable id) (hs : s.saveEntry id e = .ok s') :
    s'.Readable id := by
  rw [saveEntry_ok hs]
  exact readable_of_mem ((s.entries.mem_put h.contains).mpr (.inl rfl))

theorem Readable.saveClass {changed : EntryId} {kind : EntryClass} (h : s.Readable id)
    (hs : s.saveClass changed kind = .ok s') : s'.Readable id := by
  obtain ⟨e, he⟩ := h
  obtain ⟨row, hrow, hread⟩ := entryAt_eq_some_iff.mp he
  rw [saveClass_ok hs]
  by_cases hid : id = changed
  · refine ⟨row.withKind kind, entryAt_eq_some_iff.mpr ⟨row.withKind kind.code, ?_, ?_⟩⟩
    · exact (s.entries.mem_modify).mpr ⟨row, hrow, by simp [hid]⟩
    · exact (row.withKind kind).read_stored
  · refine ⟨e, entryAt_eq_some_iff.mpr ⟨row, ?_, hread⟩⟩
    exact (s.entries.mem_modify).mpr ⟨row, hrow, by simp [hid]⟩

end Store

namespace Sync

variable {σ : Type} {tracker : Tracker σ} {user : UserId} {id : EntryId} {p : TimeEntry}
  {s s' s'' : Store} {w : World σ}

/-- From `s` to `s'` the catalog is the same, no entry came or went, and the entry `id` can be read
in the end. -/
structure Standing (s : Store) (id : EntryId) (s' : Store) : Prop where
  catalog : s.SameCatalog s'
  ids : s'.entries.ids = s.entries.ids
  readable : s'.Readable id

theorem Standing.saveEntry {e : TimeEntry} (h : Standing s id s')
    (hs : s'.saveEntry id e = .ok s'') : Standing s id s'' := by
  refine ⟨h.catalog.trans (Store.saveEntry_sameCatalog hs), ?_, h.readable.saveEntry hs⟩
  rw [Store.saveEntry_ok hs, Table.ids_modify]
  exact h.ids

theorem Standing.onlyStale (h : Standing s id s') (hs : s'.OnlyStale s'') : Standing s id s'' := by
  refine ⟨h.catalog.trans hs.sameCatalog, ?_, ?_⟩
  · rw [hs.entries_eq]
    exact h.ids
  · obtain ⟨e, he⟩ := h.readable
    exact ⟨e, by rw [Store.entryAt, hs.entries_eq]; exact he⟩

theorem standing_bearsRetry : BearsRetry user fun w : World σ => Standing s id w.store where
  connect _ h := h
  refused _ h _ _ _ := h
  confirmed _ h _ _ _ := h.onlyStale (Store.onlyStale_forget _)
  unreachable h _ _ := h.onlyStale (Store.onlyStale_forget _)

theorem standing_bearsSettling :
    BearsSettling id fun _ (w : World σ) => Standing s id w.store where
  retry _ := standing_bearsRetry
  lookUp _ h _ _ _ := h
  retitle _ _ h hs := h.saveEntry hs
  retitleFails _ _ h _ := h

theorem standing_bearsLeaving :
    BearsLeaving id p (fun _ (w : World σ) => Standing s id w.store)
      (fun _ w => Standing s id w.store) (fun _ w => Standing s id w.store) where
  stays h _ := h
  skipped h _ _ := h
  recorded h _ _ _ _ hs := h.onlyStale (Store.recordStale_onlyStale hs)
  refused h _ _ _ _ _ := h
  retry _ := standing_bearsRetry
  cleared h hs := h.saveEntry hs
  uncleared h _ := h
  none h _ := h

theorem standing_bearsBooking : BearsBooking id fun _ (w : World σ) => Standing s id w.store where
  connect _ h := h
  update _ h _ _ _ _ := h
  createFails _ h _ := h
  create _ h _ _ _ _ _ hs := h.saveEntry hs
  createSame _ h _ _ := h
  createUnsaved _ h _ _ := h

theorem standing_bearsClasses : BearsClasses fun w : World σ => Standing s id w.store := by
  intro w s' changed kind h hs
  refine ⟨h.catalog.trans (Store.saveClass_sameCatalog hs), ?_, h.readable.saveClass hs⟩
  rw [World.put_store, Store.saveClass_ok hs, Table.ids_modify]
  exact h.ids

theorem reconcile_standing {e : TimeEntry} {previous : Option TimeEntry}
    (h : Standing s id w.store) (hp : ∀ p ∈ previous, p.user = e.user) :
    (reconcile tracker id previous).Leads (fun _ _ w' => Standing s id w'.store)
      (fun _ _ w' => Standing s id w'.store) e w :=
  reconcile_keepsAll standing_bearsSettling (fun p hp' => ⟨hp p hp', standing_bearsLeaving⟩)
    standing_bearsBooking h

theorem followUp_succeeds {e : TimeEntry} {previous : Option TimeEntry}
    (h : Standing s id w.store) (hp : ∀ p ∈ previous, p.user = e.user) :
    (followUp tracker user id e previous).Leads (fun _ w' => Standing s id w'.store)
      (fun _ _ => False) w := by
  refine (followUp_keeps (reconcile_standing h hp) standing_bearsClasses).mono
    (fun _ _ h => h.1) ?_
  rintro err w' ⟨hstanding, hread⟩
  obtain ⟨e', he'⟩ := hstanding.readable
  exact hread e' he'

theorem Accepted.standing {input : EntryInput} {target : Option EntryId}
    {r : EntryId × TimeEntry × Option TimeEntry} (h : Accepted s user input target r s') :
    Standing s' r.1 s' := ⟨.refl s', rfl, Store.readable_of_mem h.row⟩

theorem save_refuses {target : Option EntryId} {input : EntryInput} :
    (save tracker user target input).Leads (fun _ w' => w.store.SameCatalog w'.store)
      (fun _ w' => w' = w) w := by
  unfold save
  rw [leads_bind]
  refine accept_stores.mono ?_ (fun _ _ h => h)
  rintro r w₁ ⟨s, haccepted, rfl⟩
  exact (followUp_succeeds haccepted.standing haccepted.previous_user).mono
    (fun _ _ h => haccepted.sameCatalog.trans h.catalog) (fun _ _ h => h.elim)

/-- A new entry with these values would be stored. -/
def Storable (s : Store) (user : UserId) (input : EntryInput) : Prop :=
  input.check s = .ok () ∧ s.allowsEntry (input.newEntry user) = true

theorem storable_day {s : Store} {input : EntryInput} (day : Date) :
    Storable s user { input with day } ↔ Storable s user input := Iff.rfl

theorem storable_of_sameCatalog {s s' : Store} {input : EntryInput} (h : s.SameCatalog s') :
    Storable s' user input ↔ Storable s user input := by
  rw [Storable, h.check_eq, h.allowsEntry_eq, Storable]

/-- From `s` to `s'` the catalog is the same, and one entry came. -/
structure OneMore (s s' : Store) : Prop where
  catalog : s.SameCatalog s'
  ids : s'.entries.ids = s.entries.ids ++ [s.entries.nextId]

theorem Accepted.oneMore {input : EntryInput} {r : EntryId × TimeEntry × Option TimeEntry}
    (h : Accepted s user input none r s') (hs : Standing s' r.1 s'') : OneMore s s'' := by
  refine ⟨h.sameCatalog.trans hs.catalog, hs.ids.trans ?_⟩
  cases h with
  | new => exact s.entries.ids_push _

theorem accept_new_decides {input : EntryInput} :
    (accept user none input).Leads
      (fun r w' => Storable w.store user input ∧
        ∃ s, Accepted w.store user input none r s ∧ w' = w.put s)
      (fun _ w' => ¬ Storable w.store user input ∧ w' = w) w := by
  rw [leads_accept_new]
  cases hcheck : input.check w.store with
  | error err => exact ⟨fun h => by simp [h.1] at hcheck, rfl⟩
  | ok _ =>
      dsimp only
      split
      · next hallowed => exact ⟨⟨hcheck, hallowed⟩, _, .new hallowed, rfl⟩
      · next hallowed => exact ⟨fun h => hallowed h.2, rfl⟩

theorem save_new_decides {input : EntryInput} :
    (save tracker user none input).Leads
      (fun _ w' => Storable w.store user input ∧ OneMore w.store w'.store)
      (fun _ w' => ¬ Storable w.store user input ∧ w' = w) w := by
  unfold save
  rw [leads_bind]
  refine accept_new_decides.mono ?_ (fun _ _ h => h)
  rintro r _ ⟨hyes, s, haccepted, rfl⟩
  exact (followUp_succeeds haccepted.standing haccepted.previous_user).mono
    (fun _ _ h => ⟨hyes, haccepted.oneMore h⟩) (fun _ _ h => h.elim)

/-- Where the template is storable, every day is stored: its input is judged by the same catalog. -/
theorem saveDays_stores {template : EntryInput} (days : List Date)
    (h : Storable w.store user template) :
    (days.mapM fun day => save tracker user none { template with day }).Leads
      (fun _ w' => w.store.SameCatalog w'.store) (fun _ _ => False) w := by
  refine mapM_keeps (.refl _) days fun day _ w₁ hcatalog => ?_
  refine save_new_decides.mono (fun _ _ h => hcatalog.trans h.2.catalog) ?_
  rintro err w₂ ⟨hno, -⟩
  exact hno ((storable_day day).mpr ((storable_of_sameCatalog hcatalog).mpr h))

theorem bulkCreate_refuses {template : EntryInput} {range : BulkRange} :
    (bulkCreate tracker user template range).Leads (fun _ _ => True) (fun _ w' => w' = w) w := by
  unfold bulkCreate
  split
  · rfl
  · show (range.days.mapM fun day => save tracker user none { template with day }).Leads
      (fun _ _ => True) (fun _ w' => w' = w) w
    by_cases hstorable : Storable w.store user template
    · exact (saveDays_stores range.days hstorable).mono (fun _ _ _ => trivial)
        (fun _ _ h => h.elim)
    · cases range.days with
      | nil => trivial
      | cons day rest =>
          rw [List.mapM_cons, leads_bind]
          refine save_new_decides.mono ?_ (fun _ _ h => h.2)
          rintro saved w₁ ⟨hyes, -⟩
          exact absurd ((storable_day day).mp hyes) hstorable

end Sync

end Timesheet
