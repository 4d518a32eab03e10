import Timesheet.Proofs.Accounts
import Timesheet.Proofs.Stages

/-!
Which ticket system issued the identifier of a work-log, and what has to go to this system: the
requests that name the work-log, and the entries and pending deletions that do.
-/
namespace Timesheet

/-- The identifier by which a request names a work-log that was created before. -/
def Request.worklog? : Request → Option String
  | .updateWorklog _ id _ => some id
  | .deleteWorklog _ id => some id
  | _ => none

/-- The ticket system created a work-log under the identifier. -/
def Issued (journal : List Exchange) (system : SystemId) (id : String) : Prop :=
  ∃ g ∈ createdIn journal, g.system = system ∧ g.id = id

/-- Every request that names a work-log went to a ticket system that had issued its identifier
before. -/
def Addressed (journal : List Exchange) : Prop :=
  ∀ before x later, journal = before ++ x :: later → ∀ id, x.request.worklog? = some id →
    Issued before x.connection.id id

/-- The ticket system to which the project of the entry leads, if to any, issued the identifier of
its work-log. -/
def Entry.AtHome {κ : Type} (e : Entry κ) (s : Store) (journal : List Exchange) : Prop :=
  ∀ id, e.worklog = some id → ∀ system, s.routeId? e.project = some system →
    Issued journal system id

/-- Entries are at home, and deletions are pending where their work-logs were created. -/
structure Placed (s : Store) (journal : List Exchange) : Prop where
  entries : ∀ r ∈ s.entries.rows, r.2.AtHome s journal
  stale : ∀ d ∈ s.stale.rows, Issued journal d.2.system d.2.worklog

variable {κ : Type} {journal : List Exchange} {x : Exchange} {system : SystemId} {worklog : String}
  {id : EntryId} {e : TimeEntry} {s s' : Store}

theorem Issued.append (h : Issued journal system worklog) (later : List Exchange) :
    Issued (journal ++ later) system worklog := by
  obtain ⟨g, hg, hissued⟩ := h
  refine ⟨g, ?_, hissued⟩
  unfold createdIn at *
  rw [List.filterMap_append]
  exact List.mem_append_left _ hg

theorem Issued.of_append (h : Issued (journal ++ [x]) system worklog) (hx : x.created? = none) :
    Issued journal system worklog := by
  unfold Issued at *
  simpa only [createdIn_append, hx, Option.toList_none, List.append_nil] using h

theorem issued_created {c : Connection} {ticket : String} {content : WorklogDraft} :
    Issued (journal ++ [⟨c, .createWorklog ticket content, .ok worklog, s⟩]) c.id worklog :=
  ⟨⟨c.id, ticket, worklog⟩, by simp [Exchange.created?], rfl, rfl⟩

theorem addressed_append :
    Addressed (journal ++ [x]) ↔
      Addressed journal ∧
        ∀ id, x.request.worklog? = some id → Issued journal x.connection.id id := by
  constructor
  · intro h
    refine ⟨fun before y later hsplit => ?_, h journal x [] rfl⟩
    exact h before y (later ++ [x]) (by simp [hsplit])
  · rintro ⟨h, hx⟩ before y later hsplit
    rcases List.eq_nil_or_concat later with rfl | ⟨front, last, rfl⟩
    · obtain ⟨rfl, hxy⟩ := List.append_inj' hsplit rfl
      cases hxy
      exact hx
    · have hcut : journal ++ [x] = (before ++ y :: front) ++ [last] := by simpa using hsplit
      exact h before y front (List.append_inj' hcut rfl).1

theorem Addressed.note (h : Addressed journal) (hx : x.request.worklog? = none) :
    Addressed (journal ++ [x]) :=
  addressed_append.mpr ⟨h, fun id hid => by simp [hx] at hid⟩

theorem Addressed.of_append {later : List Exchange} (h : Addressed (journal ++ later)) :
    Addressed journal := fun before y rest hsplit =>
  h before y (rest ++ later) (by simp [hsplit])

theorem addressed_iff :
    Addressed journal ↔ ∀ n, ∀ _ : n < journal.length, ∀ id ∈ journal[n].request.worklog?,
      Issued (journal.take n) journal[n].connection.id id := by
  constructor
  · intro h n hn
    exact h (journal.take n) journal[n] (journal.drop (n + 1)) (by simp)
  · rintro h before x later rfl id hid
    simpa using h before.length (by simp) id (by simpa using hid)

instance : Decidable (Issued journal system worklog) :=
  inferInstanceAs (Decidable (∃ g ∈ createdIn journal, _))

instance : Decidable (Addressed journal) := decidable_of_iff' _ addressed_iff

theorem Entry.AtHome.append {e : Entry κ} (h : e.AtHome s journal) (later : List Exchange) :
    e.AtHome s (journal ++ later) :=
  fun id hid system hsystem => (h id hid system hsystem).append later

theorem Store.SameCatalog.atHome_iff (h : s.SameCatalog s') (e : Entry κ) :
    e.AtHome s' journal ↔ e.AtHome s journal := by
  simp only [Entry.AtHome, h.routeId?_eq]

theorem Entry.atHome_of_none {e : Entry κ} (h : e.worklog = none) : e.AtHome s journal :=
  fun id hid => by simp [h] at hid

theorem Placed.append (h : Placed s journal) (later : List Exchange) :
    Placed s (journal ++ later) :=
  ⟨fun r hr => (h.entries r hr).append later, fun d hd => (h.stale d hd).append later⟩

theorem Placed.onlyStale (h : Placed s journal) (hs : s.OnlyStale s')
    (hstale : ∀ d ∈ s'.stale.rows, Issued journal d.2.system d.2.worklog) : Placed s' journal := by
  refine ⟨fun r hr => (hs.sameCatalog.atHome_iff r.2).mpr ?_, hstale⟩
  rw [hs.entries_eq] at hr
  exact h.entries r hr

theorem Placed.forget (h : Placed s journal) (stale : StaleId) :
    Placed (s.forgetStale stale) journal :=
  h.onlyStale (Store.onlyStale_forget stale) fun d hd => h.stale d (Store.mem_forgetStale.mp hd).1

theorem Placed.record {d : StaleWorklog} (h : Placed s journal)
    (hissued : Issued journal d.system d.worklog) (hs : s.recordStale d = .ok s') :
    Placed s' journal := by
  refine h.onlyStale (Store.recordStale_onlyStale hs) fun r hr => ?_
  rcases Store.mem_recordStale hs r hr with hold | hnew
  · exact h.stale r hold
  · rw [hnew]
    exact hissued

theorem Placed.erase (h : Placed s journal) (id : EntryId) : Placed (s.eraseEntry id) journal :=
  ⟨fun r hr => h.entries r ((s.entries.mem_erase).mp hr).1, h.stale⟩

theorem Placed.join (h : Placed (s.eraseEntry id) journal)
    (hrow : ∀ row, (id, row) ∈ s.entries.rows → row.AtHome s journal) : Placed s journal := by
  refine ⟨fun r hr => ?_, h.stale⟩
  by_cases hid : r.1 = id
  · exact hrow r.2 (hid ▸ hr)
  · exact h.entries r ((s.entries.mem_erase).mpr ⟨hr, hid⟩)

theorem Placed.saveClass {kind : EntryClass} (h : Placed s journal)
    (hs : s.saveClass id kind = .ok s') : Placed s' journal := by
  have hcatalog := Store.saveClass_sameCatalog hs
  rw [Store.saveClass_ok hs] at hcatalog ⊢
  refine ⟨fun r hr => ?_, h.stale⟩
  obtain ⟨a, ha, hr⟩ := (s.entries.mem_modify).mp hr
  rw [hcatalog.atHome_iff, hr]
  split <;> exact h.entries _ ha

end Timesheet
