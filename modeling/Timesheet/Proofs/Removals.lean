import Timesheet.Proofs.Conversation
import Timesheet.Proofs.Passes

/-!
What the removal of a work-log leaves pending. When an entry moved to another ticket, it lets go of
its work-log even if the removal failed. The work-log is pending then, unless the route of the
project that the entry had could not be told: this failure comes before anything is recorded.
-/
namespace Timesheet

/-- The project has the key of an internal tracker, but the ticket system for that is not there. -/
def Store.Unroutable (s : Store) (id : ProjectId) : Prop :=
  ∃ project, s.project? id = some project ∧ project.internalProjectKey ≠ none ∧
    ∀ system ∈ project.internalSystem, s.system? system = none

variable {σ : Type} {tracker : Tracker σ} {s s' : Store} {id : EntryId} {e e₁ p : TimeEntry}
  {w w₁ w₂ : World σ} {worklog : String}

namespace Store

theorem ofProject_error_iff {project : Project} :
    (∃ err, Route.ofProject s project = .error err) ↔
      project.internalProjectKey ≠ none ∧
        ∀ system ∈ project.internalSystem, s.system? system = none := by
  unfold Route.ofProject
  cases project.internalProjectKey with
  | none => simp
  | some key =>
      cases hinternal : project.internalSystem with
      | none => simp
      | some system => cases hsystem : s.system? system <;> simp [hsystem]

theorem unroutable_iff {pid : ProjectId} {project : Project} (h : s.project? pid = some project) :
    s.Unroutable pid ↔ ∃ err, Route.ofProject s project = .error err := by
  rw [ofProject_error_iff, Unroutable]
  simp [h]

theorem not_unroutable_of_booking {pid : ProjectId} {r : Route}
    (h : s.bookingRoute? pid = some r) : ¬ s.Unroutable pid := by
  rintro ⟨project, hproject, hkey, hsystem⟩
  obtain ⟨err, herr⟩ := ofProject_error_iff.mpr ⟨hkey, hsystem⟩
  rw [Sync.bookingRoute?_of_error hproject herr] at h
  cases h

theorem SameCatalog.unroutable_iff {pid : ProjectId} (h : s.SameCatalog s') :
    s'.Unroutable pid ↔ s.Unroutable pid := by
  simp only [Unroutable, h.project?_eq, h.system?_eq]

end Store

theorem Pass.pending_of_failed {user : UserId} {trials : List Trial} {err : SyncError}
    {journal later : List Exchange} (h : Pass tracker s user trials journal later s')
    (hfirst : firstFailure trials = some err) :
    ∃ d ∈ s'.pendingOf user, d ∈ s.pendingOf user := by
  obtain ⟨t, ht, hfailed⟩ := List.exists_of_findSome?_eq_some hfirst
  refine ⟨t.row, ?_, h.rows ▸ List.mem_map_of_mem ht⟩
  rw [h.kept]
  exact List.mem_map_of_mem (List.mem_filter.mpr ⟨ht, by simp [hfailed]⟩)

namespace Sync

namespace Working

variable {α : Type} {Q : α → TimeEntry → World σ → Prop}
  {E : SyncError → TimeEntry → World σ → Prop}

def outcome (work : Working σ α) (e : TimeEntry) (w : World σ) :
    Except SyncError α × TimeEntry × World σ :=
  (((work.run.run e).run w).1.1, ((work.run.run e).run w).1.2, ((work.run.run e).run w).2)

theorem leads_of_ok {work : Working σ α} {a : α} {e' : TimeEntry} {w' : World σ}
    (hrun : work.outcome e w = (.ok a, e', w')) : work.Leads Q E e w ↔ Q a e' w' := by
  unfold outcome at hrun
  unfold Leads
  rcases hwork : (work.run.run e).run w with ⟨⟨_ | _, _⟩, _⟩ <;> rw [hwork] at hrun <;> cases hrun
  rfl

theorem leads_of_error {work : Working σ α} {err : SyncError} {e' : TimeEntry} {w' : World σ}
    (hrun : work.outcome e w = (.error err, e', w')) : work.Leads Q E e w ↔ E err e' w' := by
  unfold outcome at hrun
  unfold Leads
  rcases hwork : (work.run.run e).run w with ⟨⟨_ | _, _⟩, _⟩ <;> rw [hwork] at hrun <;> cases hrun
  rfl

theorem Leads.fails {work : Working σ α} (h : work.Leads (fun _ _ _ => False) E e w) :
    ∃ err e' w', work.outcome e w = (.error err, e', w') ∧ E err e' w' := by
  unfold Leads at h
  unfold outcome
  split at h
  · exact h.elim
  · next hwork => exact ⟨_, _, _, by rw [hwork], h⟩

end Working

/-- Where nothing was pending for the user, a removal that fails leaves the work-log pending, unless
it failed for want of a route. -/
theorem removeWorklog_leaves (hworklog : p.worklog = some worklog) (hticket : p.ticket ≠ "")
    (huser : w.store.users.contains p.user = true) (hpending : w.store.pendingOf p.user = []) :
    (removeWorklog tracker p).Leads (fun _ _ => True)
      (fun _ w' => w.store.OnlyStale w'.store ∧
        ((∃ d ∈ w'.store.pendingOf p.user, d.2.ticket = p.ticket ∧ d.2.worklog = worklog) ↔
          ¬ w.store.Unroutable p.project)) w := by
  rw [leads_removeWorklog, hworklog]
  dsimp only
  rw [if_neg hticket]
  rcases hproject : w.store.project? p.project with _ | project
  · trivial
  dsimp only
  rcases hroute : Route.ofProject w.store project with err | route
  · have hunroutable := (Store.unroutable_iff hproject).mpr ⟨err, hroute⟩
    exact ⟨.refl _, by simp [hpending, hunroutable]⟩
  dsimp only
  rcases hr : w.store.bookingRoute? p.project with _ | r
  · trivial
  dsimp only
  rcases hs : w.store.recordStale ⟨p.user, r.id, p.ticket, worklog⟩ with err | s
  · exact absurd hs (recordStale_ne_error huser hr)
  have honly := Store.recordStale_onlyStale hs
  refine retryPending_passes.mono (fun _ _ _ => trivial) ?_
  rintro err w' ⟨trials, hfirst, hpass⟩
  refine ⟨honly.trans hpass.onlyStale, fun _ => ?_, fun _ => ?_⟩
  · exact Store.not_unroutable_of_booking hr
  · obtain ⟨d, hafter, hbefore⟩ := hpass.pending_of_failed hfirst
    have hnew := Store.eq_of_pending_recordStale hs hpending d hbefore
    exact ⟨d, hafter, by rw [hnew], by rw [hnew]⟩

theorem settle_ready (start : InStep id e w.store) :
    (settle tracker id).Leads
      (fun _ e' w' => InStep id e' w'.store ∧ SameWork e w e' w' ∧ w'.store.pendingOf e.user = [])
      (fun _ _ _ => True) e w :=
  (settle_keeps inStep_bearsSettling start).mono
    (fun _ _ _ ⟨hstep, hsame, hpending, _⟩ => ⟨hstep, hsame, hpending⟩) (fun _ _ _ _ => trivial)

end Sync

/-- When an entry has moved and the removal of its work-log fails, the entry lets go of the work-log
and the failure is reported. The work-log is pending for the user then, exactly if the route of the
project that the entry had can be told. -/
theorem dropped_worklog_pending_iff {route : Option Route} {err : SyncError}
    (start : InStep id e w.store) (own : p.user = e.user) (former : p.worklog = some worklog)
    (ticket : p.ticket ≠ "") (settled : (Sync.settle tracker id).outcome e w = (.ok route, e₁, w₁))
    (moved : Sync.movedToOtherTicket e₁ p = true)
    (failed : Sync.outcome (Sync.removeWorklog tracker p) w₁ = (.error err, w₂)) :
    ∃ w', (Sync.reconcile tracker id (some p)).outcome e w =
        (.error err, e₁.withWorklog none, w') ∧
      w'.store.entryAt id = .ok (some (e₁.withWorklog none)) ∧
      ((∃ d ∈ w'.store.pendingOf p.user, d.2.ticket = p.ticket ∧ d.2.worklog = worklog) ↔
        ¬ w.store.Unroutable p.project) := by
  obtain ⟨hstep, hsame, hpending⟩ := (Sync.Working.leads_of_ok settled).mp (Sync.settle_ready start)
  have huser : w₁.store.users.contains p.user = true := by
    rw [own, ← hsame.user]
    exact Store.users_of_allowsEntry hstep.allowed
  rw [← own] at hpending
  obtain ⟨honly, hleft⟩ := (Sync.removeWorklog_leaves former ticket huser hpending).of_error failed
  have hstep₂ := hstep.onlyStale honly
  rw [hsame.catalog.unroutable_iff] at hleft
  have hfails : (Sync.reconcile tracker id (some p)).Leads (fun _ _ _ => False)
      (fun err' e' w' => err' = err ∧ e' = e₁.withWorklog none ∧ InStep id e' w'.store ∧
        w'.store.stale = w₂.store.stale) e w := by
    rw [Sync.leads_reconcile, Sync.Working.leads_of_ok settled, Option.elim_some,
      Sync.leads_leaveTicket, if_pos moved]
    unfold Sync.Leads
    rw [failed]
    dsimp only
    unfold Sync.Cleared
    split
    · have hallowed : w₂.store.allowsEntry (e₁.withWorklog none) = w₂.store.allowsEntry e₁ := rfl
      rw [hstep₂.saves hallowed]
      exact ⟨rfl, rfl, (hstep₂.saved hallowed (hstep₂.saves hallowed)).1, rfl⟩
    · next hnone =>
        have hsame : e₁.withWorklog none = e₁ := by
          simp only [Option.not_isSome_iff_eq_none] at hnone
          simp [Entry.withWorklog, ← hnone]
        exact ⟨rfl, hsame.symm, hstep₂, rfl⟩
  obtain ⟨_, _, w', hrun, rfl, rfl, hstored, hstale⟩ := hfails.fails
  refine ⟨w', hrun, hstored.entryAt, ?_⟩
  rw [Store.pendingOf, hstale]
  exact hleft

def bookedEntry : TimeEntry :=
  { onOtherTicket.newEntry ⟨1⟩ with ticket := "A-1", worklog := some "wl-1" }

def retargetedEntry : TimeEntry := { bookedEntry with ticket := "A-2" }

def stubbornMove : World InMemory :=
  { stubbornOffice with
    store := { office with entries := Table.empty.push retargetedEntry.stored } }

def settledStubbornly : Except SyncError (Option Route) × TimeEntry × World InMemory :=
  (Sync.settle InMemory.tracker ⟨1⟩).outcome retargetedEntry stubbornMove

def officeRoute : Route := ⟨⟨1⟩, ⟨"tracker", .jira, "", true⟩, none⟩

theorem settle_stubbornMove : settledStubbornly =
    (.ok (some officeRoute), retargetedEntry, settledStubbornly.2.2) := by
  have hroute : settledStubbornly.1 = .ok (some officeRoute) := by decide +kernel
  have hentry : settledStubbornly.2.1 = retargetedEntry := by decide +kernel
  exact Prod.ext hroute (Prod.ext hentry rfl)

/-- The work-log that the entry lets go of is pending. -/
theorem dropped_worklog_pending_iff_stubbornMove :
    ∃ w', (Sync.reconcile InMemory.tracker ⟨1⟩ (some bookedEntry)).outcome retargetedEntry
        stubbornMove =
        (.error (.tracker (.failed "refused" [])), retargetedEntry.withWorklog none, w') ∧
      w'.store.entryAt ⟨1⟩ = .ok (some (retargetedEntry.withWorklog none)) ∧
      ∃ d ∈ w'.store.pendingOf ⟨1⟩, d.2.ticket = "A-1" ∧ d.2.worklog = "wl-1" := by
  have hstep : InStep ⟨1⟩ retargetedEntry stubbornMove.store :=
    ⟨by decide +kernel, rfl, by decide +kernel⟩
  have hfailed : (Sync.outcome (Sync.removeWorklog InMemory.tracker bookedEntry)
      settledStubbornly.2.2).1 = .error (.tracker (.failed "refused" [])) := by decide +kernel
  have hroute : stubbornMove.store.bookingRoute? bookedEntry.project = some officeRoute := by
    decide +kernel
  have hremoved : Sync.outcome (Sync.removeWorklog InMemory.tracker bookedEntry)
      settledStubbornly.2.2 = (.error (.tracker (.failed "refused" [])), _) := Prod.ext hfailed rfl
  obtain ⟨w', hrun, hstored, hpending⟩ := dropped_worklog_pending_iff (p := bookedEntry) hstep rfl
    rfl (by decide) settle_stubbornMove (by decide) hremoved
  exact ⟨w', hrun, hstored, hpending.mpr (Store.not_unroutable_of_booking hroute)⟩

/-- Since the entry was booked, its project got the key of an internal tracker, but no ticket system
for that. -/
def unroutedOffice : Store :=
  { office with
    projects := (Table.empty.push
      { Project.blank "project" with system := some ⟨1⟩, internalKey := some "INT" }).push
      { Project.blank "other" with system := some ⟨1⟩ } }

def reassignedEntry : TimeEntry := { bookedEntry with project := ⟨2⟩, ticket := "A-2" }

def unroutedMove : World InMemory :=
  { quietOffice with
    store := { unroutedOffice with entries := Table.empty.push reassignedEntry.stored } }

def settledUnrouted : Except SyncError (Option Route) × TimeEntry × World InMemory :=
  (Sync.settle InMemory.tracker ⟨1⟩).outcome reassignedEntry unroutedMove

def droppedUnrouted : Except SyncError Unit × TimeEntry × World InMemory :=
  (Sync.reconcile InMemory.tracker ⟨1⟩ (some bookedEntry)).outcome reassignedEntry unroutedMove

/-- The entry moves, the removal of its work-log fails for want of a route, and the entry lets go of
the work-log, which is nowhere pending. -/
theorem unroutedMove_forgets :
    InStep ⟨1⟩ reassignedEntry unroutedMove.store ∧ bookedEntry.worklog = some "wl-1" ∧
      settledUnrouted.1 = .ok (some officeRoute) ∧
      Sync.movedToOtherTicket settledUnrouted.2.1 bookedEntry = true ∧
      (Sync.outcome (Sync.removeWorklog InMemory.tracker bookedEntry) settledUnrouted.2.2).1 =
        .error (.noTicketSystem "project") ∧
      droppedUnrouted.1 = .error (.noTicketSystem "project") ∧
      droppedUnrouted.2.2.store.entryAt ⟨1⟩ = .ok (some (reassignedEntry.withWorklog none)) ∧
      droppedUnrouted.2.2.store.stale.rows = [] := by
  refine ⟨⟨?_, rfl, ?_⟩, rfl, ?_, ?_, ?_, ?_, ?_, ?_⟩ <;> decide +kernel

end Timesheet
