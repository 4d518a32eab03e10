import Timesheet.Proofs.Events
import Timesheet.Proofs.KeyLists
import Timesheet.Proofs.Ownership
import Timesheet.Proofs.Stages
import Timesheet.Proofs.Validity

/-!
Refreshing the sub-tickets of a project. What it starts from is read from the store before anything
is sent, and all that it ever writes is the comma list of the keys that it gives.
-/
namespace Timesheet

namespace Store

/-- What a refresh of the project `id` starts from: the project and, where it has main tickets, a
connection to its ticket system with the token of its lead. -/
def refreshBase (s : Store) (id : ProjectId) :
    Except SyncError (Project × Option Connection) := do
  let some project := s.project? id | throw (.projectNotFound id)
  let some systemId := project.system | throw (.noTicketSystem project.name)
  let some system := s.system? systemId | throw (.noTicketSystem project.name)
  if project.mainTicketKeys.isEmpty then return (project, none)
  let some lead := project.lead | throw (.projectLeadMissing project.name)
  let some user := s.user? lead | throw (.projectLeadMissing project.name)
  let some token := s.token? lead systemId | throw (.missingToken user.name system.name)
  return (project, some ⟨systemId, system, token⟩)

/-- The store with the comma list of these keys for the sub-tickets of the project `id`. -/
def withSubtickets (s : Store) (id : ProjectId) (keys : List String) : Store :=
  { s with projects := s.projects.modify id fun p => { p with subtickets := Text.joinKeys keys } }

variable {s s' : Store} {id : ProjectId} {p : Project} {keys : List String}

theorem project?_of_refreshBase {c : Option Connection} :
    s.refreshBase id = .ok (p, c) → s.project? id = some p := by
  unfold refreshBase
  rcases s.project? id with _ | project
  · exact nofun
  dsimp only
  rcases project.system with _ | systemId
  · exact nofun
  dsimp only
  rcases s.system? systemId with _ | system
  · exact nofun
  dsimp only
  split
  · rintro ⟨⟩
    rfl
  · rcases project.lead with _ | lead
    · exact nofun
    dsimp only
    rcases s.user? lead with _ | user
    · exact nofun
    dsimp only
    rcases s.token? lead systemId with _ | token
    · exact nofun
    rintro ⟨⟩
    rfl

theorem project?_withSubtickets (other : ProjectId) :
    (s.withSubtickets id keys).project? other = (s.project? other).map fun p =>
      if other = id then { p with subtickets := Text.joinKeys keys } else p :=
  s.projects.find?_modify id other _

theorem saveProject_subtickets (hp : s.project? id = some p) :
    s.saveProject id { p with subtickets := Text.joinKeys keys } =
      if s.allowsProject p then .ok (s.withSubtickets id keys) else .error .noReferent := by
  have hrow : (id, p) ∈ s.projects.rows := (s.projects.find?_eq_some_iff).mp hp
  have hcontains : s.projects.contains id = true := Option.isSome_of_eq_some hp
  have hput := s.projects.modify_of_mem_const hrow fun p =>
    { p with subtickets := Text.joinKeys keys }
  simp only [saveProject, hcontains, Bool.not_true, Bool.false_eq_true, if_false, hput]
  rfl

theorem withSubtickets_of_eq (hp : s.project? id = some p)
    (h : p.subtickets = Text.joinKeys keys) : s.withSubtickets id keys = s := by
  have hrow : (id, p) ∈ s.projects.rows := (s.projects.find?_eq_some_iff).mp hp
  have hsame : { p with subtickets := Text.joinKeys keys } = p := by rw [← h]
  have hput := s.projects.modify_of_mem_const hrow fun p =>
    { p with subtickets := Text.joinKeys keys }
  rw [hsame, s.projects.modify_of_mem hrow] at hput
  rw [withSubtickets, ← hput]

end Store

namespace Sync

variable {σ : Type} {tracker : Tracker σ} {id : ProjectId} {w : World σ}
  {Q : List String → World σ → Prop} {E : SyncError → World σ → Prop}

theorem leads_resolveSubtickets :
    (resolveSubtickets tracker id).Leads Q E w ↔
      match w.store.refreshBase id with
      | .error err => E err w
      | .ok (project, none) =>
        if project.subtickets = "" then Q [] w
        else (update (Store.saveProject id { project with subtickets := "" })).Leads
          (fun _ => Q []) E w
      | .ok (project, some c) =>
        (send tracker c .connect).Leads
          (fun _ => (gather tracker c project.mainTicketKeys).Leads
            (fun found => (update (Store.saveProject id
                { project with subtickets := Text.joinKeys (Text.naturalSort found) })).Leads
              (fun _ => Q (Text.naturalSort found)) E) E) E w := by
  unfold resolveSubtickets Store.refreshBase
  rw [leads_bind, leads_store]
  rcases w.store.project? id with _ | project
  · exact Iff.rfl
  rcases hsystemId : project.system with _ | systemId
  · simp only [hsystemId]
    exact Iff.rfl
  simp only [hsystemId]
  rcases w.store.system? systemId with _ | system
  · exact Iff.rfl
  dsimp only
  by_cases hmains : project.mainTicketKeys.isEmpty
  · simp only [if_pos hmains]
    show _ ↔ if project.subtickets = "" then Q [] w else _
    by_cases hblank : project.subtickets = ""
    · simp only [ne_eq, hblank, not_true_eq_false, if_false, if_true]
      exact Iff.rfl
    · simp only [ne_eq, hblank, not_false_eq_true, if_true, if_false, hsystemId]
      rw [leads_bind]
      exact Iff.rfl
  · simp only [if_neg hmains]
    rcases hlead : project.lead with _ | lead
    · exact Iff.rfl
    dsimp only
    rcases w.store.user? lead with _ | user
    · exact Iff.rfl
    dsimp only
    rcases w.store.token? lead systemId with _ | token
    · exact Iff.rfl
    dsimp only
    rw [leads_bind]
    refine leads_congr (fun _ w₁ => ?_) (fun _ _ => Iff.rfl)
    rw [leads_bind]
    refine leads_congr (fun found w₂ => ?_) (fun _ _ => Iff.rfl)
    rw [leads_bind]
    simp only [hsystemId, hlead]
    exact Iff.rfl

theorem leads_saveSubtickets {p : Project} {P : Unit → World σ → Prop}
    (hp : w.store.project? id = some p) (keys : List String) :
    (update (Store.saveProject id { p with subtickets := Text.joinKeys keys })).Leads P E w ↔
      if w.store.allowsProject p then P () (w.put (w.store.withSubtickets id keys))
      else E (.storage .noReferent) w := by
  rw [leads_update, Store.saveProject_subtickets hp]
  by_cases hallowed : w.store.allowsProject p <;> simp [hallowed]

theorem gather_store {c : Connection} {mains : List String} :
    (gather tracker c mains).Leads (fun _ w' => w'.store = w.store) (fun _ w' => w'.store = w.store)
      w :=
  gather_keeps rfl fun _ h _ _ _ => h

/-- A refresh that succeeds stores the keys that it gives, and one that fails stores nothing. -/
theorem resolveSubtickets_stores :
    (resolveSubtickets tracker id).Leads
      (fun keys w' => (∃ p, w.store.project? id = some p) ∧
        w'.store = w.store.withSubtickets id keys)
      (fun _ w' => w'.store = w.store) w := by
  rw [leads_resolveSubtickets]
  rcases hbase : w.store.refreshBase id with err | ⟨project, _ | c⟩
  · rfl
  · have hp := Store.project?_of_refreshBase hbase
    dsimp only
    split
    · next hblank =>
        have hsame : w.store.withSubtickets id [] = w.store :=
          Store.withSubtickets_of_eq hp hblank
        exact ⟨⟨project, hp⟩, hsame.symm⟩
    · refine (leads_saveSubtickets hp []).mpr ?_
      split
      · exact ⟨⟨project, hp⟩, rfl⟩
      · rfl
  · have hp := Store.project?_of_refreshBase hbase
    dsimp only
    rw [leads_send]
    split
    · refine gather_store.mono ?_ (fun _ _ h => h)
      intro found w₂ hw₂
      rw [World.note_store] at hw₂
      refine (leads_saveSubtickets (hw₂ ▸ hp) _).mpr ?_
      split
      · exact ⟨⟨project, hp⟩, by rw [World.put_store, hw₂]⟩
      · exact hw₂
    · rfl

end Sync

/-- Of the keys that a refresh gives, the project takes each well-formed one from then on, whatever
its prefixes are and whatever else came along with that key. -/
theorem refreshed_project_takes_keys {σ : Type} {tracker : Tracker σ} {id : ProjectId}
    {w w' : World σ} {keys : List String}
    (hrun : Sync.outcome (Sync.resolveSubtickets tracker id) w = (.ok keys, w')) :
    ∃ project, w'.store.project? id = some project ∧
      ∀ key ∈ keys, TicketKey.WellFormed key → ∀ prefixes,
        checkTicket { project with prefixes } key = .ok () := by
  obtain ⟨⟨p, hp⟩, hstore⟩ := Sync.resolveSubtickets_stores.of_ok hrun
  refine ⟨{ p with subtickets := Text.joinKeys keys }, ?_, ?_⟩
  · rw [hstore, Store.project?_withSubtickets, hp, Option.map_some, if_pos rfl]
  · intro key hkey hformed prefixes
    refine checkTicket_ok_iff.mpr (.inr ⟨hformed, ?_⟩)
    have hlisted : key ∈ Text.splitKeys (Text.joinKeys keys) := hformed.mem_splitKeys hkey
    simp [Project.takes, Project.subticketKeys, hlisted]

def ledProject : Project :=
  { Project.blank "project" with
    system := some ⟨1⟩, prefixes := some "OPS", lead := some ⟨1⟩, mainTickets := some "A-1" }

/-- The office with this project. The tracker gives keys below the main ticket that are no keys. -/
def ledOffice : World InMemory :=
  { store := { office with projects := Table.empty.push ledProject }
    remote := { InMemory.empty with children := [("A-1", ["B-2", " ", "C-3,D-4", "lower-5"])] }
    journal := [] }

def foundKeys : List String := Text.naturalSort ["A-1", "B-2", " ", "C-3,D-4", "lower-5"]

theorem refreshed_project_takes_keys_ledOffice :
    checkTicket ledProject "B-2" = .error (.foreignTicket "B-2" "project") ∧
      (Sync.outcome (Sync.resolveSubtickets InMemory.tracker ⟨1⟩) ledOffice).1 = .ok foundKeys ∧
      ∃ project, (ledOffice.next (.refresh InMemory.tracker ⟨1⟩)).store.project? ⟨1⟩ =
          some project ∧
        ∀ prefixes, checkTicket { project with prefixes } "B-2" = .ok () := by
  have hrun : (Sync.outcome (Sync.resolveSubtickets InMemory.tracker ⟨1⟩) ledOffice).1 =
      .ok foundKeys := rfl
  obtain ⟨project, hproject, htakes⟩ :=
    refreshed_project_takes_keys (w := ledOffice) (Prod.ext hrun rfl)
  have hfound : "B-2" ∈ foundKeys := List.mem_mergeSort.mpr (by decide)
  exact ⟨by decide, hrun, project, hproject, htakes "B-2" hfound (by decide)⟩

end Timesheet
