import Timesheet.Proofs.Refreshes

/-!
Refreshing all projects, one after the other. Where each request has its own answer, whatever was
asked before, a refresh is told by its own project and by tables that no refresh writes. So none of
them notices the others.
-/
namespace Timesheet

/-- The project is refreshed in sweeps: it is active and has a text of main tickets. -/
def Project.Swept (p : Project) : Prop :=
  p.active = true ∧ ∃ text, p.mainTickets = some text ∧ text ≠ ""

theorem Project.isSwept_iff {p : Project} : p.isSwept = true ↔ p.Swept := by
  cases hmains : p.mainTickets <;> simp [isSwept, Swept, hmains]

/-- Answers that depend on the request alone. -/
abbrev Answers := Connection → (request : Request) → Except TrackerError request.Answer

/-- The project after a refresh with this result: one that failed leaves it as it was. -/
def Project.noted (p : Project) : Except SyncError (List String) → Project
  | .ok keys => { p with subtickets := Text.joinKeys keys }
  | .error _ => p

namespace Store

def collected (answers : Answers) (c : Connection) : List String → Except SyncError (List String)
  | [] => .ok []
  | main :: rest => do
    let children : List String ← (answers c (.subtickets main)).mapError SyncError.tracker
    return main :: children ++ (← collected answers c rest)

/-- The keys, when the project can be written. -/
def keeping (s : Store) (p : Project) (keys : List String) : Except SyncError (List String) :=
  if s.allowsProject p then .ok keys else .error (.storage .noReferent)

def refreshed (s : Store) (answers : Answers) (id : ProjectId) :
    Except SyncError (List String) := do
  match ← s.refreshBase id with
  | (p, none) => if p.subtickets = "" then return [] else s.keeping p []
  | (p, some c) =>
    (answers c .connect).mapError SyncError.tracker
    s.keeping p (Text.naturalSort (← collected answers c p.mainTicketKeys))

/-- The store after refreshes of the projects `ids` with these results. -/
def noting (s : Store) (ids : List ProjectId)
    (results : ProjectId → Except SyncError (List String)) : Store :=
  { s with projects := s.projects.mapRows fun id p => if id ∈ ids then p.noted (results id) else p }

variable {s : Store} {answers : Answers} {id : ProjectId} {ids : List ProjectId}
  {results : ProjectId → Except SyncError (List String)}

theorem project?_noting (id : ProjectId) :
    (s.noting ids results).project? id =
      (s.project? id).map fun p => if id ∈ ids then p.noted (results id) else p :=
  s.projects.find?_mapRows _

theorem withSubtickets_eq_noting {keys : List String} (h : results id = .ok keys) :
    s.withSubtickets id keys = s.noting [id] results := by
  have hsame : (fun (i : ProjectId) (p : Project) =>
      if i = id then { p with subtickets := Text.joinKeys keys } else p) =
      fun i p => if i ∈ [id] then p.noted (results i) else p := by
    funext i p
    by_cases hid : i = id
    · simp [hid, h, Project.noted]
    · simp [hid]
  rw [withSubtickets, Table.modify_eq_mapRows, hsame, noting]

theorem noting_of_error {err : SyncError} (h : results id = .error err) :
    s.noting [id] results = s := by
  have hkept : ∀ (i : ProjectId) (p : Project),
      (if i ∈ [id] then p.noted (results i) else p) = p := by
    intro i p
    by_cases hid : i = id
    · simp [hid, h, Project.noted]
    · simp [hid]
  rw [noting, s.projects.mapRows_eq_self _ hkept]

theorem noting_nil : s.noting [] results = s := by
  rw [noting, s.projects.mapRows_eq_self _ (by simp)]

theorem noting_congr {others : ProjectId → Except SyncError (List String)}
    (h : ∀ id ∈ ids, results id = others id) : s.noting ids results = s.noting ids others := by
  have hsame : (fun (i : ProjectId) (p : Project) => if i ∈ ids then p.noted (results i) else p) =
      fun i p => if i ∈ ids then p.noted (others i) else p := by
    funext i p
    split
    · next hi => rw [h i hi]
    · rfl
  rw [noting, noting, hsame]

theorem noting_cons (h : id ∉ ids) :
    (s.noting [id] results).noting ids results = s.noting (id :: ids) results := by
  unfold noting
  rw [Table.mapRows_mapRows]
  intro i p
  by_cases hid : i = id
  · simp [hid, h]
  · simp [hid]

theorem mem_sweptProjects {p : Project} :
    (id, p) ∈ s.sweptProjects ↔ s.project? id = some p ∧ p.Swept := by
  rw [sweptProjects, Table.mem_filter, Project.isSwept_iff, project?, Table.find?_eq_some_iff]

theorem sweptProjects_increasing (s : Store) :
    s.sweptProjects.Pairwise fun r t => r.1.value < t.1.value :=
  s.projects.increasing.sublist List.filter_sublist

theorem nodup_sweptProjects (s : Store) : (s.sweptProjects.map (·.1)).Nodup :=
  s.projects.nodup_ids List.filter_sublist

theorem project?_noting_swept {p : Project} (hp : s.project? id = some p) (hswept : p.Swept) :
    (s.noting (s.sweptProjects.map (·.1)) results).project? id = some (p.noted (results id)) := by
  have hmem : id ∈ s.sweptProjects.map (·.1) :=
    List.mem_map.mpr ⟨(id, p), mem_sweptProjects.mpr ⟨hp, hswept⟩, rfl⟩
  rw [project?_noting, hp, Option.map_some, if_pos hmem]

theorem project?_noting_unswept (h : ∀ p, s.project? id = some p → ¬ p.Swept) :
    (s.noting (s.sweptProjects.map (·.1)) results).project? id = s.project? id := by
  have hout : ∀ p, s.project? id = some p → id ∉ s.sweptProjects.map (·.1) := by
    rintro p hp hmem
    obtain ⟨row, hrow, rfl⟩ := List.mem_map.mp hmem
    obtain ⟨hfound, hswept⟩ := mem_sweptProjects.mp hrow
    exact h row.2 hfound hswept
  rw [project?_noting]
  cases hp : s.project? id with
  | none => rfl
  | some p => rw [Option.map_some, if_neg (hout p hp)]

/-- What a refresh gives is told by its own project and by tables that no refresh writes. -/
theorem refreshed_noting (h : id ∉ ids) :
    (s.noting ids results).refreshed answers id = s.refreshed answers id := by
  have hproject : (s.noting ids results).project? id = s.project? id := by
    simp [project?_noting, h]
  have hbase : (s.noting ids results).refreshBase id = s.refreshBase id := by
    unfold refreshBase
    rw [hproject]
    rfl
  unfold refreshed
  rw [hbase]
  rfl

end Store

namespace Sync

variable {σ : Type} {tracker : Tracker σ} {answers : Answers} {id : ProjectId} {w : World σ}

/-- The tracker gives these answers in every state. -/
def Gives (tracker : Tracker σ) (answers : Answers) : Prop :=
  ∀ c r x, (tracker c r x).1 = answers c r

theorem save_keeping {p : Project} (hp : w.store.project? id = some p) (keys : List String) :
    (update (Store.saveProject id { p with subtickets := Text.joinKeys keys })).Leads
      (fun _ _ => w.store.keeping p keys = .ok keys)
      (fun err _ => w.store.keeping p keys = .error err) w := by
  refine (leads_saveSubtickets hp keys).mpr ?_
  unfold Store.keeping
  split <;> rfl

section Gives
variable (h : Gives tracker answers)
include h

theorem send_gives {c : Connection} {r : Request} :
    (send tracker c r).Leads
      (fun answer w' =>
        (answers c r).mapError SyncError.tracker = .ok answer ∧ w'.store = w.store)
      (fun err w' => (answers c r).mapError SyncError.tracker = .error err ∧ w'.store = w.store)
      w := by
  rw [leads_send]
  split
  · next answer hanswer =>
      refine ⟨?_, rfl⟩
      rw [← h c r w.remote, hanswer]
      rfl
  · next err herr =>
      refine ⟨?_, rfl⟩
      rw [← h c r w.remote, herr]
      rfl

theorem gather_collected {c : Connection} {mains : List String} :
    (gather tracker c mains).Leads
      (fun keys w' => Store.collected answers c mains = .ok keys ∧ w'.store = w.store)
      (fun err w' => Store.collected answers c mains = .error err ∧ w'.store = w.store) w := by
  refine Leads.and ?_ gather_store
  induction mains generalizing w with
  | nil => rfl
  | cons main rest ih =>
      unfold gather Store.collected
      rw [leads_bind]
      refine (send_gives h).mono ?_ ?_
      · rintro children w₁ ⟨hchildren, -⟩
        rw [leads_bind]
        refine ih.mono ?_ ?_
        · intro keys w₂ hkeys
          simp only [hchildren, hkeys]
          rfl
        · intro err w₂ herr
          simp only [hchildren, herr]
          rfl
      · rintro err w₁ ⟨herr, -⟩
        simp only [herr]
        rfl

theorem resolveSubtickets_refreshed :
    (resolveSubtickets tracker id).Leads
      (fun keys _ => w.store.refreshed answers id = .ok keys)
      (fun err _ => w.store.refreshed answers id = .error err) w := by
  rw [leads_resolveSubtickets]
  unfold Store.refreshed
  rcases hbase : w.store.refreshBase id with err | ⟨p, _ | c⟩
  · rfl
  · have hp := Store.project?_of_refreshBase hbase
    dsimp only
    split
    · next hblank =>
        simp only [bind, Except.bind, if_pos hblank]
        rfl
    · next hblank =>
        simp only [bind, Except.bind, if_neg hblank]
        exact save_keeping hp []
  · have hp := Store.project?_of_refreshBase hbase
    dsimp only
    refine (send_gives h).mono ?_ ?_
    · rintro _ w₁ ⟨hconnect, hw₁⟩
      refine (gather_collected h).mono ?_ ?_
      · rintro found w₂ ⟨hfound, hw₂⟩
        have hstore : w₂.store = w.store := hw₂.trans hw₁
        simp only [bind, Except.bind, hconnect, hfound, ← hstore]
        exact save_keeping (hstore ▸ hp) _
      · rintro err w₂ ⟨herr, -⟩
        simp only [bind, Except.bind, hconnect, herr]
    · rintro err w₁ ⟨herr, -⟩
      simp only [bind, Except.bind, herr]

theorem outcome_resolveSubtickets :
    (outcome (resolveSubtickets tracker id) w).1 = w.store.refreshed answers id := by
  have hresult : (resolveSubtickets tracker id).Leads _ _ w := resolveSubtickets_refreshed h
  unfold Leads at hresult
  split at hresult
  · next heq => rw [heq, hresult]
  · next heq => rw [heq, hresult]

theorem resolveSubtickets_notes :
    (resolveSubtickets tracker id).Leads
      (fun keys w' => w.store.refreshed answers id = .ok keys ∧
        w'.store = w.store.noting [id] (w.store.refreshed answers))
      (fun err w' => w.store.refreshed answers id = .error err ∧
        w'.store = w.store.noting [id] (w.store.refreshed answers)) w := by
  refine ((resolveSubtickets_refreshed h).and resolveSubtickets_stores).mono ?_ ?_
  · rintro keys w' ⟨hkeys, -, hstore⟩
    exact ⟨hkeys, hstore.trans (Store.withSubtickets_eq_noting hkeys)⟩
  · rintro err w' ⟨herr, hstore⟩
    exact ⟨herr, hstore.trans (Store.noting_of_error herr).symm⟩

/-- Each project of the list gets the result that it would get alone. -/
theorem refreshAll_refreshed {rows : List (ProjectId × Project)} (hrows : (rows.map (·.1)).Nodup) :
    (refreshAll tracker rows).Leads
      (fun outcomes w' =>
        outcomes = rows.map (fun r => ⟨r.1, r.2, w.store.refreshed answers r.1⟩) ∧
        w'.store = w.store.noting (rows.map (·.1)) (w.store.refreshed answers))
      (fun _ _ => False) w := by
  induction rows generalizing w with
  | nil => exact ⟨rfl, Store.noting_nil.symm⟩
  | cons row rest ih =>
      obtain ⟨id, p⟩ := row
      obtain ⟨hfresh, hnodup⟩ := List.nodup_cons.mp hrows
      have hrest : ∀ (result : Except SyncError (List String)) (w₁ : World σ),
          w.store.refreshed answers id = result →
          w₁.store = w.store.noting [id] (w.store.refreshed answers) →
          (do return ⟨id, p, result⟩ :: (← refreshAll tracker rest) :
            Sync σ (List Refresh)).Leads
            (fun outcomes w' =>
              outcomes = ((id, p) :: rest).map
                (fun r => ⟨r.1, r.2, w.store.refreshed answers r.1⟩) ∧
              w'.store = w.store.noting (((id, p) :: rest).map (·.1)) (w.store.refreshed answers))
            (fun _ _ => False) w₁ := by
        intro result w₁ hresult hw₁
        rw [leads_bind]
        refine (ih hnodup).mono ?_ (fun _ _ h => h)
        rintro others w₂ ⟨rfl, hw₂⟩
        -- The others start from a store in which the first project may have another list.
        have hagree : ∀ i ∈ rest.map (·.1),
            w₁.store.refreshed answers i = w.store.refreshed answers i := by
          intro i hi
          rw [hw₁, Store.refreshed_noting]
          intro hid
          exact hfresh (List.mem_singleton.mp hid ▸ hi)
        constructor
        · rw [List.map_cons, hresult]
          congr 1
          refine List.map_congr_left fun r hr => ?_
          rw [hagree r.1 (List.mem_map_of_mem hr)]
        · rw [hw₂, Store.noting_congr hagree, hw₁, Store.noting_cons hfresh]
          rfl
      unfold refreshAll
      rw [leads_bind, leads_attempt]
      exact (resolveSubtickets_notes h).mono (fun keys w₁ h => hrest _ w₁ h.1 h.2)
        (fun err w₁ h => hrest _ w₁ h.1 h.2)

theorem refreshSubtickets_refreshed :
    (refreshSubtickets tracker).Leads
      (fun outcomes w' =>
        outcomes = w.store.sweptProjects.map
          (fun r => ⟨r.1, r.2, w.store.refreshed answers r.1⟩) ∧
        w'.store = w.store.noting (w.store.sweptProjects.map (·.1)) (w.store.refreshed answers))
      (fun _ _ => False) w := by
  unfold refreshSubtickets
  rw [leads_bind, leads_store]
  exact refreshAll_refreshed h w.store.nodup_sweptProjects

end Gives

end Sync

/-- Where each request has its own answer in every state of the tracker, a sweep gives one outcome
for each active project with a text of main tickets, in the order of their identifiers. Its result
is that of refreshing the project alone, and so is the comma list that it leaves with the project.
Nothing else changes. -/
theorem sweep_refreshes_each_alone {σ : Type} (tracker : Tracker σ) (w : World σ)
    (steady : ∀ c r (x y : σ), (tracker c r x).1 = (tracker c r y).1) :
    ∃ outcomes w', Sync.outcome (Sync.refreshSubtickets tracker) w = (.ok outcomes, w') ∧
      outcomes.Pairwise (fun o o' => o.id.value < o'.id.value) ∧
      (∀ id p, (∃ o ∈ outcomes, o.id = id ∧ o.project = p) ↔
        w.store.project? id = some p ∧ p.Swept) ∧
      (∀ o ∈ outcomes, o.result = (Sync.outcome (Sync.resolveSubtickets tracker o.id) w).1) ∧
      w'.store = { w.store with projects := w'.store.projects } ∧
      (∀ id, (∀ p, w.store.project? id = some p → ¬ p.Swept) →
        w'.store.project? id = w.store.project? id) ∧
      ∀ id p, w.store.project? id = some p → p.Swept →
        match Sync.outcome (Sync.resolveSubtickets tracker id) w with
        | (.ok keys, alone) =>
          alone.store.project? id = some { p with subtickets := Text.joinKeys keys } ∧
          w'.store.project? id = some { p with subtickets := Text.joinKeys keys }
        | (.error _, _) => w'.store.project? id = some p := by
  obtain ⟨answers, hgives⟩ : ∃ answers, Sync.Gives tracker answers :=
    ⟨fun c r => (tracker c r w.remote).1, fun c r x => steady c r x w.remote⟩
  obtain ⟨outcomes, w', hrun, houtcomes, hstore⟩ :=
    (Sync.refreshSubtickets_refreshed hgives (w := w)).succeeds
  refine ⟨outcomes, w', hrun, ?_, ?_, ?_, ?_, ?_, ?_⟩
  · rw [houtcomes]
    exact List.pairwise_map.mpr w.store.sweptProjects_increasing
  · intro id p
    rw [← Store.mem_sweptProjects, houtcomes]
    constructor
    · rintro ⟨o, ho, rfl, rfl⟩
      obtain ⟨row, hrow, rfl⟩ := List.mem_map.mp ho
      exact hrow
    · intro hrow
      exact ⟨_, List.mem_map_of_mem hrow, rfl, rfl⟩
  · intro o ho
    rw [houtcomes] at ho
    obtain ⟨row, -, rfl⟩ := List.mem_map.mp ho
    exact (Sync.outcome_resolveSubtickets hgives).symm
  · rw [hstore]
    rfl
  · intro id hnone
    rw [hstore, Store.project?_noting_unswept hnone]
  · intro id p hp hswept
    have hnoted : w'.store.project? id = some (p.noted (w.store.refreshed answers id)) := by
      rw [hstore, Store.project?_noting_swept hp hswept]
    rw [← Sync.outcome_resolveSubtickets hgives] at hnoted
    split
    · next keys alone heq =>
        rw [heq] at hnoted
        obtain ⟨-, halone⟩ := Sync.resolveSubtickets_stores.of_ok heq
        refine ⟨?_, hnoted⟩
        rw [halone, Store.project?_withSubtickets, hp, Option.map_some, if_pos rfl]
    · next heq =>
        rw [heq] at hnoted
        exact hnoted

def oneTicketTracker : Tracker Unit := fun _ request =>
  match request with
  | .connect => return .ok ()
  | .subtickets "A-1" => return .ok ["A-3", "A-2"]
  | .subtickets issue => return .error (.missing issue)
  | _ => return .error (.failed "unsupported" [])

def lostProject : Project := { ledProject with mainTickets := some "B-1", subtickets := "B-1,B-2" }

def quietProject : Project := { ledProject with mainTickets := none, subtickets := "C-1" }

/-- The office with three projects: the main ticket of the first is not there, and the last has
none. -/
def threeProjects : World Unit :=
  { store := { office with
      projects := ((Table.empty.push lostProject).push ledProject).push quietProject }
    remote := ()
    journal := [] }

/-- The first project fails and keeps what it had, and the second gets its sub-tickets all the
same. -/
theorem sweep_refreshes_each_alone_threeProjects :
    ∃ outcomes w', Sync.outcome (Sync.refreshSubtickets oneTicketTracker) threeProjects =
        (.ok outcomes, w') ∧
      (∀ o ∈ outcomes, o.id = ⟨1⟩ → o.result = .error (.tracker (.missing "B-1"))) ∧
      w'.store.project? ⟨1⟩ = some lostProject ∧
      w'.store.project? ⟨2⟩ = some { ledProject with
        subtickets := Text.joinKeys (Text.naturalSort ["A-1", "A-3", "A-2"]) } ∧
      w'.store.project? ⟨3⟩ = some quietProject := by
  obtain ⟨outcomes, w', hrun, -, -, hresults, -, hkept, hrows⟩ :=
    sweep_refreshes_each_alone oneTicketTracker threeProjects fun _ _ _ _ => rfl
  have hquiet : ∀ p, threeProjects.store.project? ⟨3⟩ = some p → ¬ p.Swept := by
    rintro p hp ⟨-, text, hmains, -⟩
    obtain rfl : quietProject = p := Option.some.inj hp
    cases hmains
  refine ⟨outcomes, w', hrun, ?_, ?_, ?_, hkept ⟨3⟩ hquiet⟩
  · intro o ho hid
    rw [hresults o ho, hid]
    rfl
  · exact hrows ⟨1⟩ lostProject rfl ⟨rfl, "B-1", rfl, by decide⟩
  · exact (hrows ⟨2⟩ ledProject rfl ⟨rfl, "A-1", rfl, by decide⟩).2

end Timesheet
