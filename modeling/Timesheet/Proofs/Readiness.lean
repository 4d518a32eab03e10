import Timesheet.Proofs.Refreshes

/-!
What a refresh of sub-tickets needs before it can ask for anything: a project with a ticket system,
a lead with a token, and main tickets. Where one of them lacks nothing is sent, and a refresh that
fails has stored nothing, however far it came.
-/
namespace Timesheet

namespace Store

/-- All that a refresh of the project `id` needs is there, and `c` is the connection that it
takes. -/
structure Ready (s : Store) (id : ProjectId) (p : Project) (c : Connection) : Prop where
  project : s.project? id = some p
  systemId : p.system = some c.id
  system : s.system? c.id = some c.system
  mains : p.mainTicketKeys ≠ []
  token : ∃ lead user, p.lead = some lead ∧ s.user? lead = some user ∧
    s.token? lead c.id = some c.token

/-- Something is missing without which a refresh of the project `id` has nothing to ask. -/
inductive Lacks (s : Store) (id : ProjectId) : Prop
  | project (h : s.project? id = none)
  | system {p} (hp : s.project? id = some p) (h : p.system.bind s.system? = none)
  | mains {p} (hp : s.project? id = some p) (h : p.mainTicketKeys = [])
  | lead {p} (hp : s.project? id = some p) (h : p.lead.bind s.user? = none)
  | token {p systemId lead} (hp : s.project? id = some p) (hsystem : p.system = some systemId)
      (hlead : p.lead = some lead) (h : s.token? lead systemId = none)

variable {s : Store} {id : ProjectId} {p : Project} {c : Connection}

theorem Ready.not_lacks (h : s.Ready id p c) : ¬ s.Lacks id := by
  obtain ⟨lead, user, hlead, huser, htoken⟩ := h.token
  have hsame : ∀ {q}, s.project? id = some q → q = p := fun hq =>
    Option.some.inj (hq.symm.trans h.project)
  intro hlacks
  cases hlacks with
  | project hnone => simp [h.project] at hnone
  | system hq hnone =>
      rw [hsame hq, h.systemId, Option.bind_some, h.system] at hnone
      cases hnone
  | mains hq hnone => exact h.mains (hsame hq ▸ hnone)
  | lead hq hnone =>
      rw [hsame hq, hlead, Option.bind_some, huser] at hnone
      cases hnone
  | token hq hsystem hlead' hnone =>
      obtain rfl := hsame hq
      obtain rfl := Option.some.inj (hsystem.symm.trans h.systemId)
      obtain rfl := Option.some.inj (hlead'.symm.trans hlead)
      rw [htoken] at hnone
      cases hnone

theorem Ready.refreshBase_eq (h : s.Ready id p c) : s.refreshBase id = .ok (p, some c) := by
  obtain ⟨lead, user, hlead, huser, htoken⟩ := h.token
  have hmains : p.mainTicketKeys.isEmpty = false := by simpa using h.mains
  unfold refreshBase
  simp only [h.project, h.systemId, h.system, hmains, hlead, huser, htoken]
  rfl

theorem ready_of_refreshBase (h : s.refreshBase id = .ok (p, some c)) : s.Ready id p c := by
  have hp := project?_of_refreshBase h
  unfold refreshBase at h
  simp only [hp] at h
  rcases hsystemId : p.system with _ | systemId
  · simp only [hsystemId] at h
    cases h
  simp only [hsystemId] at h
  rcases hsystem : s.system? systemId with _ | system
  · simp only [hsystem] at h
    cases h
  simp only [hsystem] at h
  split at h
  · cases h
  · next hmains =>
      rcases hlead : p.lead with _ | lead
      · simp only [hlead] at h
        cases h
      simp only [hlead] at h
      rcases huser : s.user? lead with _ | user
      · simp only [huser] at h
        cases h
      simp only [huser] at h
      rcases htoken : s.token? lead systemId with _ | token
      · simp only [htoken] at h
        cases h
      simp only [htoken] at h
      cases h
      exact ⟨hp, hsystemId, hsystem, by simpa using hmains, lead, user, hlead, huser, htoken⟩

theorem lacks_or_ready (s : Store) (id : ProjectId) : s.Lacks id ∨ ∃ p c, s.Ready id p c := by
  rcases hp : s.project? id with _ | p
  · exact .inl (.project hp)
  rcases hsystem : p.system.bind s.system? with _ | system
  · exact .inl (.system hp hsystem)
  obtain ⟨systemId, hsystemId, hsystem⟩ := Option.bind_eq_some_iff.mp hsystem
  rcases huser : p.lead.bind s.user? with _ | user
  · exact .inl (.lead hp huser)
  obtain ⟨lead, hlead, huser⟩ := Option.bind_eq_some_iff.mp huser
  rcases htoken : s.token? lead systemId with _ | token
  · exact .inl (.token hp hsystemId hlead htoken)
  by_cases hmains : p.mainTicketKeys = []
  · exact .inl (.mains hp hmains)
  · exact .inr ⟨p, ⟨systemId, system, token⟩, hp, hsystemId, hsystem, hmains, lead, user, hlead,
      huser, htoken⟩

end Store

namespace Sync

variable {σ : Type} {tracker : Tracker σ} {id : ProjectId} {w : World σ}

theorem resolveSubtickets_sends_of_ready {p : Project} {c : Connection}
    (h : w.store.Ready id p c) :
    (resolveSubtickets tracker id).Leads
      (fun _ w' => w.journal.length < w'.journal.length)
      (fun _ w' => w.journal.length < w'.journal.length) w := by
  rw [leads_resolveSubtickets, h.refreshBase_eq]
  have hgrown : ∀ {w' : World σ} {x} remote, w.journal.length ≤ w'.journal.length →
      w.journal.length < (w'.note x remote).journal.length := by
    intro w' x remote hle
    rw [World.note_journal, List.length_append]
    exact Nat.lt_succ_of_le hle
  refine Leads.send (fun _ remote => ?_) fun err remote => hgrown remote (Nat.le_refl _)
  refine (gather_keeps (hgrown remote (Nat.le_refl _)) ?_).mono ?_ (fun _ _ h => h)
  · intro w' x remote' hK _ _ _
    exact hgrown remote' (Nat.le_of_lt hK)
  · intro found w₁ hK
    rw [leads_update]
    split
    · exact hK
    · exact hK

theorem resolveSubtickets_quiet_of_lacks (h : w.store.Lacks id) :
    (resolveSubtickets tracker id).Leads (fun _ w' => w'.journal = w.journal)
      (fun _ w' => w'.journal = w.journal) w := by
  rw [leads_resolveSubtickets]
  rcases hbase : w.store.refreshBase id with err | ⟨p, _ | c⟩
  · rfl
  · dsimp only
    split
    · rfl
    · rw [leads_update]
      split
      · rfl
      · rfl
  · exact absurd h (Store.ready_of_refreshBase hbase).not_lacks

theorem journal_resolveSubtickets_iff :
    (outcome (resolveSubtickets tracker id) w).2.journal = w.journal ↔ w.store.Lacks id := by
  constructor
  · intro h
    rcases w.store.lacks_or_ready id with hlacks | ⟨p, c, hready⟩
    · exact hlacks
    · have hgrown : w.journal.length <
          (outcome (resolveSubtickets tracker id) w).2.journal.length :=
        (resolveSubtickets_sends_of_ready hready).always
      rw [h] at hgrown
      exact absurd hgrown (Nat.lt_irrefl _)
  · intro h
    exact (resolveSubtickets_quiet_of_lacks h).always

theorem resolveSubtickets_clears {p : Project} (hp : w.store.project? id = some p)
    (hsystem : p.system.bind w.store.system? ≠ none) (hmains : p.mainTicketKeys = [])
    (hallowed : w.store.allowsProject p = true) :
    (resolveSubtickets tracker id).Leads
      (fun keys w' => keys = [] ∧ w'.store = w.store.withSubtickets id []) (fun _ _ => False)
      w := by
  obtain ⟨system, hfound⟩ := Option.ne_none_iff_exists'.mp hsystem
  obtain ⟨systemId, hsystemId, hsystem⟩ := Option.bind_eq_some_iff.mp hfound
  have hbase : w.store.refreshBase id = .ok (p, none) := by
    unfold Store.refreshBase
    simp only [hp, hsystemId, hsystem, hmains]
    rfl
  rw [leads_resolveSubtickets, hbase]
  dsimp only
  split
  · next hblank =>
      have hsame : w.store.withSubtickets id [] = w.store := Store.withSubtickets_of_eq hp hblank
      exact ⟨rfl, hsame.symm⟩
  · refine (leads_saveSubtickets hp []).mpr ?_
    rw [if_pos hallowed]
    exact ⟨rfl, rfl⟩

end Sync

/-- A refresh that fails leaves the store as it was. Nothing is sent exactly when a refresh has
nothing to ask. Where that is for want of main tickets, the list of sub-tickets is emptied. -/
theorem failed_refresh_leaves_no_trace {σ : Type} (tracker : Tracker σ) (w : World σ)
    (id : ProjectId) :
    (∀ err w', Sync.outcome (Sync.resolveSubtickets tracker id) w = (.error err, w') →
      w'.store = w.store) ∧
    ((Sync.outcome (Sync.resolveSubtickets tracker id) w).2.journal = w.journal ↔
      w.store.Lacks id) ∧
    ∀ p, w.store.project? id = some p → p.system.bind w.store.system? ≠ none →
      p.mainTicketKeys = [] → w.store.allowsProject p = true →
      ∃ w', Sync.outcome (Sync.resolveSubtickets tracker id) w = (.ok [], w') ∧
        w'.store = w.store.withSubtickets id [] ∧
        w'.store.project? id = some { p with subtickets := "" } := by
  refine ⟨?_, Sync.journal_resolveSubtickets_iff, ?_⟩
  · intro err w' hrun
    exact Sync.resolveSubtickets_stores.of_error hrun
  · intro p hp hsystem hmains hallowed
    obtain ⟨keys, w', hrun, rfl, hstore⟩ :=
      (Sync.resolveSubtickets_clears hp hsystem hmains hallowed).succeeds
    refine ⟨w', hrun, hstore, ?_⟩
    rw [hstore, Store.project?_withSubtickets, hp, Option.map_some, if_pos rfl]
    rfl

/-- A project without a lead and without main tickets, with a key from an earlier refresh. -/
def leaderlessProject : Project :=
  { ledProject with lead := none, mainTickets := none, subtickets := "A-1" }

/-- The office with a project that has two main tickets, of which the second is not there, and with
the project without a lead. -/
def brokenOffice : World InMemory :=
  { store := { office with
      projects := (Table.empty.push { ledProject with
        mainTickets := some "A-1,B-1", subtickets := "A-1" }).push leaderlessProject }
    remote :=
      { InMemory.empty with rules := [⟨.subtickets, some "B-1", none, .missing "B-1"⟩] }
    journal := [] }

theorem failed_refresh_leaves_no_trace_brokenOffice :
    (∃ w', Sync.outcome (Sync.resolveSubtickets InMemory.tracker ⟨1⟩) brokenOffice =
        (.error (.tracker (.missing "B-1")), w') ∧
      w'.journal.map (·.request) = [.connect, .subtickets "A-1", .subtickets "B-1"] ∧
      w'.store = brokenOffice.store ∧ ¬ brokenOffice.store.Lacks ⟨1⟩) ∧
    ∃ w', Sync.outcome (Sync.resolveSubtickets InMemory.tracker ⟨2⟩) brokenOffice = (.ok [], w') ∧
      w'.journal = [] ∧
      w'.store.project? ⟨2⟩ = some { leaderlessProject with subtickets := "" } := by
  constructor
  · obtain ⟨hstore, hjournal, -⟩ :=
      failed_refresh_leaves_no_trace InMemory.tracker brokenOffice ⟨1⟩
    refine ⟨_, rfl, rfl, hstore _ _ rfl, fun hlacks => ?_⟩
    exact absurd (congrArg List.length (hjournal.mpr hlacks)) (by decide)
  · obtain ⟨-, hjournal, hcleared⟩ :=
      failed_refresh_leaves_no_trace InMemory.tracker brokenOffice ⟨2⟩
    have hp : brokenOffice.store.project? ⟨2⟩ = some leaderlessProject := rfl
    have hmains : leaderlessProject.mainTicketKeys = [] := rfl
    obtain ⟨w', hrun, -, hproject⟩ := hcleared _ hp (Option.some_ne_none _) hmains rfl
    refine ⟨w', hrun, ?_, hproject⟩
    rw [hrun] at hjournal
    exact hjournal.mpr (.mains hp hmains)

end Timesheet
