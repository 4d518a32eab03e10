import Timesheet.Proofs.Calls
import Timesheet.Proofs.Ledger

/-!
What holds through whole histories. Besides the calls, no event touches entries or pending
deletions, and none of its requests is about a work-log.
-/
namespace Timesheet

/-- From `s` to `s'` nothing but the catalog changed, and no ticket system was taken away. -/
structure Store.SameEntries (s s' : Store) : Prop where
  entries : s'.entries = s.entries
  stale : s'.stale = s.stale
  frozen : s'.frozen = s.frozen
  systems : ∀ id, s.systems.contains id → s'.systems.contains id

namespace Store

variable {s : Store}

theorem SameEntries.refl (s : Store) : s.SameEntries s := ⟨rfl, rfl, rfl, fun _ h => h⟩

theorem saveProject_sameEntries {s' : Store} {id : ProjectId} {p : Project}
    (h : s.saveProject id p = .ok s') : s.SameEntries s' := by
  unfold saveProject at h
  split at h
  · cases h
    exact .refl s
  · split at h
    · cases h
      exact ⟨rfl, rfl, rfl, fun _ h => h⟩
    · cases h

theorem changed_sameEntries {ε : Type} {result : Except ε Store}
    (h : ∀ s', result = .ok s' → s.SameEntries s') :
    s.SameEntries (CatalogChange.apply.changed s result) := by
  unfold CatalogChange.apply.changed
  cases result with
  | error err => exact .refl s
  | ok s' => exact h s' rfl

theorem created_sameEntries {ε α : Type} {result : Except ε (α × Store)}
    (h : ∀ a s', result = .ok (a, s') → s.SameEntries s') :
    s.SameEntries (CatalogChange.apply.created s result) := by
  refine changed_sameEntries fun s' hs' => ?_
  cases result with
  | error err => cases hs'
  | ok r => exact h r.1 s' (by cases hs'; rfl)

theorem alterProject_sameEntries {id : ProjectId} {f : Project → Project} :
    ∀ s', s.alterProject id f = .ok s' → s.SameEntries s' := by
  intro s' h
  unfold alterProject at h
  split at h
  · cases h
    exact ⟨rfl, rfl, rfl, fun _ h => h⟩
  · cases h

end Store

theorem CatalogChange.apply_sameEntries (change : CatalogChange) (s : Store) :
    s.SameEntries (change.apply s) := by
  cases change with
  | user name =>
      refine Store.created_sameEntries fun a s' h => ?_
      unfold Store.createUser at h
      split at h <;> cases h
      exact ⟨rfl, rfl, rfl, fun _ h => h⟩
  | system added =>
      refine Store.created_sameEntries fun a s' h => ?_
      unfold Store.createSystem at h
      split at h <;> cases h
      refine ⟨rfl, rfl, rfl, fun id h => ?_⟩
      obtain ⟨system, hsystem⟩ := (s.systems.contains_iff).mp h
      exact (Table.contains_iff _).mpr ⟨system, (s.systems.mem_push).mpr (.inl hsystem)⟩
  | token holder target secret =>
      refine Store.changed_sameEntries fun s' h => ?_
      unfold Store.setToken at h
      split at h <;> cases h
      exact ⟨rfl, rfl, rfl, fun _ h => h⟩
  | customer name => exact ⟨rfl, rfl, rfl, fun _ h => h⟩
  | customerActive id active => exact ⟨rfl, rfl, rfl, fun _ h => h⟩
  | activity name =>
      refine Store.created_sameEntries fun a s' h => ?_
      unfold Store.createActivity at h
      split at h <;> cases h
      exact ⟨rfl, rfl, rfl, fun _ h => h⟩
  | project added =>
      refine Store.created_sameEntries fun a s' h => ?_
      unfold Store.createProject at h
      split at h <;> cases h
      exact ⟨rfl, rfl, rfl, fun _ h => h⟩
  | saveProject id values =>
      exact Store.changed_sameEntries fun _ h => Store.saveProject_sameEntries h
  | projectActive id active => exact Store.changed_sameEntries Store.alterProject_sameEntries
  | mainTickets id keys => exact Store.changed_sameEntries Store.alterProject_sameEntries

/-- The connection leads to the ticket system of the project itself, and carries the token that the
lead of the project holds for it. -/
def Store.AdmitsLead (s : Store) (id : ProjectId) (c : Connection) : Prop :=
  ∃ project lead, s.project? id = some project ∧ project.system = some c.id ∧
    project.lead = some lead ∧ s.token? lead c.id = some c.token

variable {σ : Type}

namespace Sync

variable {tracker : Tracker σ} {w : World σ}

/-- `K` bears idle exchanges and changes of the catalog. -/
structure BearsCatalog (K : World σ → Prop) : Prop where
  note : ∀ {w : World σ} {x} remote, K w → x.Idle → x.store = w.store → K (w.note x remote)
  catalog : ∀ {w : World σ} {s}, K w → w.store.SameEntries s → K (w.put s)

variable {K : World σ → Prop}

theorem gather_keeps {c : Connection} {mains : List String} (hK : K w)
    (note : ∀ {w : World σ} {x} remote, K w → x.Idle → x.store = w.store → x.connection = c →
      K (w.note x remote)) :
    (gather tracker c mains).Leads (fun _ => K) (fun _ => K) w := by
  induction mains generalizing w with
  | nil => exact hK
  | cons main rest ih =>
      unfold gather
      rw [leads_bind]
      apply Leads.send
      · intro children remote
        rw [leads_bind]
        exact (ih (note remote hK (.inr ⟨main, rfl⟩) rfl rfl)).mono (fun _ _ h => h)
          (fun _ _ h => h)
      · exact fun err remote => note remote hK (.inr ⟨main, rfl⟩) rfl rfl

theorem update_saveProject_keeps
    (catalog : ∀ {w : World σ} {s}, K w → w.store.SameEntries s → K (w.put s)) {id : ProjectId}
    {p : Project} (hK : K w) :
    (update (σ := σ) (Store.saveProject id p)).Leads (fun _ => K) (fun _ => K) w := by
  rw [leads_update]
  cases h : Store.saveProject id p w.store with
  | ok s => exact catalog hK (Store.saveProject_sameEntries h)
  | error err => exact hK

theorem resolveSubtickets_sends {id : ProjectId} (hK : K w)
    (note : ∀ {w' : World σ} {x} remote, K w' → x.Idle → x.store = w'.store →
      w.store.AdmitsLead id x.connection → K (w'.note x remote))
    (catalog : ∀ {w' : World σ} {s}, K w' → w'.store.SameEntries s → K (w'.put s)) :
    (resolveSubtickets tracker id).Leads (fun _ => K) (fun _ => K) w := by
  unfold resolveSubtickets
  rw [leads_bind, leads_store]
  rcases hproject : w.store.project? id with _ | project
  · exact hK
  rcases hsystem : project.system with _ | systemId
  · simp only [hsystem]
    exact hK
  simp only [hsystem]
  rcases w.store.system? systemId with _ | system
  · exact hK
  dsimp only
  split
  · split
    · rw [leads_bind]
      exact (update_saveProject_keeps catalog hK).mono (fun _ _ h => h) (fun _ _ h => h)
    · exact hK
  · rcases hlead : project.lead with _ | lead
    · exact hK
    dsimp only
    rcases w.store.user? lead with _ | user
    · exact hK
    dsimp only
    rcases htoken : w.store.token? lead systemId with _ | token
    · exact hK
    dsimp only
    have hadmits : w.store.AdmitsLead id ⟨systemId, system, token⟩ :=
      ⟨project, lead, hproject, hsystem, hlead, htoken⟩
    rw [leads_bind]
    apply Leads.send
    · intro answer remote
      rw [leads_bind]
      refine (gather_keeps (note remote hK (.inl rfl) rfl hadmits) ?_).mono ?_ (fun _ _ h => h)
      · rintro w' x remote' hK' hidle hs hx
        exact note remote' hK' hidle hs (hx ▸ hadmits)
      · intro keys w₁ hK₁
        rw [leads_bind]
        exact (update_saveProject_keeps catalog hK₁).mono (fun _ _ h => h) (fun _ _ h => h)
    · exact fun err remote => note remote hK (.inl rfl) rfl hadmits

theorem resolveSubtickets_keeps (bears : BearsCatalog K) {id : ProjectId} (hK : K w) :
    (resolveSubtickets tracker id).Leads (fun _ => K) (fun _ => K) w :=
  resolveSubtickets_sends hK (fun remote h hidle hs _ => bears.note remote h hidle hs)
    bears.catalog

theorem refreshSubtickets_keeps
    (each : ∀ id {w : World σ}, K w →
      (resolveSubtickets tracker id).Leads (fun _ => K) (fun _ => K) w) (hK : K w) :
    (refreshSubtickets tracker).Leads (fun _ => K) (fun _ => K) w := by
  unfold refreshSubtickets
  rw [leads_bind, leads_store]
  generalize w.store.sweptProjects = projects
  induction projects generalizing w with
  | nil => exact hK
  | cons row rest ih =>
      unfold refreshAll
      rw [leads_bind, leads_attempt]
      have hrest : ∀ (result : Except SyncError (List String)) (w₁ : World σ), K w₁ →
          (do return ⟨row.1, row.2, result⟩ :: (← refreshAll tracker rest) :
            Sync σ (List Refresh)).Leads (fun _ => K) (fun _ => K) w₁ := by
        intro result w₁ hK₁
        rw [leads_bind]
        exact (ih hK₁).mono (fun _ _ h => h) (fun _ _ h => h)
      exact (each row.1 hK).mono (fun _ => hrest _) (fun _ => hrest _)

theorem next_keeps (bears : BearsCatalog K) (event : Event σ)
    (call : ∀ c, event = .call c → c.work.Leads (fun _ => K) (fun _ => K) w) (hK : K w) :
    K (w.next event) := by
  cases event with
  | call c => exact (call c rfl).always
  | catalog change => exact bears.catalog hK (change.apply_sameEntries w.store)
  | refresh tracker project => exact (resolveSubtickets_keeps bears hK).always
  | sweep tracker =>
      exact (refreshSubtickets_keeps (fun _ _ h => resolveSubtickets_keeps bears h) hK).always

theorem after_each (next : ∀ event {w : World σ}, K w → K (w.next event))
    (events : List (Event σ)) (hK : K w) : K (w.after events) := by
  induction events generalizing w with
  | nil => exact hK
  | cons event rest ih => exact ih (next event hK)

theorem after_keeps (bears : BearsCatalog K)
    (calls : ∀ (c : Call σ) {w}, K w → c.work.Leads (fun _ => K) (fun _ => K) w)
    (events : List (Event σ)) (hK : K w) : K (w.after events) :=
  after_each (fun event _ hK => next_keeps bears event (fun c _ => calls c hK) hK) events hK

theorem prefix_note {start : List Exchange} {x : Exchange} (h : start <+: w.journal) (remote : σ) :
    start <+: (w.note x remote).journal := h.trans (List.prefix_append _ _)

theorem prefix_bearsCall {user : UserId} {start : List Exchange} :
    BearsCall user fun w : World σ => start <+: w.journal where
  retry :=
    { connect := fun remote h => prefix_note h remote
      refused := fun remote h _ _ _ => prefix_note h remote
      confirmed := fun remote h _ _ _ => prefix_note h remote
      unreachable := fun h _ _ => h }
  note remote h _ _ := prefix_note h remote
  entries _ h := h
  record h _ _ := h

end Sync

theorem journal_prefix_after (w : World σ) (events : List (Event σ)) :
    w.journal <+: (w.after events).journal :=
  Sync.after_keeps (K := fun w' => w.journal <+: w'.journal)
    { note := fun remote h _ _ => Sync.prefix_note h remote, catalog := fun h _ => h }
    (fun _ _ h => Sync.work_bears Sync.prefix_bearsCall h) events List.prefix_rfl

/-- Each event of the run is `P` in the world in which it happens. -/
def EachEvent (P : Event σ → World σ → Prop) (w : World σ) : List (Event σ) → Prop
  | [] => True
  | event :: rest => P event w ∧ EachEvent P (w.next event) rest

/-- Each call of the run is `P` in the world in which it starts. -/
def EachCall (P : Call σ → World σ → Prop) (w : World σ) : List (Call σ) → Prop
  | [] => True
  | c :: rest => P c w ∧ EachCall P (w.next (.call c)) rest

variable {F K : World σ → Prop} {P : Call σ → World σ → Prop}

theorem of_after (back : ∀ {c w}, F (w.next (.call c)) → F w) {w : World σ}
    (calls : List (Call σ)) (h : F (w.after (calls.map .call))) : F w := by
  induction calls generalizing w with
  | nil => exact h
  | cons c rest ih => exact back (ih h)

/-- If a call that ends in an `F` keeps `K` exactly when it is `P`, then `K` holds all through a run
that ends in an `F` exactly when each call of it is `P`. -/
theorem eachCall_iff_within (back : ∀ {c w}, F (w.next (.call c)) → F w)
    (step : ∀ {c w}, F (w.next (.call c)) → K w → (K (w.next (.call c)) ↔ P c w)) {w : World σ}
    (hK : K w) (calls : List (Call σ)) (hF : F (w.after (calls.map .call))) :
    (∀ done, done <+: calls → K (w.after (done.map .call))) ↔ EachCall P w calls := by
  induction calls generalizing w with
  | nil =>
      refine ⟨fun _ => trivial, fun _ done hdone => ?_⟩
      rw [List.prefix_nil.mp hdone]
      exact hK
  | cons c rest ih =>
      have hnext : F (w.next (.call c)) := of_after back rest hF
      constructor
      · intro h
        have hkept : K (w.next (.call c)) := h [c] ⟨rest, rfl⟩
        refine ⟨(step hnext hK).mp hkept, (ih hkept hF).mp fun done hdone => ?_⟩
        exact h (c :: done) ((List.prefix_cons_inj c).mpr hdone)
      · rintro ⟨hP, hrest⟩ done hdone
        rcases List.prefix_cons_iff.mp hdone with rfl | ⟨done', rfl, hdone'⟩
        · exact hK
        · exact (ih ((step hnext hK).mpr hP) hF).mpr hrest done' hdone'

/-- If a call keeps `K` exactly when it is `P`, then `K` holds all through a run exactly when each
call of it is `P`. -/
theorem eachCall_iff (step : ∀ {c w}, K w → (K (w.next (.call c)) ↔ P c w)) {w : World σ}
    (hK : K w) (calls : List (Call σ)) :
    (∀ done, done <+: calls → K (w.after (done.map .call))) ↔ EachCall P w calls :=
  eachCall_iff_within (F := fun _ => True) (fun h => h) (fun _ => step) hK calls trivial

end Timesheet
