import Timesheet.Proofs.Leads
import Timesheet.Proofs.Table

/-!
Sending pending deletions. What holds through a retry is shown once, for every predicate that bears
the single steps of it. A retry that succeeds leaves no deletion of the user.
-/
namespace Timesheet

variable {σ : Type}

/-- The reply to a deletion says that the work-log is gone. -/
def confirmsGone {α : Type} : Except TrackerError α → Bool
  | .ok _ => true
  | .error (.missing _) => true
  | .error _ => false

/-- From `s` to `s'` nothing but pending deletions changed. -/
def Store.OnlyStale (s s' : Store) : Prop := s' = { s with stale := s'.stale }

namespace Store

variable {s s' s'' : Store} {user : UserId}

theorem OnlyStale.refl (s : Store) : s.OnlyStale s := rfl

theorem OnlyStale.trans (h : s.OnlyStale s') (h' : s'.OnlyStale s'') : s.OnlyStale s'' := by
  unfold OnlyStale at *
  rw [h', h]

theorem onlyStale_forget (id : StaleId) : s.OnlyStale (s.forgetStale id) := rfl

theorem mem_pendingOf {r : StaleId × StaleWorklog} :
    r ∈ s.pendingOf user ↔ r ∈ s.stale.rows ∧ r.2.user = user := by
  simp [pendingOf, Table.mem_filter]

theorem mem_forgetStale {id : StaleId} {r : StaleId × StaleWorklog} :
    r ∈ (s.forgetStale id).stale.rows ↔ r ∈ s.stale.rows ∧ r.1 ≠ id := Table.mem_erase _

theorem pendingOf_increasing : (s.pendingOf user).Pairwise fun r t => r.1.value < t.1.value :=
  s.stale.increasing.sublist List.filter_sublist

end Store

namespace Sync

/-- `I` bears every step of sending the pending deletions of `user`. -/
structure BearsRetry (user : UserId) (I : World σ → Prop) : Prop where
  connect : ∀ {w : World σ} {c reply} remote, I w → I (w.note ⟨c, .connect, reply, w.store⟩ remote)
  refused : ∀ {w : World σ} {id d c reply} remote, I w → (id, d) ∈ w.store.pendingOf user →
    c.id = d.system → confirmsGone reply = false →
    I (w.note ⟨c, .deleteWorklog d.ticket d.worklog, reply, w.store⟩ remote)
  /-- The tracker confirms a deletion, which is then forgotten. -/
  confirmed : ∀ {w : World σ} {id d c reply} remote, I w → (id, d) ∈ w.store.pendingOf user →
    c.id = d.system → confirmsGone reply = true →
    I ((w.note ⟨c, .deleteWorklog d.ticket d.worklog, reply, w.store⟩ remote).put
      (w.store.forgetStale id))
  /-- The ticket system is not there any more, so the deletion is forgotten. -/
  unreachable : ∀ {w : World σ} {id d}, I w → (id, d) ∈ w.store.pendingOf user →
    w.store.system? d.system = none → I (w.put (w.store.forgetStale id))

variable {w : World σ} {user : UserId} {I : World σ → Prop} {tracker : Tracker σ}

theorem BearsRetry.const {P : Prop} : BearsRetry (σ := σ) user fun _ => P where
  connect _ h := h
  refused _ h _ _ _ := h
  confirmed _ h _ _ _ := h
  unreachable h _ _ := h

theorem BearsRetry.and {J : World σ → Prop} (h : BearsRetry user I) (h' : BearsRetry user J) :
    BearsRetry user (fun w => I w ∧ J w) where
  connect remote hI := ⟨h.connect remote hI.1, h'.connect remote hI.2⟩
  refused remote hI hd hc hr := ⟨h.refused remote hI.1 hd hc hr, h'.refused remote hI.2 hd hc hr⟩
  confirmed remote hI hd hc hr :=
    ⟨h.confirmed remote hI.1 hd hc hr, h'.confirmed remote hI.2 hd hc hr⟩
  unreachable hI hd hs := ⟨h.unreachable hI.1 hd hs, h'.unreachable hI.2 hd hs⟩

theorem BearsRetry.guarded {P : Prop} {I : World σ → Prop} (h : P → BearsRetry user I) :
    BearsRetry user fun w => P ∧ I w where
  connect remote hI := ⟨hI.1, (h hI.1).connect remote hI.2⟩
  refused remote hI hd hc hr := ⟨hI.1, (h hI.1).refused remote hI.2 hd hc hr⟩
  confirmed remote hI hd hc hr := ⟨hI.1, (h hI.1).confirmed remote hI.2 hd hc hr⟩
  unreachable hI hd hs := ⟨hI.1, (h hI.1).unreachable hI.2 hd hs⟩

theorem Leads.connect {id : SystemId} {system : TicketSystem} {Q : Connection → World σ → Prop}
    {E : SyncError → World σ → Prop}
    (ok : ∀ token remote, Q ⟨id, system, token⟩
      (w.note ⟨⟨id, system, token⟩, .connect, .ok (), w.store⟩ remote))
    (refused : ∀ token e remote, E (.tracker e)
      (w.note ⟨⟨id, system, token⟩, .connect, .error e, w.store⟩ remote))
    (noToken : ∀ e, E e w) : (connect tracker user id system).Leads Q E w := by
  unfold Sync.connect
  rw [leads_bind, leads_store]
  cases w.store.token? user id with
  | none => exact noToken _
  | some token =>
      rw [leads_bind]
      exact Leads.send (fun _ remote => ok token remote) (refused token)

theorem deletePending_keeps (bears : BearsRetry user I) (hI : I w) {id : StaleId}
    {d : StaleWorklog} (hd : (id, d) ∈ w.store.pendingOf user) :
    (deletePending tracker id d).Leads
      (fun _ w' => I w' ∧ w'.store = w.store.forgetStale id)
      (fun _ w' => I w' ∧ w'.store = w.store) w := by
  unfold deletePending
  rw [leads_bind, leads_store]
  cases hs : w.store.system? d.system with
  | none =>
      rw [leads_change]
      exact ⟨bears.unreachable hI hd hs, rfl⟩
  | some system =>
      rw [leads_bind]
      apply Leads.connect
      · intro token remote
        have hc : I (w.note ⟨⟨d.system, system, token⟩, .connect, .ok (), w.store⟩ remote) :=
          bears.connect remote hI
        rw [leads_bind, leads_ask]
        split
        · next heq => exact ⟨bears.confirmed _ hc hd rfl (by rw [heq]; rfl), rfl⟩
        · next heq => exact ⟨bears.confirmed _ hc hd rfl (by rw [heq]; rfl), rfl⟩
        · next hne heq =>
            refine ⟨bears.refused _ hc hd rfl ?_, rfl⟩
            rw [heq]
            cases hne' : ‹TrackerError› with
            | missing what => exact absurd hne' (hne what)
            | unauthorized detail => rfl
            | failed text causes => rfl
      · intro token e remote
        exact ⟨bears.connect remote hI, rfl⟩
      · intro e
        exact ⟨hI, rfl⟩

theorem deleteAll_keeps (bears : BearsRetry user I) {rows : List (StaleId × StaleWorklog)}
    (hinc : rows.Pairwise fun r s => r.1.value < s.1.value) (hI : I w)
    (hrows : ∀ r ∈ rows, r ∈ w.store.pendingOf user) :
    (deleteAll tracker rows).Leads
      (fun failure w' => I w' ∧ w.store.OnlyStale w'.store ∧
        (∀ r ∈ w'.store.stale.rows, r ∈ w.store.stale.rows) ∧
        (failure = none → ∀ r ∈ rows, r ∉ w'.store.stale.rows))
      (fun _ _ => False) w := by
  induction rows generalizing w with
  | nil => exact ⟨hI, .refl _, fun _ h => h, fun _ _ h => by cases h⟩
  | cons row rest ih =>
      obtain ⟨id, d⟩ := row
      obtain ⟨hfirst, hrest⟩ := List.pairwise_cons.mp hinc
      unfold deleteAll
      simp only [leads_bind, leads_attempt]
      refine (deletePending_keeps bears hI (hrows _ List.mem_cons_self)).mono ?_ ?_
      · -- The row is forgotten; those after it have greater identifiers and are still there.
        rintro - w₁ ⟨hI₁, hs₁⟩
        have hrows₁ : ∀ r ∈ rest, r ∈ w₁.store.pendingOf user := by
          intro r hr
          obtain ⟨hmem, huser⟩ := Store.mem_pendingOf.mp (hrows r (List.mem_cons_of_mem _ hr))
          have hlt := hfirst r hr
          refine Store.mem_pendingOf.mpr ⟨?_, huser⟩
          rw [hs₁]
          exact Store.mem_forgetStale.mpr ⟨hmem, fun heq => by simp [heq] at hlt⟩
        rw [leads_bind]
        refine (ih hrest hI₁ hrows₁).mono ?_ (fun _ _ h => h.elim)
        rintro failure w₂ ⟨hI₂, honly, hsub, hnone⟩
        have hgone : ∀ r ∈ w₂.store.stale.rows, r ∈ w.store.stale.rows ∧ r.1 ≠ id := by
          intro r hr
          exact Store.mem_forgetStale.mp (hs₁ ▸ hsub r hr)
        refine ⟨hI₂, ?_, fun r hr => (hgone r hr).1, ?_⟩
        · exact Store.OnlyStale.trans (hs₁ ▸ Store.onlyStale_forget id) honly
        · intro hf r hr hmem
          rcases List.mem_cons.mp hr with rfl | hr
          · exact (hgone _ hmem).2 rfl
          · exact hnone hf r hr hmem
      · rintro e w₁ ⟨hI₁, hs₁⟩
        rw [leads_bind]
        refine (ih hrest hI₁ ?_).mono ?_ (fun _ _ h => h.elim)
        · intro r hr
          exact hs₁ ▸ hrows r (List.mem_cons_of_mem _ hr)
        · rintro failure w₂ ⟨hI₂, honly, hsub, -⟩
          rw [hs₁] at honly hsub
          exact ⟨hI₂, honly, hsub, fun h => by cases h⟩

theorem leads_retryPending_of_none {Q : Unit → World σ → Prop} {E : SyncError → World σ → Prop}
    (h : w.store.pendingOf user = []) : (retryPending tracker user).Leads Q E w ↔ Q () w := by
  unfold retryPending
  rw [leads_bind, leads_store, h]
  exact Iff.rfl

/-- A retry keeps what bears its steps, and one that succeeds leaves nothing of the user pending. -/
theorem retryPending_keeps (bears : BearsRetry user I) (hI : I w) :
    (retryPending tracker user).Leads
      (fun _ w' => I w' ∧ w.store.OnlyStale w'.store ∧ w'.store.pendingOf user = [])
      (fun _ w' => I w' ∧ w.store.OnlyStale w'.store) w := by
  unfold retryPending
  simp only [leads_bind, leads_store]
  refine (deleteAll_keeps bears w.store.pendingOf_increasing hI (fun _ h => h)).mono ?_
    (fun _ _ h => h.elim)
  rintro (_ | e) w' ⟨hI', honly, hsub, hnone⟩
  · refine ⟨hI', honly, List.eq_nil_iff_forall_not_mem.mpr fun r hr => ?_⟩
    obtain ⟨hmem, huser⟩ := Store.mem_pendingOf.mp hr
    exact hnone rfl r (Store.mem_pendingOf.mpr ⟨hsub r hmem, huser⟩) hmem
  · exact ⟨hI', honly⟩

end Sync

end Timesheet
