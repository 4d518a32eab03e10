import Timesheet.Proofs.LocalPart
import Timesheet.Proofs.Refusal

/-!
What a call leaves in the store does not depend on the remote side, apart from the pending deletions
and three columns of the entries that it saves.

The local result of a call is given as a function of the store alone. Every run of the call, against
whatever tracker, has this result, so two runs cannot differ in it.
-/
namespace Timesheet

namespace Store

def ownEntry (s : Store) (user : UserId) (id : EntryId) : Except SyncError TimeEntry :=
  match s.entryAt id with
  | .error err => .error (.storage err)
  | .ok none => .error (.entryNotFound id)
  | .ok (some e) => if e.user = user then .ok e else .error (.rejected (.foreignEntry id))

/-- The entry that a save stores, under its identifier and with the entry that it was before; and
the store with it. -/
def accept (s : Store) (user : UserId) (target : Option EntryId) (input : EntryInput) :
    Except SyncError ((EntryId × TimeEntry × Option TimeEntry) × Store) :=
  match target with
  | none => do
    input.check s
    let (id, stored) ← Except.mapError SyncError.storage (s.insertEntry (input.newEntry user))
    return ((id, input.newEntry user, none), stored)
  | some id => do
    let p ← s.ownEntry user id
    input.check s
    let stored ← Except.mapError SyncError.storage (s.saveEntry id (input.applyTo p))
    return ((id, input.applyTo p, some p), stored)

/-- A save without its work-log. -/
def saveLocally (s : Store) (user : UserId) (target : Option EntryId) (input : EntryInput) :
    Except SyncError (EntryId × Store) := do
  let ((id, e, previous), stored) ← s.accept user target input
  return (id, stored.reclassifyDays user e previous)

/-- Saves of new entries for these days, one after the other, without their work-logs. -/
def saveDaysLocally (user : UserId) (template : EntryInput) : List Date → Store →
    Except SyncError (List EntryId × Store)
  | [], s => .ok ([], s)
  | day :: rest, s => do
    let (id, s) ← s.saveLocally user none { template with day }
    let (ids, s) ← saveDaysLocally user template rest s
    return (id :: ids, s)

/-- What an action leaves in the store where nothing is sent, with the entries that it saves. -/
def performLocally (s : Store) (user : UserId) :
    Action → Except SyncError (List EntryId × Store)
  | .save target input => do
    let (id, s) ← s.saveLocally user target input
    return ([id], s)
  | .delete id => do
    let e ← s.ownEntry user id
    return ([], ((s.eraseEntry id).reclassifyDay user e.day).2)
  | .bulk template range =>
    if range.last < range.first then
      .error (.rejected (.reversedRange range.first range.last))
    else saveDaysLocally user template range.days s

variable {user : UserId} {input : EntryInput}

theorem ownEntry_ok {s : Store} {id : EntryId} {e : TimeEntry} (h : s.ownEntry user id = .ok e) :
    s.entryAt id = .ok (some e) ∧ e.user = user := by
  unfold ownEntry at h
  rcases hentry : s.entryAt id with err | _ | e'
  · simp [hentry] at h
  · simp [hentry] at h
  · simp only [hentry] at h
    split at h
    · next huser =>
        cases h
        exact ⟨rfl, huser⟩
    · cases h

theorem saveLocally_new (s : Store) :
    s.saveLocally user none input =
      match input.check s with
      | .error err => .error err
      | .ok _ =>
        if s.allowsEntry (input.newEntry user) then
          .ok (s.entries.nextId,
            { s with entries := s.entries.push (input.newEntry user).stored }.reclassifyDays user
              (input.newEntry user) none)
        else .error (.storage .noReferent) := by
  unfold saveLocally accept insertEntry
  cases input.check s with
  | error err => rfl
  | ok _ =>
      dsimp only
      split <;> rfl

section SameLocal
variable {saved : List EntryId} {s t : Store} (h : s.SameLocal saved t)
include h

theorem SameLocal.saveLocally_new {id : EntryId} {s' : Store}
    (hs : s.saveLocally user none input = .ok (id, s')) :
    ∃ t', t.saveLocally user none input = .ok (id, t') ∧ s'.SameLocal saved t' := by
  rw [Store.saveLocally_new] at hs
  simp only [Store.saveLocally_new t, h.sameCatalog.check_eq, h.sameCatalog.allowsEntry_eq]
  cases hcheck : input.check s with
  | error err => simp [hcheck] at hs
  | ok _ =>
      simp only [hcheck] at hs
      split at hs
      · next hallowed =>
          cases hs
          refine ⟨_, ?_, (h.push _).reclassifyDays (input.newEntry user) none⟩
          simp only [if_pos hallowed, h.nextId_eq]
      · cases hs

theorem SameLocal.saveLocally_new_error {err : SyncError}
    (hs : s.saveLocally user none input = .error err) :
    t.saveLocally user none input = .error err := by
  rw [Store.saveLocally_new] at hs
  simp only [Store.saveLocally_new t, h.sameCatalog.check_eq, h.sameCatalog.allowsEntry_eq]
  cases hcheck : input.check s with
  | error err => simpa [hcheck] using hs
  | ok _ =>
      simp only [hcheck] at hs
      split at hs
      · cases hs
      · next hallowed =>
          simp only [if_neg hallowed]
          exact hs

end SameLocal

end Store

/-- The work of a call, which gives the entries that it saved. -/
def Call.saves {σ : Type} (c : Call σ) : Sync σ (List EntryId) :=
  match c.action with
  | .save target input => (fun saved => [saved.id]) <$> Sync.save c.tracker c.user target input
  | .delete id => (fun _ => []) <$> Sync.delete c.tracker c.user id
  | .bulk template range =>
    (·.map Saved.id) <$> Sync.bulkCreate c.tracker c.user template range

namespace Sync

variable {σ : Type} {tracker : Tracker σ} {user : UserId} {id : EntryId} {e p : TimeEntry}
  {w : World σ} {s : Store}

theorem leads_ownEntry_store {Q : TimeEntry → World σ → Prop} {E : SyncError → World σ → Prop} :
    (ownEntry user id).Leads Q E w ↔
      match w.store.ownEntry user id with
      | .ok e => Q e w
      | .error err => E err w := by
  rw [leads_ownEntry, Store.ownEntry]
  rcases w.store.entryAt id with err | _ | e
  · exact Iff.rfl
  · exact Iff.rfl
  · by_cases h : e.user = user <;> simp [h]

theorem leads_accept {target : Option EntryId} {input : EntryInput}
    {Q : EntryId × TimeEntry × Option TimeEntry → World σ → Prop}
    {E : SyncError → World σ → Prop} :
    (accept user target input).Leads Q E w ↔
      match w.store.accept user target input with
      | .ok (r, stored) => Q r (w.put stored)
      | .error err => E err w := by
  unfold accept Store.accept
  rcases target with _ | id
  · simp only [leads_bind, leads_pure, leads_store, leads_ofExcept]
    cases input.check w.store with
    | error err => exact Iff.rfl
    | ok _ =>
        simp only [storeEntry, leads_bind, leads_insert, leads_pure, Option.map_none]
        cases w.store.insertEntry (input.newEntry user) <;> exact Iff.rfl
  · simp only [leads_bind, leads_ownEntry_store]
    cases w.store.ownEntry user id with
    | error err => exact Iff.rfl
    | ok p =>
        simp only [leads_pure, leads_bind, leads_store, leads_ofExcept]
        cases input.check w.store with
        | error err => exact Iff.rfl
        | ok _ =>
            simp only [storeEntry, leads_bind, leads_update, leads_pure, Option.map_some]
            show _ ↔ match (do
                let stored ← Except.mapError SyncError.storage
                  (w.store.saveEntry id (input.applyTo p))
                return ((id, input.applyTo p, some p), stored) :
                  Except SyncError ((EntryId × TimeEntry × Option TimeEntry) × Store)) with
              | .ok (r, stored) => Q r (w.put stored)
              | .error err => E err w
            cases w.store.saveEntry id (input.applyTo p) <;> exact Iff.rfl

/-- The copy and the store have the local parts of `e` and of `s`. -/
def Local (id : EntryId) (e : TimeEntry) (s : Store) (e' : TimeEntry) (w : World σ) : Prop :=
  e'.localPart = e.localPart ∧ s.SameLocal [id] w.store

theorem local_bearsRetry {saved : List EntryId} :
    BearsRetry user fun w : World σ => s.SameLocal saved w.store where
  connect _ h := h
  refused _ h _ _ _ := h
  confirmed _ h _ _ _ := h.trans (Store.OnlyStale.sameLocal (Store.onlyStale_forget _))
  unreachable h _ _ := h.trans (Store.OnlyStale.sameLocal (Store.onlyStale_forget _))

section Reconciling
variable (hrow : (id, e.stored) ∈ s.entries.rows)
include hrow

theorem Local.saveEntry {e' e'' : TimeEntry} {s' : Store} (h : Local id e s e' w)
    (he : e''.localPart = e'.localPart) (hs : w.store.saveEntry id e'' = .ok s') :
    Local id e s e'' (w.put s') := by
  have hpart : e''.localPart = e.localPart := he.trans h.1
  exact ⟨hpart, h.2.saveEntry hrow (List.mem_singleton.mpr rfl) hpart hs⟩

theorem local_bearsSettling : BearsSettling id (Local (σ := σ) id e s) where
  retry _ := .and .const local_bearsRetry
  lookUp _ h _ _ _ := h
  retitle _ _ h hs := h.saveEntry hrow rfl hs
  retitleFails _ _ h _ := h

theorem local_bearsLeaving :
    BearsLeaving id p (Local (σ := σ) id e s) (Local id e s) (Local id e s) where
  stays h _ := h
  skipped h _ _ := h
  recorded h _ _ _ _ hs := ⟨h.1, h.2.trans (Store.recordStale_onlyStale hs).sameLocal⟩
  refused h _ _ _ _ _ := h
  retry _ := .and .const local_bearsRetry
  cleared h hs := h.saveEntry hrow rfl hs
  uncleared h _ := h
  none h _ := h

theorem local_bearsBooking : BearsBooking id (Local (σ := σ) id e s) where
  connect _ h := h
  update _ h _ _ _ _ := h
  createFails _ h _ := h
  create remote h _ _ _ _ _ hs := Local.saveEntry (w := World.note _ _ remote) hrow h rfl hs
  createSame _ h _ _ := h
  createUnsaved _ h _ _ := h

end Reconciling

theorem followUp_local {target : Option EntryId} {input : EntryInput}
    {r : EntryId × TimeEntry × Option TimeEntry}
    (haccepted : Accepted w.store user input target r s) :
    (followUp tracker user r.1 r.2.1 r.2.2).Leads
      (fun saved w' => saved.id = r.1 ∧
        (s.reclassifyDays user r.2.1 r.2.2).SameLocal [r.1] w'.store)
      (fun _ _ => False) (w.put s) := by
  have hkept : (reconcile tracker r.1 r.2.2).Leads (fun _ => Local r.1 r.2.1 s)
      (fun _ => Local r.1 r.2.1 s) r.2.1 (w.put s) :=
    reconcile_keepsAll (local_bearsSettling haccepted.row)
      (fun p hp => ⟨haccepted.previous_user p hp, local_bearsLeaving haccepted.row⟩)
      (local_bearsBooking haccepted.row) ⟨rfl, .refl s⟩
  have hends : ∀ (alert : Option Alert) (e' : TimeEntry) (w₁ : World σ), Local r.1 r.2.1 s e' w₁ →
      (reload r.1 alert).Leads
        (fun saved w' => saved.id = r.1 ∧
          (s.reclassifyDays user r.2.1 r.2.2).SameLocal [r.1] w'.store)
        (fun _ _ => True) (w₁.put (w₁.store.reclassifyDays user r.2.1 r.2.2)) := by
    intro alert e' w₁ hlocal
    rw [leads_reload]
    split
    · trivial
    · trivial
    · exact ⟨rfl, hlocal.2.reclassifyDays r.2.1 r.2.2⟩
  have hfollow := leads_followUp (hkept.mono (fun _ e' w₁ h alert _ => hends alert e' w₁ h)
    (fun err e' w₁ h => hends _ e' w₁ h))
  exact (hfollow.and (followUp_succeeds haccepted.standing haccepted.previous_user)).mono
    (fun _ _ h => h.1) (fun _ _ h => h.2)

theorem save_local {target : Option EntryId} {input : EntryInput} :
    (save tracker user target input).Leads
      (fun saved w' => ∃ s, w.store.saveLocally user target input = .ok (saved.id, s) ∧
        s.SameLocal [saved.id] w'.store)
      (fun err w' => w.store.saveLocally user target input = .error err ∧ w' = w) w := by
  have haccept : (accept user target input).Leads
      (fun r w' => w.store.accept user target input = .ok (r, w'.store))
      (fun err _ => w.store.accept user target input = .error err) w := by
    rw [leads_accept]
    cases w.store.accept user target input <;> rfl
  unfold save
  rw [leads_bind]
  refine (haccept.and accept_stores).mono ?_ ?_
  · rintro r _ ⟨hlocal, s, haccepted, rfl⟩
    refine (followUp_local haccepted).mono ?_ (fun _ _ h => h.elim)
    rintro saved w' ⟨hid, hsame⟩
    rw [hid]
    refine ⟨_, ?_, hsame⟩
    rw [Store.saveLocally, hlocal]
    rfl
  · rintro err w' ⟨hlocal, hw⟩
    refine ⟨?_, hw⟩
    rw [Store.saveLocally, hlocal]
    rfl

theorem delete_local :
    (delete tracker user id).Leads
      (fun _ w' => ∃ e, w.store.ownEntry user id = .ok e ∧
        ((w.store.eraseEntry id).reclassifyDay user e.day).2.SameLocal [] w'.store)
      (fun err w' => w.store.ownEntry user id = .error err ∧ w' = w) w := by
  unfold delete
  rw [leads_bind, leads_ownEntry_store]
  cases w.store.ownEntry user id with
  | error err => exact ⟨rfl, rfl⟩
  | ok e =>
      have hremoved : (removeWorklog tracker e).Leads (fun _ w' => w.store.OnlyStale w'.store)
          (fun _ w' => w.store.OnlyStale w'.store) w :=
        (removeWorklog_keeps (K := fun _ => True) .const (fun _ => trivial)
          (fun _ _ _ _ => trivial) (fun _ _ _ _ => trivial)).mono (fun _ _ h => h.2.1)
          (fun _ _ h => h.2)
      have hends : ∀ (alert : Option Alert) (w₁ : World σ), w.store.OnlyStale w₁.store →
          (do change (Store.eraseEntry id); alertingReclassify user e.day alert :
            Sync σ (Option Alert)).Leads
            (fun _ w' =>
              ((w.store.eraseEntry id).reclassifyDay user e.day).2.SameLocal [] w'.store)
            (fun _ _ => False) w₁ := by
        intro alert w₁ honly
        rw [leads_bind, leads_change]
        apply leads_alertingReclassify
        intro _ _
        have hsame : w.store.SameLocal [] w₁.store := honly.sameLocal
        exact (hsame.erase id).reclassifyDay e.day
      dsimp only
      rw [leads_bind, leads_alerting]
      refine hremoved.mono ?_ ?_
      · intro _ w₁ honly
        exact (hends none w₁ honly).mono (fun _ _ h => ⟨e, rfl, h⟩) (fun _ _ h => h.elim)
      · intro err w₁ honly
        exact (hends _ w₁ honly).mono (fun _ _ h => ⟨e, rfl, h⟩) (fun _ _ h => h.elim)

theorem saveDays_local {template : EntryInput} {saved : List EntryId} (days : List Date)
    (h : s.SameLocal saved w.store) :
    (days.mapM fun day => save tracker user none { template with day }).Leads
      (fun results w' => ∃ s', s.saveDaysLocally user template days =
          .ok (results.map Saved.id, s') ∧
        s'.SameLocal (results.map Saved.id ++ saved) w'.store)
      (fun err _ => s.saveDaysLocally user template days = .error err) w := by
  induction days generalizing s w saved with
  | nil => exact ⟨s, rfl, h⟩
  | cons day rest ih =>
      rw [List.mapM_cons, leads_bind]
      refine save_local.mono ?_ ?_
      · rintro first w₁ ⟨t, ht, hsame⟩
        obtain ⟨s₁, hs₁, hst⟩ := h.symm.saveLocally_new ht
        have hsub : [first.id] ⊆ first.id :: saved := by simp
        have hnext : s₁.SameLocal (first.id :: saved) w₁.store :=
          (hst.symm.mono (List.subset_cons_self _ _)).trans (hsame.mono hsub)
        have hdays : s.saveDaysLocally user template (day :: rest) = do
            let (ids, s₂) ← s₁.saveDaysLocally user template rest
            return (first.id :: ids, s₂) := by
          rw [Store.saveDaysLocally, hs₁]
          rfl
        rw [leads_bind, hdays]
        refine (ih hnext).mono ?_ ?_
        · rintro others w₂ ⟨s₂, hs₂, hsame₂⟩
          refine ⟨s₂, ?_, hsame₂.mono ?_⟩
          · rw [hs₂]
            rfl
          · intro id hid
            simp only [List.mem_append, List.mem_cons, List.map_cons, List.cons_append] at hid ⊢
            tauto
        · intro err w₂ herr
          rw [herr]
          rfl
      · rintro err w₁ ⟨herr, -⟩
        simp only [Store.saveDaysLocally, h.symm.saveLocally_new_error herr]
        rfl

theorem bulk_local {template : EntryInput} {range : BulkRange} :
    (bulkCreate tracker user template range).Leads
      (fun results w' => ∃ s, w.store.performLocally user (.bulk template range) =
          .ok (results.map Saved.id, s) ∧ s.SameLocal (results.map Saved.id) w'.store)
      (fun err _ => w.store.performLocally user (.bulk template range) = .error err) w := by
  have hlocal : w.store.performLocally user (.bulk template range) =
      if range.last < range.first then
        .error (.rejected (.reversedRange range.first range.last))
      else w.store.saveDaysLocally user template range.days := rfl
  rw [hlocal]
  unfold bulkCreate
  by_cases hreversed : range.last < range.first
  · simp only [if_pos hreversed]
    rfl
  · simp only [if_neg hreversed]
    have hsame : w.store.SameLocal [] w.store := .refl w.store
    refine (saveDays_local range.days hsame).mono ?_ (fun _ _ h => h)
    rintro results w' ⟨s, hs, hs'⟩
    exact ⟨s, hs, by simpa only [List.append_nil] using hs'⟩

end Sync

/-- Whether a call succeeds, which entries it saves and what it leaves in the store but for their
work-logs is told by the store alone. -/
theorem Call.saves_local {σ : Type} {w : World σ} (c : Call σ) :
    c.saves.Leads
      (fun ids w' => ∃ s, w.store.performLocally c.user c.action = .ok (ids, s) ∧
        s.SameLocal ids w'.store)
      (fun err w' => w.store.performLocally c.user c.action = .error err ∧ w' = w) w := by
  unfold saves
  cases haction : c.action with
  | save target input =>
      rw [Sync.leads_map]
      refine Sync.save_local.mono ?_ ?_
      · rintro saved w' ⟨s, hs, hsame⟩
        refine ⟨s, ?_, hsame⟩
        rw [Store.performLocally, hs]
        rfl
      · rintro err w' ⟨herr, hw⟩
        refine ⟨?_, hw⟩
        rw [Store.performLocally, herr]
        rfl
  | delete id =>
      rw [Sync.leads_map]
      refine Sync.delete_local.mono ?_ ?_
      · rintro _ w' ⟨e, he, hsame⟩
        refine ⟨_, ?_, hsame⟩
        rw [Store.performLocally, he]
        rfl
      · rintro err w' ⟨herr, hw⟩
        refine ⟨?_, hw⟩
        rw [Store.performLocally, herr]
        rfl
  | bulk template range =>
      rw [Sync.leads_map]
      refine (Sync.bulk_local.and Sync.bulkCreate_refuses).mono (fun _ _ h => h.1) ?_
      rintro err w' ⟨herr, hw⟩
      exact ⟨herr, hw⟩

end Timesheet
