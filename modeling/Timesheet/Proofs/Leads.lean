import Timesheet.Sync.Save

/-!
What work leads to: a value or a failure, and the world in which it ends. Each way of building work
has one law.
-/
namespace Timesheet

variable {σ : Type}

/-- Work goes on from where the work before it ended, unless this failed. -/
theorem run_bind {ε τ α β : Type} (work : ExceptT ε (StateM τ) α)
    (next : α → ExceptT ε (StateM τ) β) (t : τ) :
    (work >>= next).run.run t = match work.run.run t with
      | (.ok a, t') => (next a).run.run t'
      | (.error e, t') => (.error e, t') := by
  simp only [ExceptT.run_bind, StateT.run_bind]
  rcases StateT.run (ExceptT.run work) t with ⟨_ | _, _⟩ <;> rfl

namespace World

def note (w : World σ) (x : Exchange) (remote : σ) : World σ :=
  { w with remote, journal := w.journal ++ [x] }

def put (w : World σ) (s : Store) : World σ := { w with store := s }

variable (w : World σ) (x : Exchange) (remote : σ) (s : Store)

@[simp] theorem note_store : (w.note x remote).store = w.store := rfl
@[simp] theorem note_journal : (w.note x remote).journal = w.journal ++ [x] := rfl
@[simp] theorem put_store : (w.put s).store = s := rfl
@[simp] theorem put_journal : (w.put s).journal = w.journal := rfl

end World

namespace Sync

variable {α β : Type}

/-- Started in `w`, the work gives a value and ends in `Q`, or it fails and ends in `E`. -/
def Leads (work : Sync σ α) (Q : α → World σ → Prop) (E : SyncError → World σ → Prop)
    (w : World σ) : Prop :=
  match outcome work w with
  | (.ok a, w') => Q a w'
  | (.error e, w') => E e w'

variable {Q R : α → World σ → Prop} {E F : SyncError → World σ → Prop} {w : World σ}

theorem Leads.mono {work : Sync σ α} (h : work.Leads Q E w) (hQ : ∀ a w', Q a w' → R a w')
    (hE : ∀ e w', E e w' → F e w') : work.Leads R F w := by
  unfold Leads at *
  split
  · next heq => exact hQ _ _ (by simpa only [heq] using h)
  · next heq => exact hE _ _ (by simpa only [heq] using h)

theorem leads_congr {work : Sync σ α} (hQ : ∀ a w', Q a w' ↔ R a w')
    (hE : ∀ e w', E e w' ↔ F e w') : work.Leads Q E w ↔ work.Leads R F w := by
  constructor
  · intro h
    exact h.mono (fun a w' => (hQ a w').mp) (fun e w' => (hE e w').mp)
  · intro h
    exact h.mono (fun a w' => (hQ a w').mpr) (fun e w' => (hE e w').mpr)

theorem Leads.and {work : Sync σ α} (h : work.Leads Q E w) (h' : work.Leads R F w) :
    work.Leads (fun a w' => Q a w' ∧ R a w') (fun e w' => E e w' ∧ F e w') w := by
  unfold Leads at *
  split
  · next heq =>
      rw [heq] at h h'
      exact ⟨h, h'⟩
  · next heq =>
      rw [heq] at h h'
      exact ⟨h, h'⟩

theorem leads_not {work : Sync σ α} :
    ¬ work.Leads Q E w ↔ work.Leads (fun a w' => ¬ Q a w') (fun e w' => ¬ E e w') w := by
  unfold Leads
  split <;> exact Iff.rfl

theorem Leads.anyway {work : Sync σ α} (h : ∀ w', (∀ a, Q a w') ∧ ∀ e, E e w') :
    work.Leads Q E w := by
  unfold Leads
  split
  · exact (h _).1 _
  · exact (h _).2 _

theorem Leads.always {work : Sync σ α} {K : World σ → Prop}
    (h : work.Leads (fun _ => K) (fun _ => K) w) : K (outcome work w).2 := by
  unfold Leads at h
  split at h
  · next heq => exact heq ▸ h
  · next heq => exact heq ▸ h

theorem leads_of_always {work : Sync σ α} {K : World σ → Prop} (h : K (outcome work w).2) :
    work.Leads (fun _ => K) (fun _ => K) w := by
  unfold Leads
  split
  · next heq => rwa [heq] at h
  · next heq => rwa [heq] at h

theorem Leads.of_ok {work : Sync σ α} {a : α} {w' : World σ} (h : work.Leads Q E w)
    (hrun : outcome work w = (.ok a, w')) : Q a w' := by
  unfold Leads at h
  simpa only [hrun] using h

theorem Leads.of_error {work : Sync σ α} {e : SyncError} {w' : World σ} (h : work.Leads Q E w)
    (hrun : outcome work w = (.error e, w')) : E e w' := by
  unfold Leads at h
  simpa only [hrun] using h

theorem Leads.succeeds {work : Sync σ α} (h : work.Leads Q (fun _ _ => False) w) :
    ∃ a w', outcome work w = (.ok a, w') ∧ Q a w' := by
  unfold Leads at h
  split at h
  · next heq => exact ⟨_, _, heq, h⟩
  · exact h.elim

theorem leads_outcome (work : Sync σ α) (w : World σ) :
    work.Leads (fun a w' => outcome work w = (.ok a, w'))
      (fun e w' => outcome work w = (.error e, w')) w := by
  unfold Leads
  generalize outcome work w = result
  rcases result with ⟨_ | _, _⟩ <;> rfl

@[simp] theorem leads_pure {a : α} : Leads (pure a) Q E w ↔ Q a w := Iff.rfl

@[simp] theorem leads_throw {e : SyncError} : Leads (throw e : Sync σ α) Q E w ↔ E e w := Iff.rfl

theorem outcome_bind (work : Sync σ α) (next : α → Sync σ β) (w : World σ) :
    outcome (work >>= next) w = match outcome work w with
      | (.ok a, w') => outcome (next a) w'
      | (.error e, w') => (.error e, w') := by
  unfold outcome
  rw [run_bind]
  rcases work.run.run w with ⟨_ | _, _⟩ <;> rfl

/-- Work goes on alike after what is common to both. -/
theorem outcome_bind_congr {work : Sync σ α} {f g : α → Sync σ β}
    (h : work.Leads (fun a w' => outcome (f a) w' = outcome (g a) w') E w) :
    outcome (work >>= f) w = outcome (work >>= g) w := by
  rw [outcome_bind, outcome_bind]
  unfold Leads at h
  split at h
  · exact h
  · rfl

@[simp] theorem leads_bind {P : β → World σ → Prop} {work : Sync σ α} {next : α → Sync σ β} :
    Leads (work >>= next) P E w ↔ work.Leads (fun a => (next a).Leads P E) E w := by
  unfold Leads
  rw [outcome_bind]
  rcases outcome work w with ⟨_ | _, _⟩ <;> rfl

@[simp] theorem leads_map {P : β → World σ → Prop} {work : Sync σ α} {f : α → β} :
    Leads (f <$> work) P E w ↔ work.Leads (fun a => P (f a)) E w := by
  rw [map_eq_pure_bind, leads_bind]
  exact Iff.rfl

theorem outcome_store (w : World σ) : outcome store w = (.ok w.store, w) := rfl

@[simp] theorem leads_store {P : Store → World σ → Prop} :
    Leads store P E w ↔ P w.store w := Iff.rfl

@[simp] theorem leads_change {P : Unit → World σ → Prop} {f : Store → Store} :
    Leads (change f) P E w ↔ P () (w.put (f w.store)) := Iff.rfl

@[simp] theorem leads_query {f : Store → Except StorageError α} :
    Leads (query f) Q E w ↔
      match f w.store with
      | .ok a => Q a w
      | .error e => E (.storage e) w := by
  rw [query, leads_bind, leads_store]
  cases f w.store <;> simp

@[simp] theorem leads_update {P : Unit → World σ → Prop} {f : Store → Except StorageError Store} :
    Leads (update f) P E w ↔
      match f w.store with
      | .ok s => P () (w.put s)
      | .error e => E (.storage e) w := by
  rw [update, leads_bind, leads_store]
  cases f w.store with
  | ok s => exact Iff.rfl
  | error e => exact Iff.rfl

@[simp] theorem leads_insert {f : Store → Except StorageError (α × Store)} :
    Leads (insert f) Q E w ↔
      match f w.store with
      | .ok (a, s) => Q a (w.put s)
      | .error e => E (.storage e) w := by
  rw [insert, leads_bind, leads_store]
  cases f w.store with
  | ok r => exact Iff.rfl
  | error e => exact Iff.rfl

@[simp] theorem leads_ask {tracker : Tracker σ} {c : Connection} {r : Request}
    {P : Except TrackerError r.Answer → World σ → Prop} :
    Leads (ask tracker c r) P E w ↔
      P (tracker c r w.remote).1
        (w.note ⟨c, r, (tracker c r w.remote).1, w.store⟩ (tracker c r w.remote).2) := Iff.rfl

@[simp] theorem leads_attempt {P : Except SyncError α → World σ → Prop} {work : Sync σ α} :
    Leads (attempt work) P E w ↔ work.Leads (fun a => P (.ok a)) (fun e => P (.error e)) w := by
  unfold Leads
  have hrun : outcome (attempt work) w = (.ok (outcome work w).1, (outcome work w).2) := rfl
  rw [hrun]
  rcases outcome work w with ⟨_ | _, _⟩ <;> rfl

@[simp] theorem leads_ofExcept {r : Except SyncError α} :
    Leads (liftM r : Sync σ α) Q E w ↔
      match r with
      | .ok a => Q a w
      | .error e => E e w := by
  cases r <;> exact Iff.rfl

theorem Leads.send {tracker : Tracker σ} {c : Connection} {r : Request}
    {P : r.Answer → World σ → Prop}
    (ok : ∀ answer remote, P answer (w.note ⟨c, r, .ok answer, w.store⟩ remote))
    (error : ∀ e remote, E (.tracker e) (w.note ⟨c, r, .error e, w.store⟩ remote)) :
    Leads (send tracker c r) P E w := by
  rw [Sync.send, leads_bind, leads_ask]
  cases h : (tracker c r w.remote).1 with
  | ok answer => exact ok answer _
  | error e => exact error e _

namespace Working

/-- Started on the copy `e` in `w`, the work gives a value and ends in `Q`, or it fails and ends in
`E`. -/
def Leads (work : Working σ α) (Q : α → TimeEntry → World σ → Prop)
    (E : SyncError → TimeEntry → World σ → Prop) (e : TimeEntry) (w : World σ) : Prop :=
  match (work.run.run e).run w with
  | ((.ok a, e'), w') => Q a e' w'
  | ((.error err, e'), w') => E err e' w'

variable {Q R : α → TimeEntry → World σ → Prop} {E F : SyncError → TimeEntry → World σ → Prop}
  {e : TimeEntry}

theorem Leads.mono {work : Working σ α} (h : work.Leads Q E e w)
    (hQ : ∀ a e' w', Q a e' w' → R a e' w') (hE : ∀ err e' w', E err e' w' → F err e' w') :
    work.Leads R F e w := by
  unfold Leads at *
  split
  · next heq => exact hQ _ _ _ (by simpa only [heq] using h)
  · next heq => exact hE _ _ _ (by simpa only [heq] using h)

theorem leads_congr {work : Working σ α} (hQ : ∀ a e' w', Q a e' w' ↔ R a e' w')
    (hE : ∀ err e' w', E err e' w' ↔ F err e' w') : work.Leads Q E e w ↔ work.Leads R F e w := by
  constructor
  · intro h
    exact h.mono (fun a e' w' => (hQ a e' w').mp) (fun err e' w' => (hE err e' w').mp)
  · intro h
    exact h.mono (fun a e' w' => (hQ a e' w').mpr) (fun err e' w' => (hE err e' w').mpr)

theorem Leads.and {work : Working σ α} (h : work.Leads Q E e w) (h' : work.Leads R F e w) :
    work.Leads (fun a e' w' => Q a e' w' ∧ R a e' w') (fun err e' w' => E err e' w' ∧ F err e' w')
      e w := by
  unfold Leads at *
  split
  · next heq =>
      rw [heq] at h h'
      exact ⟨h, h'⟩
  · next heq =>
      rw [heq] at h h'
      exact ⟨h, h'⟩

theorem leads_not {work : Working σ α} :
    ¬ work.Leads Q E e w ↔
      work.Leads (fun a e' w' => ¬ Q a e' w') (fun err e' w' => ¬ E err e' w') e w := by
  unfold Leads
  split <;> exact Iff.rfl

@[simp] theorem leads_pure {a : α} : Leads (pure a) Q E e w ↔ Q a e w := Iff.rfl

theorem run_bind (work : Working σ α) (next : α → Working σ β) (e : TimeEntry) (w : World σ) :
    ((work >>= next).run.run e).run w = match (work.run.run e).run w with
      | ((.ok a, e'), w') => ((next a).run.run e').run w'
      | ((.error err, e'), w') => ((.error err, e'), w') := by
  simp only [ExceptT.run_bind, StateT.run_bind]
  rcases (StateT.run (ExceptT.run work) e).run w with ⟨⟨_ | _, _⟩, _⟩ <;> simp <;> rfl

@[simp] theorem leads_bind {P : β → TimeEntry → World σ → Prop} {work : Working σ α}
    {next : α → Working σ β} :
    Leads (work >>= next) P E e w ↔ work.Leads (fun a => (next a).Leads P E) E e w := by
  unfold Leads
  rw [run_bind]
  rcases (work.run.run e).run w with ⟨⟨_ | _, _⟩, _⟩ <;> rfl

@[simp] theorem leads_get {P : TimeEntry → TimeEntry → World σ → Prop} :
    Leads (get : Working σ TimeEntry) P E e w ↔ P e e w := Iff.rfl

@[simp] theorem leads_set {P : PUnit → TimeEntry → World σ → Prop} {e' : TimeEntry} :
    Leads (set e' : Working σ PUnit) P E e w ↔ P () e' w := Iff.rfl

@[simp] theorem leads_lift {work : Sync σ α} :
    Leads (lift work) Q E e w ↔ work.Leads (fun a => Q a e) (fun err => E err e) w := by
  have hrun : ((lift work).run.run e).run w = (((outcome work w).1, e), (outcome work w).2) := rfl
  unfold Leads Sync.Leads
  rw [hrun]
  rcases outcome work w with ⟨_ | _, _⟩ <;> rfl

@[simp] theorem leads_ofExcept {r : Except SyncError α} :
    Leads (liftM r : Working σ α) Q E e w ↔
      match r with
      | .ok a => Q a e w
      | .error err => E err e w := by
  cases r <;> exact Iff.rfl

@[simp] theorem leads_save {P : Unit → TimeEntry → World σ → Prop} {id : EntryId} :
    Leads (Working.save id) P E e w ↔
      match w.store.saveEntry id e with
      | .ok s => P () e (w.put s)
      | .error err => E (.storage err) e w := by
  rw [Working.save, leads_bind, leads_get, leads_lift, leads_update]

theorem leads_set_save {P : Unit → TimeEntry → World σ → Prop} {id : EntryId} (e' : TimeEntry) :
    Leads (do set e'; Working.save id) P E e w ↔
      match w.store.saveEntry id e' with
      | .ok s => P () e' (w.put s)
      | .error err => E (.storage err) e' w := by
  rw [leads_bind, leads_set, leads_save]

@[simp] theorem leads_on {work : Working σ α} {P : α → World σ → Prop}
    {G : SyncError → World σ → Prop} :
    Sync.Leads (work.on e) P G w ↔ work.Leads (fun a _ => P a) (fun err _ => G err) e w := by
  have hrun : outcome (work.on e) w =
      (((work.run.run e).run w).1.1, ((work.run.run e).run w).2) := rfl
  unfold Leads Sync.Leads
  rw [hrun]
  rcases (work.run.run e).run w with ⟨⟨_ | _, _⟩, _⟩ <;> rfl

end Working

end Sync

end Timesheet
