import Timesheet.Proofs.Booking
import Timesheet.Sync.History

/-!
Whole actions: what holds through saving, deleting and bulk creation, from what holds through their
parts.
-/
namespace Timesheet.Sync

variable {σ : Type} {tracker : Tracker σ} {user : UserId} {id : EntryId} {e p : TimeEntry}
  {w : World σ}

/-- `I` leads over `K` to `J` when the entry `id`, which was `p` before, leaves its ticket. -/
structure BearsLeaving (id : EntryId) (p : TimeEntry) (I K J : TimeEntry → World σ → Prop) :
    Prop where
  stays : ∀ {e w}, I e w → movedToOtherTicket e p = false → J e w
  skipped : ∀ {e w}, I e w → movedToOtherTicket e p = true → Untraceable w.store p → K e w
  recorded : ∀ {e w worklog r s}, I e w → movedToOtherTicket e p = true →
    p.worklog = some worklog → p.ticket ≠ "" → w.store.bookingRoute? p.project = some r →
    w.store.recordStale ⟨p.user, r.id, p.ticket, worklog⟩ = .ok s → K e (w.put s)
  refused : ∀ {e w worklog r err}, I e w → movedToOtherTicket e p = true →
    p.worklog = some worklog → p.ticket ≠ "" → w.store.bookingRoute? p.project = some r →
    w.store.recordStale ⟨p.user, r.id, p.ticket, worklog⟩ = .error err → K e w
  retry : ∀ e, BearsRetry p.user (K e)
  cleared : ∀ {e w s}, K e w → w.store.saveEntry id (e.withWorklog none) = .ok s →
    J (e.withWorklog none) (w.put s)
  uncleared : ∀ {e w err}, K e w → w.store.saveEntry id (e.withWorklog none) = .error err →
    J (e.withWorklog none) w
  none : ∀ {e w}, K e w → e.worklog = none → J e w

theorem BearsLeaving.const {P : Prop} :
    BearsLeaving (σ := σ) id p (fun _ _ => P) (fun _ _ => P) (fun _ _ => P) where
  stays h _ := h
  skipped h _ _ := h
  recorded h _ _ _ _ _ := h
  refused h _ _ _ _ _ := h
  retry _ := .const
  cleared h _ := h
  uncleared h _ := h
  none h _ := h

theorem cleared_keeps {p : TimeEntry} {I K J : TimeEntry → World σ → Prop}
    (bears : BearsLeaving id p I K J) {R : TimeEntry → World σ → Prop} (hK : K e w)
    (hR : ∀ {e' w'}, SameWork e w e' w' → w'.store.stale = w.store.stale → J e' w' → R e' w') :
    Cleared id e R (fun _ => J) w := by
  unfold Cleared
  split
  · cases hsave : w.store.saveEntry id (e.withWorklog none) with
    | error err => exact bears.uncleared hK hsave
    | ok s =>
        refine hR ⟨rfl, rfl, Store.saveEntry_sameCatalog hsave⟩ ?_ (bears.cleared hK hsave)
        rw [World.put_store, Store.saveEntry_ok hsave]
  · next hnone =>
      exact hR (.refl e w) rfl (bears.none hK (by simpa using hnone))

theorem leaveTicket_keeps {p : TimeEntry} {I K J : TimeEntry → World σ → Prop}
    (bears : BearsLeaving id p I K J) (hI : I e w) (huser : p.user = e.user) :
    (leaveTicket tracker id p).Leads
      (fun _ e' w' => J e' w' ∧ SameWork e w e' w' ∧
        (w.store.pendingOf e.user = [] → w'.store.pendingOf e.user = []))
      (fun _ => J) e w := by
  rw [leads_leaveTicket]
  split
  · next hmoved =>
      refine (removeWorklog_keeps (bears.retry e) (bears.skipped hI hmoved)
        (bears.recorded hI hmoved) (bears.refused hI hmoved)).mono ?_ ?_
      · rintro - w₁ ⟨hK, honly, hpending⟩
        refine cleared_keeps bears hK fun hsame hstale hJ => ⟨hJ, ?_, fun hnone => ?_⟩
        · exact SameWork.trans ⟨rfl, rfl, honly.sameCatalog⟩ hsame
        · rw [Store.pendingOf, hstale, ← huser]
          exact hpending (huser ▸ hnone)
      · rintro err w₁ ⟨hK, -⟩
        exact cleared_keeps bears hK fun _ _ hJ => hJ
  · next hstays =>
      exact ⟨bears.stays hI (by simpa using hstays), .refl e w, fun h => h⟩

theorem leaveTicket_sameWork (huser : p.user = e.user) :
    (leaveTicket tracker id p).Leads
      (fun _ e' w' => SameWork e w e' w' ∧
        (w.store.pendingOf e.user = [] → w'.store.pendingOf e.user = []))
      (fun _ _ _ => True) e w :=
  (leaveTicket_keeps (J := fun _ _ => True) .const trivial huser).mono (fun _ _ _ h => h.2)
    (fun _ _ _ h => h)

theorem leads_reconcile {previous : Option TimeEntry} {Q : Unit → TimeEntry → World σ → Prop}
    {E : SyncError → TimeEntry → World σ → Prop} :
    (reconcile tracker id previous).Leads Q E e w ↔
      (settle tracker id).Leads
        (fun route => (previous.elim (pure ()) (leaveTicket tracker id)).Leads
          (fun _ => (route.elim (pure ()) (book tracker id)).Leads Q E) E) E e w := by
  unfold reconcile
  rw [Working.leads_bind]
  refine Working.leads_congr (fun route e₁ w₁ => ?_) (fun _ _ _ => Iff.rfl)
  cases previous with
  | none => cases route <;> exact Iff.rfl
  | some p =>
      dsimp only [Option.elim_some]
      rw [Working.leads_bind]
      refine Working.leads_congr (fun _ e₂ w₂ => ?_) (fun _ _ _ => Iff.rfl)
      cases route <;> exact Iff.rfl

/-- What each stage hands on to the next leads to the end of all stages. From settling on, none of
the user's deletions is pending. -/
theorem reconcile_stages {previous : Option TimeEntry} {A B : TimeEntry → World σ → Prop}
    {Q : Unit → TimeEntry → World σ → Prop} {E : SyncError → TimeEntry → World σ → Prop}
    (users : ∀ p ∈ previous, p.user = e.user)
    (settled : (settle tracker id).Leads (fun _ => A) E e w)
    (new : previous = none → ∀ {e' w'}, A e' w' → B e' w')
    (left : ∀ p ∈ previous, ∀ {e' w'}, A e' w' → SameWork e w e' w' →
      w'.store.pendingOf e.user = [] → (leaveTicket tracker id p).Leads (fun _ => B) E e' w')
    (booked : ∀ {e' w'}, B e' w' → SameWork e w e' w' → w'.store.pendingOf e.user = [] →
      ((w'.store.bookingRoute? e'.project).elim (pure ()) (book tracker id)).Leads Q E e' w') :
    (reconcile tracker id previous).Leads Q E e w := by
  rw [leads_reconcile]
  refine (settled.and settle_sameWork).mono ?_ (fun _ _ _ h => h.1)
  rintro route e₁ w₁ ⟨hA, hsame, hpending, rfl⟩
  rcases previous with _ | p
  · rw [← hsame.bookingRoute?_eq]
    exact booked (new rfl hA) hsame hpending
  · have huser : p.user = e₁.user := (users p rfl).trans hsame.user.symm
    refine ((left p rfl hA hsame hpending).and (leaveTicket_sameWork huser)).mono ?_
      (fun _ _ _ h => h.1)
    rintro - e₂ w₂ ⟨hB, hsame', hpending'⟩
    have hall := hsame.trans hsame'
    rw [← hall.bookingRoute?_eq]
    exact booked hB hall (hsame.user ▸ hpending' (hsame.user.symm ▸ hpending))

/-- What holds when the first stage ends, whether in success (`I`) or in failure (`J`), leads to `J`
at the end of all stages. -/
theorem reconcile_keeps {previous : Option TimeEntry} {I K J : TimeEntry → World σ → Prop}
    (settled : (settle tracker id).Leads
      (fun route e' w' => I e' w' ∧ SameWork e w e' w' ∧ w'.store.pendingOf e.user = [] ∧
        route = w.store.bookingRoute? e.project)
      (fun _ => J) e w)
    (new : previous = none → ∀ {e w}, I e w → J e w)
    (leaving : ∀ p ∈ previous, p.user = e.user ∧ BearsLeaving id p I K J)
    (booking : BearsBooking id J) :
    (reconcile tracker id previous).Leads (fun _ => J) (fun _ => J) e w := by
  refine reconcile_stages (fun p hp => (leaving p hp).1)
    (settled.mono (fun _ _ _ h => h.1) (fun _ _ _ h => h)) new ?_ ?_
  · intro p hp e₁ w₁ hI hsame _
    obtain ⟨huser, bears⟩ := leaving p hp
    exact (leaveTicket_keeps bears hI (huser.trans hsame.user.symm)).mono (fun _ _ _ h => h.1)
      (fun _ _ _ h => h)
  · intro e₁ w₁ hJ hsame hpending
    cases hr : w₁.store.bookingRoute? e₁.project with
    | none => exact hJ
    | some r => exact book_keeps booking hJ hr (hsame.user ▸ hpending)

theorem reconcile_keepsAll {previous : Option TimeEntry} {I : TimeEntry → World σ → Prop}
    (settling : BearsSettling id I) (leaving : ∀ p ∈ previous, p.user = e.user ∧
      BearsLeaving id p I I I) (booking : BearsBooking id I) (hI : I e w) :
    (reconcile tracker id previous).Leads (fun _ => I) (fun _ => I) e w := by
  refine reconcile_keeps ?_ (fun _ _ _ h => h) leaving booking
  exact (settle_keeps settling hI).mono (fun _ _ _ h => h) (fun _ _ _ h => h.1)

theorem leads_ownEntry {Q : TimeEntry → World σ → Prop} {E : SyncError → World σ → Prop} :
    (ownEntry user id).Leads Q E w ↔
      match w.store.entryAt id with
      | .error err => E (.storage err) w
      | .ok none => E (.entryNotFound id) w
      | .ok (some e) => if e.user = user then Q e w else E (.rejected (.foreignEntry id)) w := by
  rw [ownEntry, leads_bind, leads_query]
  rcases w.store.entryAt id with err | _ | e
  · exact Iff.rfl
  · exact Iff.rfl
  · by_cases h : e.user = user <;> simp [h]

/-- Whether a new entry is stored does not depend on the entries that are there. -/
theorem leads_accept_new {input : EntryInput}
    {Q : EntryId × TimeEntry × Option TimeEntry → World σ → Prop}
    {E : SyncError → World σ → Prop} :
    (accept user none input).Leads Q E w ↔
      match input.check w.store with
      | .error err => E err w
      | .ok _ =>
        if w.store.allowsEntry (input.newEntry user) then
          Q (w.store.entries.nextId, input.newEntry user, none) (w.put { w.store with
            entries := w.store.entries.push (input.newEntry user).stored })
        else E (.storage .noReferent) w := by
  unfold accept
  simp only [leads_bind, leads_pure, leads_store, leads_ofExcept]
  cases input.check w.store with
  | error err => exact Iff.rfl
  | ok _ =>
      simp only [storeEntry, leads_bind, leads_insert, leads_pure, Option.map_none,
        Store.insertEntry]
      by_cases h : w.store.allowsEntry (input.newEntry user) <;> simp [h]

/-- What a save stores: the entry `r.2.1` under `r.1`, in place of the entry `r.2.2`. -/
inductive Accepted (s : Store) (user : UserId) (input : EntryInput) :
    Option EntryId → EntryId × TimeEntry × Option TimeEntry → Store → Prop
  | new (allowed : s.allowsEntry (input.newEntry user) = true) :
    Accepted s user input none (s.entries.nextId, input.newEntry user, none)
      { s with entries := s.entries.push (input.newEntry user).stored }
  | edited {id : EntryId} {p : TimeEntry} (row : s.entryAt id = .ok (some p))
    (own : p.user = user) (thawed : s.frozen = false)
    (allowed : s.allowsEntry (input.applyTo p) = true) :
    Accepted s user input (some id) (id, input.applyTo p, some p)
      { s with entries := s.entries.modify id fun _ => (input.applyTo p).stored }

section Accepted
variable {s s' : Store} {input : EntryInput} {target : Option EntryId}
  {r : EntryId × TimeEntry × Option TimeEntry} (h : Accepted s user input target r s')
include h

theorem Accepted.previous : ∀ p ∈ r.2.2, p.user = r.2.1.user ∧ r.2.1.worklog = p.worklog := by
  cases h with
  | new => simp
  | edited =>
      rintro _ ⟨⟩
      exact ⟨rfl, rfl⟩

theorem Accepted.previous_user : ∀ p ∈ r.2.2, p.user = r.2.1.user :=
  fun p hp => (h.previous p hp).1

theorem Accepted.user_eq : r.2.1.user = user := by
  cases h with
  | new => rfl
  | edited _ own => exact own

theorem Accepted.project_eq : r.2.1.project = input.project := by
  cases h <;> rfl

theorem Accepted.stale_eq : s'.stale = s.stale := by
  cases h <;> rfl

theorem Accepted.onlyEntries : s' = { s with entries := s'.entries } := by
  cases h <;> rfl

theorem Accepted.sameCatalog : s.SameCatalog s' := by
  cases h <;> rfl

theorem Accepted.row : (r.1, r.2.1.stored) ∈ s'.entries.rows := by
  cases h with
  | new => exact (s.entries.mem_push).mpr (.inr rfl)
  | edited row => exact (s.entries.mem_put (Store.contains_of_entryAt row)).mpr (.inl rfl)

theorem Accepted.erase : s'.eraseEntry r.1 = s.eraseEntry r.1 := by
  cases h with
  | new => simp only [Store.eraseEntry, Table.erase_push]
  | edited => simp only [Store.eraseEntry, Table.erase_modify]

end Accepted

/-- The local part of a save stores the entry, or it fails and changes nothing. -/
theorem accept_stores {target : Option EntryId} {input : EntryInput} :
    (accept user target input).Leads
      (fun r w' => ∃ s, Accepted w.store user input target r s ∧ w' = w.put s)
      (fun _ w' => w' = w) w := by
  rcases target with _ | id
  · rw [leads_accept_new]
    split
    · rfl
    · split
      · next h => exact ⟨_, .new h, rfl⟩
      · rfl
  · unfold accept
    simp only [leads_bind, leads_ownEntry]
    rcases hrow : w.store.entryAt id with err | _ | p
    · trivial
    · trivial
    · dsimp only
      split
      · next hown =>
          simp only [leads_pure, leads_bind, leads_store, leads_ofExcept]
          cases input.check w.store with
          | error err => trivial
          | ok _ =>
              simp only [storeEntry, leads_bind, leads_update, leads_pure]
              cases hsave : w.store.saveEntry id (input.applyTo p) with
              | error err => trivial
              | ok s =>
                  obtain ⟨hf, ha⟩ := Store.saveEntry_allowed hsave (Store.contains_of_entryAt hrow)
                  rw [Store.saveEntry_ok hsave]
                  exact ⟨_, .edited hrow hown hf ha, rfl⟩
      · trivial

theorem accept_new {input : EntryInput} :
    (accept user none input).Leads (fun r _ => r.2.2 = none) (fun _ _ => True) w := by
  refine accept_stores.mono ?_ (fun _ _ _ => trivial)
  rintro r w' ⟨s, haccepted, -⟩
  cases haccepted with
  | new => rfl

@[simp] theorem leads_alerting {phase : Phase} {work : Sync σ Unit}
    {Q : Option Alert → World σ → Prop} {E : SyncError → World σ → Prop} :
    (alerting phase work).Leads Q E w ↔
      work.Leads (fun _ => Q none) (fun err => Q (some ⟨phase, err⟩)) w := by
  rw [alerting, leads_bind, leads_attempt]
  exact Iff.rfl

def BearsClasses (K : World σ → Prop) : Prop :=
  ∀ {w : World σ} {s} id kind, K w → w.store.saveClass id kind = .ok s → K (w.put s)

theorem writeAll_keeps {K : World σ → Prop} (classes : BearsClasses K) (hK : K w)
    (changes : List (EntryId × EntryClass)) (written : Nat) :
    K (w.put (Store.reclassifyDay.writeAll changes written w.store).2) := by
  induction changes generalizing w written with
  | nil => exact hK
  | cons change rest ih =>
      obtain ⟨id, kind⟩ := change
      unfold Store.reclassifyDay.writeAll
      cases hsave : w.store.saveClass id kind with
      | error err => exact hK
      | ok s => exact ih (classes id kind hK hsave) (written + 1)

theorem reclassifyDay_keeps {K : World σ → Prop} (classes : BearsClasses K) (hK : K w)
    (day : Date) : K (w.put (w.store.reclassifyDay user day).2) := by
  unfold Store.reclassifyDay
  cases w.store.dayEntries user day with
  | error err => exact hK
  | ok entries => exact writeAll_keeps classes hK _ _

theorem alertingReclassify_keeps {K : World σ → Prop} (classes : BearsClasses K) (hK : K w)
    {day : Date} {earlier : Option Alert} :
    (alertingReclassify user day earlier).Leads (fun _ => K) (fun _ _ => False) w := by
  have hday : K (w.put (w.store.reclassifyDay user day).2) := reclassifyDay_keeps classes hK day
  unfold alertingReclassify reclassify
  simp only [leads_bind, leads_alerting, leads_store, leads_change]
  cases (w.store.reclassifyDay user day).1 <;> exact hday

theorem alertingReclassifyDays_keeps {previous : Option TimeEntry} {K : World σ → Prop}
    (classes : BearsClasses K) (hK : K w) {earlier : Option Alert} :
    (alertingReclassifyDays user e previous earlier).Leads (fun _ => K) (fun _ _ => False) w := by
  unfold alertingReclassifyDays
  rw [leads_bind]
  refine (alertingReclassify_keeps classes hK).mono ?_ (fun _ _ h => h)
  intro alert w₁ hK₁
  rcases previous with _ | p
  · exact hK₁
  · dsimp only
    split
    · exact hK₁
    · exact alertingReclassify_keeps classes hK₁

theorem leads_reload {alert : Option Alert} {Q : Saved → World σ → Prop}
    {E : SyncError → World σ → Prop} :
    (reload id alert).Leads Q E w ↔
      match w.store.entryAt id with
      | .error err => E (.storage err) w
      | .ok none => E (.entryNotFound id) w
      | .ok (some e) => Q ⟨id, e, alert⟩ w := by
  rw [reload, leads_bind, leads_query]
  rcases w.store.entryAt id with err | _ | e <;> exact Iff.rfl

theorem followUp_keeps {previous : Option TimeEntry} {K : World σ → Prop}
    (reconciled : (reconcile tracker id previous).Leads (fun _ _ => K) (fun _ _ => K) e w)
    (classes : BearsClasses K) :
    (followUp tracker user id e previous).Leads
      (fun saved w' => K w' ∧ saved.id = id ∧ w'.store.entryAt id = .ok (some saved.entry))
      (fun _ w' => K w' ∧ ∀ e', w'.store.entryAt id ≠ .ok (some e')) w := by
  have hrest : ∀ {w₁ : World σ} (alert : Option Alert), K w₁ →
      (alertingReclassifyDays user e previous alert >>= reload id).Leads
        (fun saved w' => K w' ∧ saved.id = id ∧ w'.store.entryAt id = .ok (some saved.entry))
        (fun _ w' => K w' ∧ ∀ e', w'.store.entryAt id ≠ .ok (some e')) w₁ := by
    intro w₁ alert hK
    rw [leads_bind]
    refine (alertingReclassifyDays_keeps classes hK).mono ?_ (fun _ _ h => h.elim)
    intro alert' w₂ hK₂
    rw [leads_reload]
    rcases hrow : w₂.store.entryAt id with err | _ | e'
    · exact ⟨hK₂, by simp⟩
    · exact ⟨hK₂, by simp⟩
    · exact ⟨hK₂, rfl, rfl⟩
  unfold followUp
  rw [leads_bind, leads_alerting, Working.leads_on]
  exact reconciled.mono (fun _ _ _ hK => hrest _ hK) (fun _ _ _ hK => hrest _ hK)

/-- A save leads to `K` when its local part does so where it fails, and leads elsewhere to a world
from which bringing the work-log up to date leads to `K`. -/
theorem save_keeps {target : Option EntryId} {input : EntryInput} {K : World σ → Prop}
    (stored : (accept user target input).Leads
      (fun r w' => (reconcile tracker r.1 r.2.2).Leads (fun _ _ => K) (fun _ _ => K) r.2.1 w')
      (fun _ => K) w)
    (classes : BearsClasses K) :
    (save tracker user target input).Leads (fun _ => K) (fun _ => K) w := by
  unfold save
  rw [leads_bind]
  refine stored.mono ?_ (fun _ _ h => h)
  intro r w₁ h
  exact (followUp_keeps h classes).mono (fun _ _ h => h.1) (fun _ _ h => h.1)

/-- A deletion leads to `K` when the removal of the work-log does, followed by that of the entry.
It fails only before it changes anything. -/
theorem delete_keeps {K : World σ → Prop}
    (removed : ∀ {e}, w.store.entryAt id = .ok (some e) → e.user = user →
      (removeWorklog tracker e).Leads (fun _ w' => K (w'.put (w'.store.eraseEntry id)))
        (fun _ w' => K (w'.put (w'.store.eraseEntry id))) w)
    (classes : BearsClasses K) :
    (delete tracker user id).Leads (fun _ => K) (fun _ w' => w' = w) w := by
  have hrest : ∀ {e : TimeEntry} {w₁ : World σ} (alert : Option Alert),
      K (w₁.put (w₁.store.eraseEntry id)) →
      (do change (Store.eraseEntry id); alertingReclassify user e.day alert :
        Sync σ (Option Alert)).Leads (fun _ => K) (fun _ w' => w' = w) w₁ := by
    intro e w₁ alert hK
    rw [leads_bind, leads_change]
    exact (alertingReclassify_keeps classes hK).mono (fun _ _ h => h) (fun _ _ h => h.elim)
  unfold delete
  rw [leads_bind, leads_ownEntry]
  rcases hrow : w.store.entryAt id with err | _ | e
  · rfl
  · rfl
  · dsimp only
    split
    · next hown =>
        rw [leads_bind, leads_alerting]
        exact (removed hrow hown).mono (fun _ _ h => hrest _ h) (fun _ _ h => hrest _ h)
    · rfl

theorem mapM_keeps {α β : Type} {f : α → Sync σ β} {K : World σ → Prop}
    {E : SyncError → World σ → Prop} (hK : K w) (l : List α)
    (keeps : ∀ a ∈ l, ∀ {w}, K w → (f a).Leads (fun _ => K) E w) :
    (l.mapM f).Leads (fun _ => K) E w := by
  induction l generalizing w with
  | nil => exact hK
  | cons a rest ih =>
      obtain ⟨hfirst, hrest⟩ := List.forall_mem_cons.mp keeps
      rw [List.mapM_cons, leads_bind]
      refine (hfirst hK).mono (fun b w₁ hK₁ => ?_) (fun _ _ h => h)
      rw [leads_bind]
      exact (ih hK₁ hrest).mono (fun _ _ h => h) (fun _ _ h => h)

theorem bulkCreate_keeps {template : EntryInput} {range : BulkRange} {K : World σ → Prop} (hK : K w)
    (saves : ∀ input {w}, K w → (save tracker user none input).Leads (fun _ => K) (fun _ => K) w) :
    (bulkCreate tracker user template range).Leads (fun _ => K) (fun _ => K) w := by
  unfold bulkCreate
  split
  · exact hK
  · exact mapM_keeps hK _ fun day _ => saves { template with day }

theorem leads_discard {α : Type} {work : Sync σ α} {Q : Unit → World σ → Prop}
    {E : SyncError → World σ → Prop} :
    Leads (discard work) Q E w ↔ work.Leads (fun _ => Q ()) E w := by
  show Leads ((fun _ => ()) <$> work) Q E w ↔ _
  exact leads_map

theorem work_keeps {c : Call σ} {K : World σ → Prop} (hK : K w)
    (creates : ∀ input {w}, K w →
      (save c.tracker c.user none input).Leads (fun _ => K) (fun _ => K) w)
    (edits : ∀ id input, c.action = .save (some id) input →
      (save c.tracker c.user (some id) input).Leads (fun _ => K) (fun _ => K) w)
    (deletes : ∀ id, c.action = .delete id →
      (delete c.tracker c.user id).Leads (fun _ => K) (fun _ => K) w) :
    c.work.Leads (fun _ => K) (fun _ => K) w := by
  unfold Call.work
  cases haction : c.action with
  | save target input =>
      rw [leads_discard]
      cases target with
      | none => exact creates input hK
      | some id => exact edits id input haction
  | delete id => exact leads_discard.mpr (deletes id haction)
  | bulk template range => exact leads_discard.mpr (bulkCreate_keeps hK creates)

/-- `K` bears whatever a call of `user` does to the world, whichever entries it writes. -/
structure BearsCall (user : UserId) (K : World σ → Prop) : Prop where
  retry : BearsRetry user K
  note : ∀ {w : World σ} {x} remote, K w →
    (∀ ticket worklog, x.request ≠ .deleteWorklog ticket worklog) → x.store = w.store →
    K (w.note x remote)
  entries : ∀ {w : World σ} t, K w → K (w.put { w.store with entries := t })
  record : ∀ {w : World σ} {d s}, K w → d.user = user → w.store.recordStale d = .ok s → K (w.put s)

section BearsCall
variable {K : World σ → Prop} (h : BearsCall user K)
include h

theorem BearsCall.saveEntry {s : Store} (hK : K w) (hs : w.store.saveEntry id e = .ok s) :
    K (w.put s) := by
  rw [Store.saveEntry_ok hs]
  exact h.entries _ hK

theorem BearsCall.classes : BearsClasses K := by
  intro w s id kind hK hs
  rw [Store.saveClass_ok hs]
  exact h.entries _ hK

theorem BearsCall.settling : BearsSettling id fun e w => e.user = user ∧ K w where
  retry e := .guarded fun huser => huser ▸ h.retry
  lookUp {e w x} remote hK hx hs _ := by
    refine ⟨hK.1, h.note remote hK.2 (fun ticket worklog heq => ?_) hs⟩
    rw [heq] at hx
    exact hx
  retitle _ _ hK hs := ⟨hK.1, h.saveEntry hK.2 hs⟩
  retitleFails _ _ hK _ := hK

theorem BearsCall.leaving (hp : p.user = user) :
    BearsLeaving id p (fun e w => e.user = user ∧ K w) (fun e w => e.user = user ∧ K w)
      (fun e w => e.user = user ∧ K w) where
  stays hK _ := hK
  skipped hK _ _ := hK
  recorded hK _ _ _ _ hs := ⟨hK.1, h.record hK.2 hp hs⟩
  refused hK _ _ _ _ _ := hK
  retry _ := .guarded fun _ => hp ▸ h.retry
  cleared hK hs := ⟨hK.1, h.saveEntry hK.2 hs⟩
  uncleared hK _ := hK
  none hK _ := hK

theorem BearsCall.booking : BearsBooking id fun e w => e.user = user ∧ K w where
  connect remote hK := ⟨hK.1, h.note remote hK.2 nofun rfl⟩
  update remote hK _ _ _ _ := ⟨hK.1, h.note remote hK.2 nofun rfl⟩
  createFails remote hK _ := ⟨hK.1, h.note remote hK.2 nofun rfl⟩
  create remote hK _ _ _ _ _ hs := ⟨hK.1, h.saveEntry (h.note remote hK.2 nofun rfl) hs⟩
  createSame remote hK _ _ := ⟨hK.1, h.note remote hK.2 nofun rfl⟩
  createUnsaved remote hK _ _ := ⟨hK.1, h.note remote hK.2 nofun rfl⟩

theorem save_bears {target : Option EntryId} {input : EntryInput} (hK : K w) :
    (save tracker user target input).Leads (fun _ => K) (fun _ => K) w := by
  refine save_keeps (accept_stores.mono ?_ (fun _ _ hw => hw ▸ hK)) h.classes
  rintro ⟨id, e, previous⟩ _ ⟨s, haccepted, rfl⟩
  have hstored : K (w.put s) := by
    rw [haccepted.onlyEntries]
    exact h.entries _ hK
  have hprevious : ∀ p ∈ previous, p.user = e.user ∧ p.user = user := fun p hp =>
    ⟨haccepted.previous_user p hp, (haccepted.previous_user p hp).trans haccepted.user_eq⟩
  have hkept : (reconcile tracker id previous).Leads (fun _ e w => e.user = user ∧ K w)
      (fun _ e w => e.user = user ∧ K w) e (w.put s) :=
    reconcile_keepsAll h.settling (fun p hp => ⟨(hprevious p hp).1, h.leaving (hprevious p hp).2⟩)
      h.booking ⟨haccepted.user_eq, hstored⟩
  exact hkept.mono (fun _ _ _ h => h.2) (fun _ _ _ h => h.2)

theorem delete_bears (hK : K w) :
    (delete tracker user id).Leads (fun _ => K) (fun _ => K) w := by
  refine (delete_keeps (fun {e} _ hown => ?_) h.classes).mono (fun _ _ h => h)
    (fun _ _ hw => hw ▸ hK)
  exact (removeWorklog_keeps (hown ▸ h.retry) (fun _ => hK) (fun _ _ _ hs => h.record hK hown hs)
    (fun _ _ _ _ => hK)).mono (fun _ _ hK => h.entries _ hK.1) (fun _ _ hK => h.entries _ hK.1)

end BearsCall

theorem work_bears {c : Call σ} {K : World σ → Prop} (h : BearsCall c.user K) (hK : K w) :
    c.work.Leads (fun _ => K) (fun _ => K) w :=
  work_keeps hK (fun _ _ hK => save_bears h hK) (fun _ _ _ => save_bears h hK)
    (fun _ _ => delete_bears h hK)

end Timesheet.Sync
