import Timesheet.Proofs.Settling

/-!
The later stages of bringing a work-log up to date: leaving the old ticket, and booking. As for the
first stage, what holds through them is shown for every predicate that bears the single steps.
-/
namespace Timesheet

def Entry.withWorklog (e : TimeEntry) (worklog : Option String) : TimeEntry := { e with worklog }

namespace Sync

variable {σ : Type} {tracker : Tracker σ} {id : EntryId} {e p : TimeEntry} {w : World σ}

/-- Nothing says where the work-log of the entry is, so it cannot be deleted. -/
def Untraceable (s : Store) (p : TimeEntry) : Prop :=
  p.worklog = none ∨ p.ticket = "" ∨ s.bookingRoute? p.project = none

/-- A work-log that is traced is recorded as a pending deletion, and then the pending deletions of
the user are sent. Where the route of the project cannot be told, nothing is recorded. -/
theorem leads_removeWorklog {Q : Unit → World σ → Prop} {E : SyncError → World σ → Prop} :
    (removeWorklog tracker p).Leads Q E w ↔
      match p.worklog with
      | none => Q () w
      | some worklog =>
        if p.ticket = "" then Q () w
        else match w.store.project? p.project with
          | none => Q () w
          | some project => match Route.ofProject w.store project with
            | .error err => E err w
            | .ok _ => match w.store.bookingRoute? p.project with
              | none => Q () w
              | some r =>
                match w.store.recordStale ⟨p.user, r.id, p.ticket, worklog⟩ with
                | .error err => E (.storage err) w
                | .ok s => (retryPending tracker p.user).Leads Q E (w.put s) := by
  unfold removeWorklog
  rcases p.worklog with _ | worklog
  · exact Iff.rfl
  dsimp only
  by_cases ht : p.ticket = ""
  · simp only [if_pos ht]
    exact Iff.rfl
  simp only [if_neg ht]
  rw [leads_bind, leads_store]
  rcases hproject : w.store.project? p.project with _ | project
  · exact Iff.rfl
  dsimp only
  rw [leads_bind, leads_bookingRoute]
  rcases hroute : Route.ofProject w.store project with err | route
  · exact Iff.rfl
  dsimp only
  rw [← bookingRoute?_of_ok hproject hroute]
  rcases w.store.bookingRoute? p.project with _ | r
  · exact Iff.rfl
  dsimp only
  rw [leads_bind, leads_update]
  cases w.store.recordStale ⟨p.user, r.id, p.ticket, worklog⟩ <;> exact Iff.rfl

theorem leads_removeWorklog_of_route {r : Route} {worklog : String} {Q : Unit → World σ → Prop}
    {E : SyncError → World σ → Prop} (hw : p.worklog = some worklog) (ht : p.ticket ≠ "")
    (hr : w.store.bookingRoute? p.project = some r) :
    (removeWorklog tracker p).Leads Q E w ↔
      match w.store.recordStale ⟨p.user, r.id, p.ticket, worklog⟩ with
      | .error err => E (.storage err) w
      | .ok s => (retryPending tracker p.user).Leads Q E (w.put s) := by
  rw [leads_removeWorklog, hw]
  dsimp only
  rw [if_neg ht]
  cases hproject : w.store.project? p.project with
  | none =>
      rw [bookingRoute?_of_noProject hproject] at hr
      cases hr
  | some project =>
      dsimp only
      cases hroute : Route.ofProject w.store project with
      | error err =>
          rw [bookingRoute?_of_error hproject hroute] at hr
          cases hr
      | ok route =>
          dsimp only
          rw [hr]

theorem removeWorklog_keeps {K : World σ → Prop} (bears : BearsRetry p.user K)
    (skipped : Untraceable w.store p → K w)
    (recorded : ∀ {worklog r s}, p.worklog = some worklog → p.ticket ≠ "" →
      w.store.bookingRoute? p.project = some r →
      w.store.recordStale ⟨p.user, r.id, p.ticket, worklog⟩ = .ok s → K (w.put s))
    (refused : ∀ {worklog r err}, p.worklog = some worklog → p.ticket ≠ "" →
      w.store.bookingRoute? p.project = some r →
      w.store.recordStale ⟨p.user, r.id, p.ticket, worklog⟩ = .error err → K w) :
    (removeWorklog tracker p).Leads
      (fun _ w' => K w' ∧ w.store.OnlyStale w'.store ∧
        (w.store.pendingOf p.user = [] → w'.store.pendingOf p.user = []))
      (fun _ w' => K w' ∧ w.store.OnlyStale w'.store) w := by
  rw [leads_removeWorklog]
  rcases hw : p.worklog with _ | worklog
  · exact ⟨skipped (.inl hw), .refl _, fun h => h⟩
  dsimp only
  split
  · next ht => exact ⟨skipped (.inr (.inl ht)), .refl _, fun h => h⟩
  · next ht =>
      rcases hproject : w.store.project? p.project with _ | project
      · exact ⟨skipped (.inr (.inr (bookingRoute?_of_noProject hproject))), .refl _, fun h => h⟩
      dsimp only
      rcases hroute : Route.ofProject w.store project with err | route
      · exact ⟨skipped (.inr (.inr (bookingRoute?_of_error hproject hroute))), .refl _⟩
      dsimp only
      rcases hbooking : w.store.bookingRoute? p.project with _ | r
      · exact ⟨skipped (.inr (.inr hbooking)), .refl _, fun h => h⟩
      dsimp only
      rcases hrecord : w.store.recordStale ⟨p.user, r.id, p.ticket, worklog⟩ with err | s
      · exact ⟨refused hw ht hbooking hrecord, .refl _⟩
      · have honly := Store.recordStale_onlyStale hrecord
        refine (retryPending_keeps bears (recorded hw ht hbooking hrecord)).mono ?_ ?_
        · rintro - w' ⟨hK, honly', hp⟩
          exact ⟨hK, honly.trans honly', fun _ => hp⟩
        · rintro err w' ⟨hK, honly'⟩
          exact ⟨hK, honly.trans honly'⟩

/-- What holds after the copy has let go of its work-log, where it had one. -/
def Cleared (id : EntryId) (e : TimeEntry) (R : TimeEntry → World σ → Prop)
    (F : SyncError → TimeEntry → World σ → Prop) (w : World σ) : Prop :=
  if e.worklog.isSome then
    match w.store.saveEntry id (e.withWorklog none) with
    | .ok s => R (e.withWorklog none) (w.put s)
    | .error err => F (.storage err) (e.withWorklog none) w
  else R e w

theorem leads_letGo {Q : Unit → TimeEntry → World σ → Prop}
    {E : SyncError → TimeEntry → World σ → Prop} (result : Except SyncError Unit) :
    (if e.worklog.isSome then do
        set { e with worklog := none }
        Working.save id
        liftM result
      else liftM result : Working σ Unit).Leads Q E e w ↔
      match result with
      | .ok _ => Cleared id e (Q ()) E w
      | .error err => Cleared id e (E err) E w := by
  unfold Cleared
  by_cases h : e.worklog.isSome
  · simp only [if_pos h, Working.leads_bind, Working.leads_set, Working.leads_save,
      Entry.withWorklog]
    cases w.store.saveEntry id { e with worklog := none } <;> cases result <;> exact Iff.rfl
  · simp only [if_neg h]
    cases result <;> exact Iff.rfl

theorem leads_leaveTicket {Q : Unit → TimeEntry → World σ → Prop}
    {E : SyncError → TimeEntry → World σ → Prop} :
    (leaveTicket tracker id p).Leads Q E e w ↔
      if movedToOtherTicket e p then
        (removeWorklog tracker p).Leads (fun _ => Cleared id e (Q ()) E)
          (fun err => Cleared id e (E err) E) w
      else Q () e w := by
  unfold leaveTicket
  rw [Working.leads_bind, Working.leads_get]
  split
  · rw [Working.leads_bind, Working.leads_lift, leads_attempt]
    exact leads_congr (fun a _ => leads_letGo (.ok a)) (fun err _ => leads_letGo (.error err))
  · exact Iff.rfl

/-- `I` bears every step of booking the entry `id`. -/
structure BearsBooking (id : EntryId) (I : TimeEntry → World σ → Prop) : Prop where
  connect : ∀ {e w c reply} remote, I e w → I e (w.note ⟨c, .connect, reply, w.store⟩ remote)
  update : ∀ {e w c r worklog draft reply} remote, I e w → e.worklog = some worklog →
    w.store.bookingRoute? e.project = some r → c.id = r.id → w.store.pendingOf e.user = [] →
    I e (w.note ⟨c, .updateWorklog e.ticket worklog draft, reply, w.store⟩ remote)
  createFails : ∀ {e w c draft err} remote, I e w → w.store.pendingOf e.user = [] →
    I e (w.note ⟨c, .createWorklog e.ticket draft, .error err, w.store⟩ remote)
  /-- The entry gets a new work-log; one that it had before was not found. -/
  create : ∀ {e w c r draft worklog s} remote, I e w → e.ticket ≠ "" →
    w.store.bookingRoute? e.project = some r → c.id = r.id → w.store.pendingOf e.user = [] →
    (∀ old, e.worklog = some old → ¬ Outstanding w.journal ⟨c.id, e.ticket, old⟩) →
    w.store.saveEntry id (e.withWorklog (some worklog)) = .ok s →
    I (e.withWorklog (some worklog))
      ((w.note ⟨c, .createWorklog e.ticket draft, .ok worklog, w.store⟩ remote).put s)
  /-- The new work-log is given under the identifier of the old one. -/
  createSame : ∀ {e w c draft worklog} remote, I e w → e.worklog = some worklog →
    w.store.pendingOf e.user = [] →
    I e (w.note ⟨c, .createWorklog e.ticket draft, .ok worklog, w.store⟩ remote)
  createUnsaved : ∀ {e w c draft worklog err} remote, I e w → w.store.pendingOf e.user = [] →
    w.store.saveEntry id (e.withWorklog (some worklog)) = .error err →
    I (e.withWorklog (some worklog))
      (w.note ⟨c, .createWorklog e.ticket draft, .ok worklog, w.store⟩ remote)

/-- The world after a work-log was created for the entry, up to its being stored. -/
def JustCreated (id : EntryId) (I : TimeEntry → World σ → Prop) (e : TimeEntry) (worklog : String)
    (w : World σ) : Prop :=
  (e.worklog = some worklog → I e w) ∧
  (∀ s, w.store.saveEntry id (e.withWorklog (some worklog)) = .ok s →
    I (e.withWorklog (some worklog)) (w.put s)) ∧
  (∀ err, w.store.saveEntry id (e.withWorklog (some worklog)) = .error err →
    I (e.withWorklog (some worklog)) w)

theorem send_createWorklog {I : TimeEntry → World σ → Prop} (bears : BearsBooking id I) {r : Route}
    {c : Connection} {content : WorklogDraft} (hI : I e w) (ht : e.ticket ≠ "")
    (hr : w.store.bookingRoute? e.project = some r) (hc : c.id = r.id)
    (hp : w.store.pendingOf e.user = [])
    (hold : ∀ old, e.worklog = some old → ¬ Outstanding w.journal ⟨c.id, e.ticket, old⟩) :
    (send tracker c (.createWorklog e.ticket content)).Leads
      (fun worklog w' => JustCreated id I e worklog w') (fun _ w' => I e w') w := by
  apply Leads.send
  · intro worklog remote
    exact ⟨fun h => bears.createSame remote hI h hp,
      fun s hs => bears.create remote hI ht hr hc hp hold hs,
      fun err herr => bears.createUnsaved remote hI hp herr⟩
  · intro err remote
    exact bears.createFails remote hI hp

theorem writeWorklog_keeps {I : TimeEntry → World σ → Prop} (bears : BearsBooking id I) {r : Route}
    {c : Connection} {content : WorklogDraft} (hI : I e w) (ht : e.ticket ≠ "")
    (hr : w.store.bookingRoute? e.project = some r) (hc : c.id = r.id)
    (hp : w.store.pendingOf e.user = []) :
    (writeWorklog tracker c e content).Leads
      (fun worklog w' => JustCreated id I e worklog w' ∨ e.worklog = some worklog ∧ I e w')
      (fun _ w' => I e w') w := by
  unfold writeWorklog
  rcases hw : e.worklog with _ | worklog
  · refine (send_createWorklog bears hI ht hr hc hp (by simp [hw])).mono ?_ (fun _ _ h => h)
    exact fun _ _ h => .inl h
  · dsimp only
    rw [leads_bind, leads_ask]
    have hI₁ : ∀ reply remote,
        I e (w.note ⟨c, .updateWorklog e.ticket worklog content, reply, w.store⟩ remote) :=
      fun reply remote => bears.update remote hI hw hr hc hp
    split
    · exact .inr ⟨rfl, hI₁ _ _⟩
    · next what hreply =>
        refine (send_createWorklog bears (hI₁ _ _) ht hr hc hp ?_).mono (fun _ _ h => .inl h)
          (fun _ _ h => h)
        -- The update has just told that the old work-log is gone.
        intro old hold
        obtain rfl : worklog = old := by simpa [hw] using hold
        rw [World.note_journal, outstanding_append]
        simp [Exchange.created?, Exchange.gone?, hreply]
    · exact hI₁ _ _

theorem book_keeps {I : TimeEntry → World σ → Prop} (bears : BearsBooking id I) {r : Route}
    (hI : I e w) (hr : w.store.bookingRoute? e.project = some r)
    (hp : w.store.pendingOf e.user = []) :
    (book tracker id r).Leads (fun _ => I) (fun _ => I) e w := by
  unfold book
  rw [Working.leads_bind, Working.leads_get]
  split
  · exact hI
  · next ht =>
      rw [Working.leads_bind, Working.leads_lift, leads_bind]
      apply Leads.connect
      · intro token remote
        have hI₁ : I e (w.note ⟨⟨r.id, r.system, token⟩, .connect, .ok (), w.store⟩ remote) :=
          bears.connect remote hI
        rw [leads_bind, leads_store]
        refine (writeWorklog_keeps bears hI₁ ht hr rfl hp).mono ?_ (fun _ _ h => h)
        intro worklog w' h
        split
        · next hne =>
            obtain ⟨-, hok, herr⟩ : JustCreated id I e worklog w' :=
              h.resolve_right fun h => hne h.1
            refine (Working.leads_set_save (e.withWorklog (some worklog))).mpr ?_
            cases hsave : w'.store.saveEntry id (e.withWorklog (some worklog)) with
            | ok s => exact hok s hsave
            | error err => exact herr err hsave
        · next heq =>
            have heq' : e.worklog = some worklog := by simpa using heq
            rcases h with ⟨hsame, -⟩ | ⟨-, hI'⟩
            · exact hsame heq'
            · exact hI'
      · intro token err remote
        exact bears.connect remote hI
      · intro err
        exact hI

end Sync

end Timesheet
