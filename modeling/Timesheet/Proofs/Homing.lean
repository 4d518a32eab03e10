import Timesheet.Proofs.Issuers

/-!
Calls that let identifiers of work-logs stay with the ticket systems that issued them. A call that
changes an entry is steady when, once the ticket is settled, the entry is at home with the work-log
that it had, or has moved to another ticket and nothing failed until then. Steady calls keep a world
faithful.
-/
namespace Timesheet

variable {σ : Type}

/-- Every request that named a work-log went to a ticket system that had issued the identifier, and
entries and pending deletions are such that the next requests will. -/
def World.Faithful (w : World σ) : Prop := Placed w.store w.journal ∧ Addressed w.journal

/-- The entry `r.2.1`, which is stored under `r.1` and was `r.2.2` before, is at home when its
ticket is settled. Only after a success may it have moved instead. -/
def Homes (tracker : Tracker σ) (r : EntryId × TimeEntry × Option TimeEntry) (w : World σ) :
    Prop :=
  ∀ p ∈ r.2.2, (Sync.settle tracker r.1).Leads
    (fun _ e w' => Sync.movedToOtherTicket e p = true ∨ e.AtHome w'.store w'.journal)
    (fun _ e w' => e.AtHome w'.store w'.journal) r.2.1 w

/-- A call that changes an entry is steady when it leaves the entry at home. Any other call is. -/
def Call.Steady (c : Call σ) (w : World σ) : Prop :=
  match c.action with
  | .save (some id) input =>
    (Sync.accept c.user (some id) input).Leads (Homes c.tracker) (fun _ _ => True) w
  | _ => True

namespace Sync

variable {tracker : Tracker σ} {user : UserId} {id : EntryId} {e p : TimeEntry} {w : World σ}
  {s : Store} {worklog : Option String} {c : Connection}

/-- All is as it should be but for the entry `id`. -/
def RestFaithful (id : EntryId) (w : World σ) : Prop :=
  Placed (w.store.eraseEntry id) w.journal ∧ Addressed w.journal

/-- What is stored under `id` is at home. -/
def RowAtHome (id : EntryId) (w : World σ) : Prop :=
  ∀ row, (id, row) ∈ w.store.entries.rows → row.AtHome w.store w.journal

theorem RestFaithful.note {x : Exchange} (h : RestFaithful id w) (remote : σ)
    (hx : ∀ id, x.request.worklog? = some id → Issued w.journal x.connection.id id) :
    RestFaithful id (w.note x remote) := ⟨h.1.append [x], addressed_append.mpr ⟨h.2, hx⟩⟩

theorem RestFaithful.noteUnnamed {x : Exchange} (h : RestFaithful id w) (remote : σ)
    (hx : x.request.worklog? = none) : RestFaithful id (w.note x remote) :=
  ⟨h.1.append [x], h.2.note hx⟩

theorem RestFaithful.forget (h : RestFaithful id w) (stale : StaleId) :
    RestFaithful id (w.put (w.store.forgetStale stale)) := ⟨h.1.forget stale, h.2⟩

theorem RestFaithful.saveEntry (h : RestFaithful id w) (hs : w.store.saveEntry id e = .ok s) :
    RestFaithful id (w.put s) := by
  refine ⟨?_, h.2⟩
  rw [World.put_store, Store.saveEntry_erase hs]
  exact h.1

theorem RestFaithful.join (h : RestFaithful id w) (hrow : RowAtHome id w) : w.Faithful :=
  ⟨h.1.join hrow, h.2⟩

theorem RowAtHome.note (h : RowAtHome id w) (x : Exchange) (remote : σ) :
    RowAtHome id (w.note x remote) := fun row hrow => (h row hrow).append [x]

theorem rowAtHome_of_saveEntry (hs : w.store.saveEntry id e = .ok s)
    (hhome : e.AtHome w.store w.journal) : RowAtHome id (w.put s) := by
  intro row hrow
  refine ((Store.saveEntry_sameCatalog hs).atHome_iff row).mpr ?_
  rw [World.put_store, Store.saveEntry_ok hs] at hrow
  obtain ⟨a, -, hrow⟩ := (w.store.entries.mem_modify).mp hrow
  obtain rfl : row = e.stored := by simpa using hrow
  exact hhome

theorem rowAtHome_of_inStep (h : InStep id e w.store) (hhome : e.AtHome w.store w.journal) :
    RowAtHome id w := by
  intro row hrow
  obtain rfl : row = e.stored := congrArg Prod.snd (w.store.entries.eq_of_mem hrow h.row rfl)
  exact hhome

theorem worklog?_of_looksUp {r : Request} (h : r.LooksUp) : r.worklog? = none := by
  cases r <;> first | rfl | exact h.elim

theorem RestFaithful.noteDeletion {stale : StaleId} {d : StaleWorklog}
    {reply : Except TrackerError Unit} (h : RestFaithful id w) (remote : σ)
    (hd : (stale, d) ∈ w.store.pendingOf user) (hc : c.id = d.system) :
    RestFaithful id (w.note ⟨c, .deleteWorklog d.ticket d.worklog, reply, w.store⟩ remote) := by
  refine h.note remote fun _ hid => ?_
  cases hid
  rw [hc]
  exact h.1.stale _ (Store.mem_pendingOf.mp hd).1

theorem restFaithful_bearsRetry : BearsRetry user (RestFaithful (σ := σ) id) where
  connect remote h := h.noteUnnamed remote rfl
  refused remote h hd hc _ := h.noteDeletion remote hd hc
  confirmed remote h hd hc _ := (h.noteDeletion remote hd hc).forget _
  unreachable h _ _ := h.forget _

theorem restFaithful_bearsSettling :
    BearsSettling id fun _ => RestFaithful (σ := σ) id where
  retry _ := restFaithful_bearsRetry
  lookUp remote h hx _ _ := h.noteUnnamed remote (worklog?_of_looksUp hx)
  retitle _ _ h hs := h.saveEntry hs
  retitleFails _ _ h _ := h

theorem atHome_bearsRetry :
    BearsRetry user fun w : World σ => p.AtHome w.store w.journal where
  connect _ h := h.append _
  refused _ h _ _ _ := h.append _
  confirmed _ h _ _ _ := h.append _
  unreachable h _ _ := h

theorem atHome_bearsSettling :
    BearsSettling id fun _ (w : World σ) => p.AtHome w.store w.journal where
  retry _ := atHome_bearsRetry
  lookUp _ h _ _ _ := h.append _
  retitle _ _ h hs := ((Store.saveEntry_sameCatalog hs).atHome_iff p).mpr h
  retitleFails _ _ h _ := h

theorem inStep_bearsRetry : BearsRetry user fun w : World σ => InStep id e w.store where
  connect _ h := h
  refused _ h _ _ _ := h
  confirmed _ h _ _ _ := h.onlyStale (Store.onlyStale_forget _)
  unreachable h _ _ := h.onlyStale (Store.onlyStale_forget _)

theorem inStep_bearsSettling :
    BearsSettling id fun e (w : World σ) => InStep id e w.store where
  retry _ := inStep_bearsRetry
  lookUp _ h _ _ _ := h
  retitle _ _ h hs := (h.saved (by rfl) hs).1
  retitleFails _ _ h hs := absurd hs (h.not_refused rfl)

section InStep
variable {P : TimeEntry → Store → Prop} (catalog : ∀ {e s s'}, P e s → s.SameCatalog s' → P e s')
  (anyWorklog : ∀ {e s} worklog, P e s → P (e.withWorklog worklog) s)
include catalog anyWorklog

theorem inStep_bearsLeaving :
    BearsLeaving (σ := σ) id p (fun e w => InStep id e w.store ∧ P e w.store)
      (fun e w => InStep id e w.store ∧ P e w.store)
      (fun e w => InStep id e w.store ∧ P e w.store) where
  stays h _ := h
  skipped h _ _ := h
  recorded h _ _ _ _ hs :=
    ⟨h.1.onlyStale (Store.recordStale_onlyStale hs),
      catalog h.2 (Store.recordStale_onlyStale hs).sameCatalog⟩
  refused h _ _ _ _ _ := h
  retry _ := inStep_bearsRetry.and
    { connect := fun _ h => h
      refused := fun _ h _ _ _ => h
      confirmed := fun _ h _ _ _ => catalog h (Store.onlyStale_forget _).sameCatalog
      unreachable := fun h _ _ => catalog h (Store.onlyStale_forget _).sameCatalog }
  cleared h hs :=
    ⟨(h.1.saved (by rfl) hs).1, anyWorklog none (catalog h.2 (Store.saveEntry_sameCatalog hs))⟩
  uncleared h hs := absurd hs (h.1.not_refused rfl)
  none h _ := h

theorem inStep_bearsBooking :
    BearsBooking (σ := σ) id fun e w => InStep id e w.store ∧ P e w.store where
  connect _ h := h
  update _ h _ _ _ _ := h
  createFails _ h _ := h
  create _ h _ _ _ _ _ hs :=
    ⟨(h.1.saved (by rfl) hs).1, anyWorklog _ (catalog h.2 (Store.saveEntry_sameCatalog hs))⟩
  createSame _ h _ _ := h
  createUnsaved _ h _ hs := absurd hs (h.1.not_refused rfl)

end InStep

theorem worklog_bearsSettling :
    BearsSettling id fun e (_ : World σ) => e.worklog = worklog where
  retry _ := .const
  lookUp _ h _ _ _ := h
  retitle _ _ h _ := h
  retitleFails _ _ h _ := h

theorem new_bearsSettling :
    BearsSettling id fun e (w : World σ) => e.worklog = none ∧ RowAtHome id w where
  retry _ := .and .const
    { connect := fun remote h => h.note _ remote
      refused := fun remote h _ _ _ => h.note _ remote
      confirmed := fun remote h _ _ _ => h.note _ remote
      unreachable := fun h _ _ => h }
  lookUp remote h _ _ _ := ⟨h.1, h.2.note _ remote⟩
  retitle _ _ h hs := ⟨h.1, rowAtHome_of_saveEntry hs (Entry.atHome_of_none h.1)⟩
  retitleFails _ _ h _ := h

/-- The copy, which was `p` before, is stored as it is. It is at home unless it moved, and so is all
else. -/
def Steadying (id : EntryId) (p e : TimeEntry) (w : World σ) : Prop :=
  InStep id e w.store ∧ RestFaithful id w ∧ p.AtHome w.store w.journal ∧
    (movedToOtherTicket e p = true ∨ e.AtHome w.store w.journal)

/-- The copy is stored as it is and is at home, and so is all else. -/
def Steadied (id : EntryId) (e : TimeEntry) (w : World σ) : Prop :=
  InStep id e w.store ∧ RestFaithful id w ∧ e.AtHome w.store w.journal

theorem Steadied.faithful (h : Steadied id e w) : w.Faithful :=
  h.2.1.join (rowAtHome_of_inStep h.1 h.2.2)

theorem steadying_bearsLeaving :
    BearsLeaving id p (Steadying (σ := σ) id p)
      (fun e w => InStep id e w.store ∧ RestFaithful id w) (Steadied id) where
  stays h hstays := by
    obtain ⟨hstep, hrest, -, hmoved | hhome⟩ := h
    · simp [hstays] at hmoved
    · exact ⟨hstep, hrest, hhome⟩
  skipped h _ _ := ⟨h.1, h.2.1⟩
  recorded h _ hw _ hr hs := by
    obtain ⟨hstep, hrest, hhome, -⟩ := h
    have hissued := hhome _ hw _ (Store.routeId?_of_bookingRoute? hr).1
    refine ⟨hstep.onlyStale (Store.recordStale_onlyStale hs), ?_, hrest.2⟩
    exact hrest.1.record hissued (Store.recordStale_erase hs)
  refused h _ _ _ _ _ := ⟨h.1, h.2.1⟩
  retry _ := inStep_bearsRetry.and restFaithful_bearsRetry
  cleared h hs := ⟨(h.1.saved (by rfl) hs).1, h.2.saveEntry hs, Entry.atHome_of_none rfl⟩
  uncleared h hs := absurd hs (h.1.not_refused rfl)
  none h hnone := ⟨h.1, h.2, Entry.atHome_of_none hnone⟩

/-- The work-log that is booked was issued by the system `system`, and all is as it should be. -/
def Booked (id : EntryId) (system : SystemId) (s : Store) (worklog : String) (w : World σ) : Prop :=
  RestFaithful id w ∧ RowAtHome id w ∧ Issued w.journal system worklog ∧ w.store = s

theorem createWorklog_books {ticket : String} {content : WorklogDraft}
    (hrest : RestFaithful id w) (hrow : RowAtHome id w) :
    (send tracker c (.createWorklog ticket content)).Leads (Booked id c.id w.store)
      (fun _ => World.Faithful) w := by
  apply Leads.send
  · intro worklog remote
    exact ⟨hrest.noteUnnamed remote rfl, hrow.note _ remote, issued_created, rfl⟩
  · intro err remote
    exact (hrest.noteUnnamed remote rfl).join (hrow.note _ remote)

theorem writeWorklog_books {content : WorklogDraft} (hrest : RestFaithful id w)
    (hrow : RowAtHome id w)
    (hhome : ∀ worklog, e.worklog = some worklog → Issued w.journal c.id worklog) :
    (writeWorklog tracker c e content).Leads (Booked id c.id w.store)
      (fun _ => World.Faithful) w := by
  rw [leads_writeWorklog]
  cases hw : e.worklog with
  | none => exact createWorklog_books hrest hrow
  | some worklog =>
      dsimp only
      rw [leads_ask]
      have hissued := hhome worklog hw
      generalize (tracker c (.updateWorklog e.ticket worklog content) w.remote).2 = remote
      generalize (tracker c (.updateWorklog e.ticket worklog content) w.remote).1 = reply
      have hrest₁ : RestFaithful id
          (w.note ⟨c, .updateWorklog e.ticket worklog content, reply, w.store⟩ remote) :=
        hrest.note remote fun _ hid => by cases hid; exact hissued
      have hrow₁ := hrow.note ⟨c, .updateWorklog e.ticket worklog content, reply, w.store⟩ remote
      rcases reply with (detail | what | ⟨text, causes⟩) | _
      · exact hrest₁.join hrow₁
      · exact createWorklog_books hrest₁ hrow₁
      · exact hrest₁.join hrow₁
      · exact ⟨hrest₁, hrow₁, hissued.append _, rfl⟩

theorem book_keepsFaithful {r : Route} (hrest : RestFaithful id w) (hrow : RowAtHome id w)
    (hhome : e.AtHome w.store w.journal) (hr : w.store.bookingRoute? e.project = some r) :
    (book tracker id r).Leads (fun _ _ => World.Faithful) (fun _ _ => World.Faithful) e w := by
  have hroute : w.store.routeId? e.project = some r.id := (Store.routeId?_of_bookingRoute? hr).1
  rw [leads_book]
  split
  · exact hrest.join hrow
  · apply Leads.connect
    · intro token remote
      refine (writeWorklog_books (hrest.noteUnnamed remote rfl) (hrow.note _ remote) ?_).mono ?_
        (fun _ _ h => h)
      · intro worklog hw
        exact (hhome worklog hw r.id hroute).append _
      · rintro worklog w₂ ⟨hrest₂, hrow₂, hissued, hstore⟩
        split
        · cases hs : w₂.store.saveEntry id (e.withWorklog (some worklog)) with
          | error err => exact hrest₂.join hrow₂
          | ok s =>
              refine (hrest₂.saveEntry hs).join (rowAtHome_of_saveEntry hs ?_)
              intro worklog' hw' system hsystem
              cases hw'
              rw [hstore] at hsystem
              -- The project still leads to the system that has just been asked.
              obtain rfl : r.id = system := Option.some.inj (hroute.symm.trans hsystem)
              exact hissued
        · exact hrest₂.join hrow₂
    · intro token err remote
      exact (hrest.noteUnnamed remote rfl).join (hrow.note _ remote)
    · exact fun _ => hrest.join hrow

theorem finish_keepsFaithful (hrest : RestFaithful id w) (hrow : RowAtHome id w)
    (hhome : e.AtHome w.store w.journal) :
    ((w.store.bookingRoute? e.project).elim (pure ()) (book tracker id)).Leads
      (fun _ _ => World.Faithful) (fun _ _ => World.Faithful) e w := by
  cases hr : w.store.bookingRoute? e.project with
  | none => exact hrest.join hrow
  | some r => exact book_keepsFaithful hrest hrow hhome hr

theorem reconcile_new_keepsFaithful (hrest : RestFaithful id w) (hrow : RowAtHome id w)
    (hnone : e.worklog = none) :
    (reconcile tracker id none).Leads (fun _ _ => World.Faithful) (fun _ _ => World.Faithful)
      e w := by
  refine reconcile_stages (by simp) ((settle_keeps
    (new_bearsSettling.and restFaithful_bearsSettling) ⟨⟨hnone, hrow⟩, hrest⟩).mono
    (fun _ _ _ h => h.1) ?_) (fun _ _ _ h => h) (by simp) ?_
  · rintro err e₁ w₁ ⟨⟨⟨-, hrow₁⟩, hrest₁⟩, -⟩
    exact hrest₁.join hrow₁
  · rintro e₁ w₁ ⟨⟨hnone₁, hrow₁⟩, hrest₁⟩ _ _
    exact finish_keepsFaithful hrest₁ hrow₁ (Entry.atHome_of_none hnone₁)

theorem reconcile_edited_keepsFaithful (hstep : InStep id e w.store)
    (hrest : RestFaithful id w) (hhome : p.AtHome w.store w.journal) (huser : p.user = e.user)
    (homes : Homes tracker (id, e, some p) w) :
    (reconcile tracker id (some p)).Leads (fun _ _ => World.Faithful)
      (fun _ _ => World.Faithful) e w := by
  have hsettled := (settle_keeps (inStep_bearsSettling.and
    (restFaithful_bearsSettling.and atHome_bearsSettling)) ⟨hstep, hrest, hhome⟩).and (homes p rfl)
  refine reconcile_stages (A := Steadying id p) (B := Steadied id) ?_ (hsettled.mono ?_ ?_) nofun
    ?_ ?_
  · rintro _ ⟨⟩
    exact huser
  · rintro route e₁ w₁ ⟨⟨⟨hstep₁, hrest₁, hhome₁⟩, -⟩, hsteady⟩
    exact ⟨hstep₁, hrest₁, hhome₁, hsteady⟩
  · rintro err e₁ w₁ ⟨⟨⟨hstep₁, hrest₁, -⟩, -⟩, hhome₁⟩
    exact Steadied.faithful ⟨hstep₁, hrest₁, hhome₁⟩
  · rintro _ ⟨⟩ e₁ w₁ hsteadying hsame _
    exact (leaveTicket_keeps steadying_bearsLeaving hsteadying (huser.trans hsame.user.symm)).mono
      (fun _ _ _ h => h.1) (fun _ _ _ h => h.faithful)
  · rintro e₁ w₁ ⟨hstep₁, hrest₁, hhome₁⟩ _ _
    exact finish_keepsFaithful hrest₁ (rowAtHome_of_inStep hstep₁ hhome₁) hhome₁

theorem faithful_bearsClasses : BearsClasses (World.Faithful (σ := σ)) :=
  fun _ _ h hs => ⟨h.1.saveClass hs, h.2⟩

section Accepted
variable {input : EntryInput} {target : Option EntryId}
  {r : EntryId × TimeEntry × Option TimeEntry}

theorem Accepted.restFaithful (h : Accepted w.store user input target r s) (hw : w.Faithful) :
    RestFaithful r.1 (w.put s) := by
  refine ⟨?_, hw.2⟩
  rw [World.put_store, h.erase]
  exact hw.1.erase r.1

theorem Accepted.previous_atHome (h : Accepted w.store user input target r s) (hw : w.Faithful) :
    ∀ p ∈ r.2.2, p.AtHome s w.journal := by
  have hcatalog := h.sameCatalog
  cases h with
  | new => simp
  | edited row =>
      rintro _ ⟨⟩
      obtain ⟨stored, kind, hstored, rfl⟩ := Store.row_of_entryAt row
      exact (hcatalog.atHome_iff _).mpr (hw.1.entries _ hstored)

theorem Accepted.inStep_edited (h : Accepted w.store user input target r s) :
    ∀ p ∈ r.2.2, InStep r.1 r.2.1 s := by
  have hrow := h.row
  cases h with
  | new => simp
  | edited _ _ thawed allowed => exact fun _ _ => ⟨hrow, thawed, allowed⟩

theorem Accepted.worklog_new (h : Accepted w.store user input target r s) (hnew : r.2.2 = none) :
    r.2.1.worklog = none ∧ RowAtHome r.1 (w.put s) := by
  cases h with
  | new =>
      refine ⟨rfl, fun row hrow => ?_⟩
      rcases (w.store.entries.mem_push).mp hrow with hold | hlast
      · exact absurd hold w.store.entries.nextId_notMem
      · cases hlast
        exact Entry.atHome_of_none rfl
  | edited => cases hnew

end Accepted

theorem save_keepsFaithful {target : Option EntryId} {input : EntryInput} (h : w.Faithful)
    (homes : (accept user target input).Leads (Homes tracker) (fun _ _ => True) w) :
    (save tracker user target input).Leads (fun _ => World.Faithful) (fun _ => World.Faithful)
      w := by
  refine save_keeps ((accept_stores.and homes).mono ?_ (fun _ _ hw => hw.1 ▸ h))
    faithful_bearsClasses
  rintro ⟨id, e, previous⟩ _ ⟨⟨s, haccepted, rfl⟩, hhomes⟩
  have hrest := haccepted.restFaithful h
  rcases previous with _ | p
  · obtain ⟨hnone, hrow⟩ := haccepted.worklog_new rfl
    exact reconcile_new_keepsFaithful hrest hrow hnone
  · exact reconcile_edited_keepsFaithful (haccepted.inStep_edited p rfl) hrest
      (haccepted.previous_atHome h p rfl) (haccepted.previous_user p rfl) hhomes

theorem delete_keepsFaithful (h : w.Faithful) :
    (delete tracker user id).Leads (fun _ => World.Faithful) (fun _ => World.Faithful) w := by
  refine (delete_keeps (fun {e} hentry _ => ?_) faithful_bearsClasses).mono (fun _ _ h => h)
    (fun _ _ hw => hw ▸ h)
  obtain ⟨stored, kind, hrow, rfl⟩ := Store.row_of_entryAt hentry
  have hhome : stored.AtHome w.store w.journal := h.1.entries _ hrow
  have hrest : RestFaithful id w := ⟨h.1.erase id, h.2⟩
  refine (removeWorklog_keeps restFaithful_bearsRetry ?_ ?_ ?_).mono (fun _ _ h => h.1)
    (fun _ _ h => h.1)
  · exact fun _ => hrest
  · intro worklog r s hw _ hr hs
    have hissued := hhome worklog hw r.id (Store.routeId?_of_bookingRoute? hr).1
    exact ⟨hrest.1.record hissued (Store.recordStale_erase hs), hrest.2⟩
  · exact fun _ _ _ _ => hrest

theorem work_keepsFaithful {c : Call σ} (h : w.Faithful) (steady : c.Steady w) :
    c.work.Leads (fun _ => World.Faithful) (fun _ => World.Faithful) w := by
  refine work_keeps h (fun input w' h' => save_keepsFaithful h' ?_)
    (fun id input haction => save_keepsFaithful h ?_) (fun id _ => delete_keepsFaithful h)
  · exact accept_new.mono (fun _ _ hnone p hp => by simp [hnone] at hp) (fun _ _ _ => trivial)
  · rw [Call.Steady, haction] at steady
    exact steady

end Sync

end Timesheet
