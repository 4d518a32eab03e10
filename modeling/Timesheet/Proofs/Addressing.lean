import Timesheet.Proofs.Homing

/-!
Which runs send every request that names a work-log to the ticket system that issued the identifier:
those in which each call is steady. A call that is not steady leaves an entry astray or has sent a
request astray.
-/
namespace Timesheet

variable {σ : Type}

/-- An entry is not at home, or a request went to a ticket system that had not issued the identifier
in it. -/
def World.Strayed (w : World σ) : Prop :=
  (∃ r ∈ w.store.entries.rows, ¬ r.2.AtHome w.store w.journal) ∨ ¬ Addressed w.journal

theorem World.Strayed.not_faithful {w : World σ} (h : w.Strayed) : ¬ w.Faithful := by
  rintro ⟨hplaced, haddressed⟩
  rcases h with ⟨r, hr, hstray⟩ | hmisdirected
  · exact hstray (hplaced.entries r hr)
  · exact hmisdirected haddressed

namespace Sync

variable {tracker : Tracker σ} {user : UserId} {id : EntryId} {e p : TimeEntry} {w : World σ}

theorem strayed_of_inStep (hstep : InStep id e w.store) (hstray : ¬ e.AtHome w.store w.journal) :
    w.Strayed := .inl ⟨_, hstep.row, hstray⟩

theorem strayed_bearsClasses : BearsClasses (World.Strayed (σ := σ)) := by
  rintro w s id kind (⟨r, hr, hstray⟩ | hmisdirected) hs
  · have hcatalog := Store.saveClass_sameCatalog hs
    rw [Store.saveClass_ok hs] at hcatalog ⊢
    refine .inl ⟨(r.1, if r.1 = id then r.2.withKind kind.code else r.2),
      (w.store.entries.mem_modify).mpr ⟨r.2, hr, rfl⟩, fun hhome => hstray ?_⟩
    have hhome := (hcatalog.atHome_iff _).mp hhome
    dsimp only at hhome
    split at hhome <;> exact hhome
  · exact .inr hmisdirected

theorem writeWorklog_misdirects {c : Connection} {content : WorklogDraft} {worklog : String}
    (hw : e.worklog = some worklog) (hforeign : ¬ Issued w.journal c.id worklog) :
    (writeWorklog tracker c e content).Leads (fun _ w' => ¬ Addressed w'.journal)
      (fun _ w' => ¬ Addressed w'.journal) w := by
  rw [leads_writeWorklog, hw]
  dsimp only
  rw [leads_ask]
  generalize (tracker c (.updateWorklog e.ticket worklog content) w.remote).2 = remote
  generalize (tracker c (.updateWorklog e.ticket worklog content) w.remote).1 = reply
  have hupdated : ¬ Addressed
      (w.note ⟨c, .updateWorklog e.ticket worklog content, reply, w.store⟩ remote).journal :=
    fun haddressed => hforeign ((addressed_append.mp haddressed).2 worklog rfl)
  rcases reply with (detail | what | ⟨text, causes⟩) | _
  · exact hupdated
  · apply Leads.send
    · exact fun _ _ haddressed => hupdated haddressed.of_append
    · exact fun _ _ haddressed => hupdated haddressed.of_append
  · exact hupdated
  · exact hupdated

/-- Booking an entry that is not at home sends a request astray, unless it fails before. -/
theorem book_strays {r : Route} (hstep : InStep id e w.store)
    (hstray : ¬ e.AtHome w.store w.journal) (hr : w.store.bookingRoute? e.project = some r) :
    (book tracker id r).Leads (fun _ _ => World.Strayed) (fun _ _ => World.Strayed) e w := by
  -- Connecting issues no identifier, so one that is foreign stays so.
  have hconnected : ∀ {x : Exchange}, x.created? = none →
      ¬ e.AtHome w.store (w.journal ++ [x]) := by
    intro x hx hhome
    exact hstray fun worklog hw system hsystem => (hhome worklog hw system hsystem).of_append hx
  rw [leads_book]
  split
  · exact strayed_of_inStep hstep hstray
  · apply Leads.connect
    · intro token remote
      obtain ⟨worklog, hw, system, hsystem, hforeign⟩ : ∃ worklog, e.worklog = some worklog ∧
          ∃ system, w.store.routeId? e.project = some system ∧
            ¬ Issued (w.journal ++ [⟨⟨r.id, r.system, token⟩, .connect, .ok (), w.store⟩]) system
              worklog := by
        simpa [Entry.AtHome] using
          hconnected (x := ⟨⟨r.id, r.system, token⟩, .connect, .ok (), w.store⟩) rfl
      rw [(Store.routeId?_of_bookingRoute? hr).1, Option.some.injEq] at hsystem
      subst hsystem
      refine (writeWorklog_misdirects hw hforeign).mono ?_ (fun _ _ h => .inr h)
      intro worklog' w₂ hmisdirected
      split
      · cases w₂.store.saveEntry id (e.withWorklog (some worklog')) with
        | error err => exact .inr hmisdirected
        | ok s => exact .inr hmisdirected
      · exact .inr hmisdirected
    · exact fun token err remote => strayed_of_inStep hstep (hconnected rfl)
    · exact fun _ => strayed_of_inStep hstep hstray

theorem reconcile_strays (hstep : InStep id e w.store) (huser : p.user = e.user)
    (hno : ¬ Homes tracker (id, e, some p) w) :
    (reconcile tracker id (some p)).Leads (fun _ _ => World.Strayed) (fun _ _ => World.Strayed)
      e w := by
  have hlost : ¬ (settle tracker id).Leads
      (fun _ e w' => movedToOtherTicket e p = true ∨ e.AtHome w'.store w'.journal)
      (fun _ e w' => e.AtHome w'.store w'.journal) e w := by
    simpa [Homes] using hno
  have hsettled := (settle_keeps inStep_bearsSettling hstep).and (Working.leads_not.mp hlost)
  refine reconcile_stages
    (A := fun e w => InStep id e w.store ∧
      ¬ movedToOtherTicket e p = true ∧ ¬ e.AtHome w.store w.journal)
    (B := fun e w => InStep id e w.store ∧ ¬ e.AtHome w.store w.journal)
    ?_ (hsettled.mono ?_ ?_) nofun ?_ ?_
  · rintro _ ⟨⟩
    exact huser
  · rintro route e₁ w₁ ⟨⟨hstep₁, -⟩, hstrays⟩
    exact ⟨hstep₁, not_or.mp hstrays⟩
  · rintro err e₁ w₁ ⟨⟨hstep₁, -⟩, hstray⟩
    exact strayed_of_inStep hstep₁ hstray
  · rintro _ ⟨⟩ e₁ w₁ ⟨hstep₁, hstays, hstray⟩ _ _
    -- The move is not noticed, so the entry takes its work-log along.
    rw [leads_leaveTicket, if_neg hstays]
    exact ⟨hstep₁, hstray⟩
  · rintro e₁ w₁ ⟨hstep₁, hstray⟩ _ _
    cases hr : w₁.store.bookingRoute? e₁.project with
    | none => exact strayed_of_inStep hstep₁ hstray
    | some r => exact book_strays hstep₁ hstray hr

theorem work_strays {c : Call σ} (unsteady : ¬ c.Steady w) :
    c.work.Leads (fun _ => World.Strayed) (fun _ => World.Strayed) w := by
  unfold Call.Steady at unsteady
  split at unsteady
  · next id input haction =>
      unfold Call.work
      rw [haction]
      refine leads_discard.mpr (save_keeps ?_ strayed_bearsClasses)
      refine (accept_stores.and (leads_not.mp unsteady)).mono ?_
        (fun _ _ hno => absurd trivial hno.2)
      rintro ⟨id, e, previous⟩ _ ⟨⟨s, haccepted, rfl⟩, hno⟩
      rcases previous with _ | p
      · exact absurd (fun p hp => by cases hp) hno
      · exact reconcile_strays (haccepted.inStep_edited p rfl) (haccepted.previous_user p rfl) hno
  · exact absurd trivial unsteady

end Sync

theorem faithful_next_iff {c : Call σ} {w : World σ} (faithful : w.Faithful) :
    (w.next (.call c)).Faithful ↔ c.Steady w := by
  constructor
  · intro hnext
    by_contra unsteady
    exact (Sync.work_strays unsteady).always.not_faithful hnext
  · intro steady
    exact (Sync.work_keepsFaithful faithful steady).always

/-- There are neither entries nor pending deletions, and nothing was sent. -/
structure World.Unused (w : World σ) : Prop where
  entries : w.store.entries.rows = []
  stale : w.store.stale.rows = []
  journal : w.journal = []

theorem World.Unused.faithful {w : World σ} (h : w.Unused) : w.Faithful := by
  refine ⟨⟨?_, ?_⟩, ?_⟩
  · simp [h.entries]
  · simp [h.stale]
  · intro before x later hsplit
    simp [h.journal] at hsplit

/-- From an unused world, after each call of a run every request that named a work-log has gone to
the ticket system that issued the identifier, and so will the next requests, exactly when each call
of the run is steady. -/
theorem faithful_iff_steady {w : World σ} (unused : w.Unused) (calls : List (Call σ)) :
    (∀ done, done <+: calls → (w.after (done.map .call)).Faithful) ↔
      EachCall Call.Steady w calls :=
  eachCall_iff faithful_next_iff unused.faithful calls

/-- The office with a second ticket system, to which the user has access too, and with a second
project, which books there. -/
def twinOffice : World InMemory :=
  { journal := []
    remote := InMemory.empty
    store :=
      { office with
        systems := office.systems.push ⟨"twin", .jira, "", true⟩
        grants := office.grants ++ [⟨⟨1⟩, ⟨2⟩, ⟨"token", ""⟩⟩]
        projects := office.projects.push { Project.blank "twin" with system := some ⟨2⟩ } } }

def saveInProject (id : Option EntryId) (project : ProjectId) (ticket : String) :
    Call InMemory where
  tracker := InMemory.tracker
  user := ⟨1⟩
  action := .save id
    { project, customer := none, activity := none, ticket, description := ""
      day := ⟨2026, .july, 8, by decide, by decide, by decide, by decide⟩
      start := .midnight, finish := .midnight }

/-- An entry is created and then given the other project and another ticket, or only the other
project. -/
def changeOfProject (ticket : String) : List (Call InMemory) :=
  [saveInProject none ⟨1⟩ "A-1", saveInProject (some ⟨1⟩) ⟨2⟩ ticket]

theorem twinOffice_unused : twinOffice.Unused := ⟨rfl, rfl, rfl⟩

theorem faithful_iff_steady_changeOfProject :
    (∀ done, done <+: changeOfProject "A-2" →
      (twinOffice.after (done.map .call)).Faithful) ↔
      EachCall Call.Steady twinOffice (changeOfProject "A-2") :=
  faithful_iff_steady twinOffice_unused (changeOfProject "A-2")

/-- When the ticket stays, the work-log is updated on the ticket system of the new project, which
never issued its identifier. -/
theorem changeOfProject_misdirects :
    twinOffice.Unused ∧
      FreshIds (twinOffice.after ((changeOfProject "A-1").map .call)).journal ∧
      ¬ Addressed (twinOffice.after ((changeOfProject "A-1").map .call)).journal :=
  ⟨twinOffice_unused, by decide +kernel, by decide +kernel⟩

end Timesheet
