import Timesheet.Proofs.Homing
import Timesheet.Proofs.Passes

/-!
What a save sends is a course: each stage of it adds its part to the journal, whether it succeeds or
stops halfway.
-/
namespace Timesheet

/-- The entry that `target` names had the work-log `g` before, in `s`. Afterwards, in `s'`, it is on
another ticket, and not because the internal tracker gave it its own. -/
def Vacated (s s' : Store) (target : Option EntryId) (g : Worklog) : Prop :=
  ∃ id p e, target = some id ∧ s.entryAt id = .ok (some p) ∧ p.Has s g ∧
    s'.entryAt id = .ok (some e) ∧ e.ticket ≠ p.ticket ∧ e.typed ≠ some e.ticket

variable {σ : Type} {w : World σ} {s s' : Store}

/-- A deletion that is recorded while none is pending is the only one, if it is not another
user's. -/
theorem Store.pendingOf_recordStale {d : StaleWorklog} (h : s.recordStale d = .ok s')
    (hp : s.pendingOf d.user = []) :
    s'.pendingOf d.user = [] ∨ ∃ id, s'.pendingOf d.user = [(id, d)] := by
  rcases recordStale_ok h with ⟨rfl, -⟩ | ⟨rfl, -⟩
  · exact .inl hp
  · refine .inr ⟨s.stale.nextId, ?_⟩
    simp only [pendingOf, Table.filter] at hp
    simp [pendingOf, Table.filter, Table.push, hp]

theorem Store.entryAt_saveClass {id changed : EntryId} {e : TimeEntry} {kind : EntryClass}
    (h : s.entryAt id = .ok (some e)) (hs : s.saveClass changed kind = .ok s') :
    ∃ kind', s'.entryAt id = .ok (some (e.withKind kind')) := by
  obtain ⟨row, hrow, hread⟩ := entryAt_eq_some_iff.mp h
  obtain ⟨kind₀, rfl⟩ := Entry.read_ok hread
  rw [saveClass_ok hs]
  by_cases hid : id = changed
  · refine ⟨kind, entryAt_eq_some_iff.mpr ⟨row.withKind kind.code, ?_, ?_⟩⟩
    · exact (s.entries.mem_modify).mpr ⟨row, hrow, by simp [hid]⟩
    · exact (row.withKind kind).read_stored
  · refine ⟨kind₀, entryAt_eq_some_iff.mpr ⟨row, ?_, hread⟩⟩
    exact (s.entries.mem_modify).mpr ⟨row, hrow, by simp [hid]⟩

theorem InStep.entryAt {id : EntryId} {e : TimeEntry} (h : InStep id e s) :
    s.entryAt id = .ok (some e) := Store.entryAt_eq_some_iff.mpr ⟨_, h.row, e.read_stored⟩

variable {tracker : Tracker σ} {user : UserId} {id : EntryId} {e p : TimeEntry}

theorem Tried.removal {d : StaleWorklog} {sent : List Exchange} {failure : Option SyncError}
    (h : Tried tracker s d sent failure) : Removal s d sent := by
  cases h with
  | unreachable | noToken => exact .inl rfl
  | unconnected target admitted connect seen =>
      exact .inr ⟨_, target, admitted, .refused _ seen⟩
  | answered target admitted connect delete seen =>
      exact .inr ⟨_, target, admitted, .made seen (.deleted _ seen)⟩

theorem deletions_of_trials {trials : List Trial} (h : ∀ t ∈ trials, t.Fair tracker s) :
    Deletions s ((trials.map Trial.row).map (·.2)) (trials.flatMap Trial.sent) := by
  induction trials with
  | nil => exact .nil
  | cons t rest ih =>
      obtain ⟨hfirst, hrest⟩ := List.forall_mem_cons.mp h
      exact .cons (Tried.removal hfirst) (ih hrest)

theorem Pass.retries {trials : List Trial} {journal later : List Exchange}
    (h : Pass tracker s user trials journal later s') : Adds (Retrying s user) journal later := by
  refine ⟨_, h.sent, ?_⟩
  unfold Retrying
  rw [← h.rows]
  exact deletions_of_trials h.fair

namespace Sync

theorem connect_admitted {system : SystemId} {target : TicketSystem}
    {Q : Connection → World σ → Prop} {E : SyncError → World σ → Prop}
    (hsystem : w.store.system? system = some target)
    (made : ∀ c remote, c.id = system → w.store.Admits user c →
      Q c (w.note ⟨c, .connect, .ok (), w.store⟩ remote))
    (refused : ∀ c err remote, c.id = system → w.store.Admits user c →
      E (.tracker err) (w.note ⟨c, .connect, .error err, w.store⟩ remote))
    (noToken : ∀ err, E err w) : (connect tracker user system target).Leads Q E w := by
  rw [leads_connect]
  cases htoken : w.store.token? user system with
  | none => exact noToken _
  | some token =>
      have hadmits : w.store.Admits user ⟨system, target, token⟩ := ⟨hsystem, htoken⟩
      exact Leads.send (fun _ remote => made _ remote rfl hadmits)
        (fun err remote => refused _ err remote rfl hadmits)

theorem retryPending_adds :
    (retryPending tracker user).Leads
      (fun _ w' => Adds (Retrying w.store user) w.journal w'.journal ∧
        w.store.SameCatalog w'.store)
      (fun _ w' => Adds (Retrying w.store user) w.journal w'.journal ∧
        w.store.SameCatalog w'.store) w :=
  retryPending_of_pass fun _ _ hpass => ⟨hpass.retries, hpass.onlyStale.sameCatalog⟩

theorem removeWorklog_adds :
    (removeWorklog tracker p).Leads (fun _ w' => Adds (Clearing w.store p) w.journal w'.journal)
      (fun _ w' => Adds (Clearing w.store p) w.journal w'.journal) w := by
  have hnothing : Adds (Clearing w.store p) w.journal w.journal :=
    .nothing ⟨[], .nil, by simp, by simp⟩
  rw [leads_removeWorklog]
  rcases hworklog : p.worklog with _ | worklog
  · exact hnothing
  dsimp only
  split
  · exact hnothing
  rcases w.store.project? p.project with _ | project
  · exact hnothing
  dsimp only
  rcases Route.ofProject w.store project with err | route
  · exact hnothing
  dsimp only
  rcases hbooking : w.store.bookingRoute? p.project with _ | r
  · exact hnothing
  dsimp only
  rcases hrecord : w.store.recordStale ⟨p.user, r.id, p.ticket, worklog⟩ with err | s
  · exact hnothing
  have hcatalog := (Store.recordStale_onlyStale hrecord).sameCatalog
  have hcleared : ∀ sent, Retrying s p.user sent →
      Clearing w.store p sent := by
    intro sent hsent
    refine ⟨_, hsent.sameCatalog hcatalog, ?_, fun hp => ?_⟩
    · intro d hd
      obtain ⟨row, hrow, rfl⟩ := List.mem_map.mp hd
      exact (Store.mem_pendingOf.mp hrow).2
    · have hhas : p.Has w.store ⟨r.id, p.ticket, worklog⟩ :=
        ⟨hworklog, rfl, (Store.routeId?_of_bookingRoute? hbooking).1⟩
      rcases Store.pendingOf_recordStale hrecord hp with hnone | ⟨stale, hone⟩
      · have hnone : s.pendingOf p.user = [] := hnone
        simp [hnone]
      · have hone : s.pendingOf p.user = [(stale, ⟨p.user, r.id, p.ticket, worklog⟩)] := hone
        refine ⟨by simp [hone], fun d hd => ?_⟩
        rw [hone] at hd
        obtain rfl := List.mem_singleton.mp hd
        exact hhas
  exact retryPending_adds.mono (fun _ _ h => h.1.mono hcleared) (fun _ _ h => h.1.mono hcleared)

theorem internalIssue_adds {c : Connection} {key : String} {draft : IssueDraft} :
    (internalIssue tracker c key draft).Leads
      (fun _ w' => Adds (LookingUp c) w.journal w'.journal ∧ w'.store = w.store)
      (fun _ w' => Adds (LookingUp c) w.journal w'.journal ∧ w'.store = w.store) w := by
  unfold internalIssue
  rw [leads_bind]
  apply Leads.send
  · intro found remote
    cases issueOf draft.summary found with
    | some issue => exact ⟨.one (.searched _ _ _ (.ok found) w.store), rfl⟩
    | none =>
        apply Leads.send
        · intro answer remote'
          exact ⟨.two (.opened _ _ _ found w.store _ _ (.ok answer) w.store), rfl⟩
        · intro err remote'
          exact ⟨.two (.opened _ _ _ found w.store _ _ (.error err) w.store), rfl⟩
  · intro err remote
    exact ⟨.one (.searched _ _ _ (.error err) w.store), rfl⟩

theorem resolveInternal_adds {r : Route} {key : String} {project : ProjectId}
    (hr : w.store.bookingRoute? project = some r) :
    (resolveInternal tracker id r key).Leads
      (fun _ _ w' => Adds (SentAlong w.store e.user project LookingUp) w.journal w'.journal)
      (fun _ _ w' => Adds (SentAlong w.store e.user project LookingUp) w.journal w'.journal)
      e w := by
  rw [leads_resolveInternal]
  split
  · exact .nothing (.inl rfl)
  refine connect_admitted (Store.routeId?_of_bookingRoute? hr).2.1 ?_ ?_ ?_
  · intro c remote hc hadmits
    have hsaid : ∀ {w' : World σ},
        Adds (LookingUp c) (w.journal ++ [⟨c, .connect, .ok (), w.store⟩]) w'.journal →
        Adds (SentAlong w.store e.user project LookingUp) w.journal w'.journal := by
      exact fun h => h.after fun sent hsent =>
        .inr ⟨r, hr, .inr ⟨c, hc, hadmits, .made w.store hsent⟩⟩
    refine internalIssue_adds.mono ?_ (fun _ _ h => hsaid h.1)
    rintro ticket w₂ ⟨hlooked, -⟩
    cases w₂.store.saveEntry id (e.retitled (identifier e) ticket) with
    | error err => exact hsaid hlooked
    | ok s => exact hsaid hlooked
  · intro c err remote hc hadmits
    exact .one (.inr ⟨r, hr, .inr ⟨c, hc, hadmits, .refused err w.store⟩⟩)
  · exact fun _ => .nothing (.inl rfl)

theorem settle_adds :
    (settle tracker id).Leads
      (fun _ _ w' => Adds (Opening w.store e.user e.project) w.journal w'.journal)
      (fun _ _ w' => Adds (Opening w.store e.user e.project) w.journal w'.journal) e w := by
  have hretried : ∀ sent, Retrying w.store e.user sent →
      Opening w.store e.user e.project sent :=
    fun sent hsent => ⟨sent, [], by simp, hsent, .inl rfl⟩
  refine settle_stages
    (retryPending_adds.mono (fun _ _ h => h) (fun _ _ h => h.1.mono hretried))
    (fun h _ => h.1.mono hretried) (fun h _ _ _ => h.1.mono hretried) ?_
  intro w₁ p route r key ⟨hfirst, hs₁⟩ _ _ hr _
  have hlooked : ∀ {later}, Adds (SentAlong w₁.store e.user e.project LookingUp)
        w₁.journal later → Adds (Opening w.store e.user e.project) w.journal later :=
    fun h => hfirst.append h fun retried looked hdeleted hsent =>
      ⟨retried, looked, rfl, hdeleted, hsent.sameCatalog hs₁⟩
  exact (resolveInternal_adds hr).mono (fun _ _ _ => hlooked) (fun _ _ _ => hlooked)

theorem cleared_adds {R : TimeEntry → World σ → Prop} {F : SyncError → TimeEntry → World σ → Prop}
    (hR : ∀ e' w', w'.journal = w.journal → R e' w')
    (hF : ∀ err e' w', w'.journal = w.journal → F err e' w') : Cleared id e R F w := by
  unfold Cleared
  split
  · cases w.store.saveEntry id (e.withWorklog none) with
    | error err => exact hF _ _ _ rfl
    | ok s => exact hR _ _ rfl
  · exact hR _ _ rfl

theorem leaveTicket_adds (hmoved : movedToOtherTicket e p = true) :
    (leaveTicket tracker id p).Leads (fun _ _ w' => Adds (Clearing w.store p) w.journal w'.journal)
      (fun _ _ w' => Adds (Clearing w.store p) w.journal w'.journal) e w := by
  rw [leads_leaveTicket, if_pos hmoved]
  refine removeWorklog_adds.mono ?_ ?_
  · exact fun _ w₁ h => cleared_adds (fun _ _ hj => hj ▸ h) (fun _ _ _ hj => hj ▸ h)
  · exact fun _ w₁ h => cleared_adds (fun _ _ hj => hj ▸ h) (fun _ _ _ hj => hj ▸ h)

theorem writeWorklog_adds {c : Connection} {content : WorklogDraft} :
    (writeWorklog tracker c e content).Leads
      (fun _ w' => Adds (Writing c) w.journal w'.journal)
      (fun _ w' => Adds (Writing c) w.journal w'.journal) w := by
  rw [leads_writeWorklog]
  cases e.worklog with
  | none =>
      apply Leads.send
      · exact fun worklog remote => .one (.created _ _ (.ok worklog) w.store)
      · exact fun err remote => .one (.created _ _ (.error err) w.store)
  | some worklog =>
      dsimp only
      rw [leads_ask]
      generalize (tracker c (.updateWorklog e.ticket worklog content) w.remote).2 = remote
      generalize (tracker c (.updateWorklog e.ticket worklog content) w.remote).1 = reply
      rcases reply with (detail | what | ⟨text, causes⟩) | _
      · exact .one (.updated _ _ _ _ w.store)
      · apply Leads.send
        · exact fun worklog' remote' => .two (.recreated _ _ _ _ w.store (.ok worklog') w.store)
        · exact fun err remote' => .two (.recreated _ _ _ _ w.store (.error err) w.store)
      · exact .one (.updated _ _ _ _ w.store)
      · exact .one (.updated _ _ _ (.ok ()) w.store)

theorem book_adds {r : Route} (hr : w.store.bookingRoute? e.project = some r) :
    (book tracker id r).Leads
      (fun _ _ w' => Adds (SentAlong w.store e.user e.project Writing) w.journal w'.journal)
      (fun _ _ w' => Adds (SentAlong w.store e.user e.project Writing) w.journal w'.journal)
      e w := by
  rw [leads_book]
  split
  · exact .nothing (.inl rfl)
  refine connect_admitted (Store.routeId?_of_bookingRoute? hr).2.1 ?_ ?_ ?_
  · intro c remote hc hadmits
    have hsaid : ∀ {later}, Adds (Writing c) (w.journal ++ [⟨c, .connect, .ok (), w.store⟩]) later →
        Adds (SentAlong w.store e.user e.project Writing) w.journal later :=
      fun h => h.after fun sent hsent =>
        .inr ⟨r, hr, .inr ⟨c, hc, hadmits, .made w.store hsent⟩⟩
    refine writeWorklog_adds.mono ?_ (fun _ _ h => hsaid h)
    intro worklog w₂ hwritten
    split
    · cases w₂.store.saveEntry id (e.withWorklog (some worklog)) with
      | error err => exact hsaid hwritten
      | ok s => exact hsaid hwritten
    · exact hsaid hwritten
  · intro c err remote hc hadmits
    exact .one (.inr ⟨r, hr, .inr ⟨c, hc, hadmits, .refused err w.store⟩⟩)
  · exact fun _ => .nothing (.inl rfl)

theorem finish_adds :
    ((w.store.bookingRoute? e.project).elim (pure ()) (book tracker id)).Leads
      (fun _ _ w' => Adds (SentAlong w.store e.user e.project Writing) w.journal w'.journal)
      (fun _ _ w' => Adds (SentAlong w.store e.user e.project Writing) w.journal w'.journal)
      e w := by
  cases hr : w.store.bookingRoute? e.project with
  | none => exact .nothing (.inl rfl)
  | some r => exact book_adds hr

theorem course_of_written {e' : TimeEntry} {w' : World σ} {left : List StaleWorklog}
    {later : List Exchange}
    (h : Adds (Parting w.store e.user e.project left) w.journal w'.journal)
    (hsame : SameWork e w e' w')
    (h' : Adds (SentAlong w'.store e'.user e'.project Writing) w'.journal later) :
    Adds (Course w.store e.user e.project left) w.journal later := by
  refine h.append h' fun parting written hparting hwritten => ?_
  rw [hsame.user, hsame.project] at hwritten
  exact ⟨parting, written, rfl, hparting, hwritten.sameCatalog hsame.catalog⟩

theorem reconcile_new_adds :
    (reconcile tracker id none).Leads
      (fun _ _ w' => Adds (Course w.store e.user e.project []) w.journal w'.journal)
      (fun _ _ w' => Adds (Course w.store e.user e.project []) w.journal w'.journal) e w := by
  refine reconcile_stages
    (A := fun _ w' => Adds (Parting w.store e.user e.project []) w.journal w'.journal)
    (by simp) (settle_adds.mono (fun _ _ _ h => h.mono fun _ hsent => hsent.parting)
      (fun _ _ _ h => h.mono fun _ hsent => hsent.parting.course)) (fun _ _ _ h => h) (by simp) ?_
  intro e₁ w₁ hparting hsame _
  exact finish_adds.mono (fun _ _ _ => course_of_written hparting hsame)
    (fun _ _ _ => course_of_written hparting hsame)

/-- At most one deletion is due to the entry's leaving a ticket, that of the work-log that it had
there, and then the stored entry is on another ticket. -/
def LeftBy (s : Store) (id : EntryId) (p : TimeEntry) (left : List StaleWorklog) (e : TimeEntry)
    (w : World σ) : Prop :=
  left = [] ∨ left.length ≤ 1 ∧ (∀ d ∈ left, d.user = p.user ∧ p.Has s d.target) ∧
    InStep id e w.store ∧ movedToOtherTicket e p = true

theorem moved_bearsLeaving :
    BearsLeaving id p
      (fun e (w : World σ) => InStep id e w.store ∧ movedToOtherTicket e p = true)
      (fun e w => InStep id e w.store ∧ movedToOtherTicket e p = true)
      (fun e w => InStep id e w.store ∧ movedToOtherTicket e p = true) :=
  inStep_bearsLeaving (P := fun e _ => movedToOtherTicket e p = true) (fun h _ => h) (fun _ h => h)

theorem moved_bearsBooking :
    BearsBooking id
      fun e (w : World σ) => InStep id e w.store ∧ movedToOtherTicket e p = true :=
  inStep_bearsBooking (P := fun e _ => movedToOtherTicket e p = true) (fun h _ => h) (fun _ h => h)

theorem finish_leftBy {left : List StaleWorklog} (h : LeftBy s id p left e w)
    (hpending : w.store.pendingOf e.user = []) :
    ((w.store.bookingRoute? e.project).elim (pure ()) (book tracker id)).Leads
      (fun _ => LeftBy s id p left) (fun _ => LeftBy s id p left) e w := by
  rcases h with rfl | ⟨hlength, hhas, hmoved⟩
  · exact finish_adds.mono (fun _ _ _ _ => .inl rfl) (fun _ _ _ _ => .inl rfl)
  · cases hr : w.store.bookingRoute? e.project with
    | none => exact .inr ⟨hlength, hhas, hmoved⟩
    | some r =>
        exact (book_keeps moved_bearsBooking hmoved hr hpending).mono
          (fun _ _ _ h => .inr ⟨hlength, hhas, h⟩) (fun _ _ _ h => .inr ⟨hlength, hhas, h⟩)

theorem leaveTicket_leftBy (hs : s.SameCatalog w.store) (hstep : InStep id e w.store)
    (hmoved : movedToOtherTicket e p = true) (huser : p.user = e.user)
    (hpending : w.store.pendingOf e.user = []) :
    (leaveTicket tracker id p).Leads
      (fun _ e' w' => ∃ left, LeftBy s id p left e' w' ∧
        Adds (Deletions s left) w.journal w'.journal)
      (fun _ e' w' => ∃ left, LeftBy s id p left e' w' ∧
        Adds (Deletions s left) w.journal w'.journal) e w := by
  have hleft : ∀ {e' : TimeEntry} {w' : World σ},
      Adds (Clearing w.store p) w.journal w'.journal →
      InStep id e' w'.store ∧ movedToOtherTicket e' p = true →
      ∃ left, LeftBy s id p left e' w' ∧ Adds (Deletions s left) w.journal w'.journal := by
    rintro e' w' ⟨sent, hj, left, hsent, husers, hone⟩ hkept
    obtain ⟨hlength, hhas⟩ := hone (huser ▸ hpending)
    refine ⟨left, .inr ⟨hlength, fun d hd => ⟨husers d hd, ?_⟩, hkept⟩, sent, hj,
      hsent.sameCatalog hs⟩
    exact (hs.has_iff p d.target).mp (hhas d hd)
  exact ((leaveTicket_adds hmoved).and (leaveTicket_keeps moved_bearsLeaving ⟨hstep, hmoved⟩
    huser)).mono (fun _ _ _ h => hleft h.1 h.2.1) (fun _ _ _ h => hleft h.1 h.2)

theorem reconcile_edited_adds (hstep : InStep id e w.store) (huser : p.user = e.user) :
    (reconcile tracker id (some p)).Leads
      (fun _ e' w' => ∃ left, LeftBy w.store id p left e' w' ∧
        Adds (Course w.store e.user e.project left) w.journal w'.journal)
      (fun _ e' w' => ∃ left, LeftBy w.store id p left e' w' ∧
        Adds (Course w.store e.user e.project left) w.journal w'.journal) e w := by
  refine reconcile_stages
    (A := fun e' w' => InStep id e' w'.store ∧
      Adds (Opening w.store e.user e.project) w.journal w'.journal)
    (B := fun e' w' => ∃ left, LeftBy w.store id p left e' w' ∧
      Adds (Parting w.store e.user e.project left) w.journal w'.journal)
    ?_ ((settle_adds.and (settle_keeps inStep_bearsSettling hstep)).mono ?_ ?_) nofun ?_ ?_
  · rintro _ ⟨⟩
    exact huser
  · rintro route e₁ w₁ ⟨hopening, hstep₁, -⟩
    exact ⟨hstep₁, hopening⟩
  · rintro err e₁ w₁ ⟨hopening, -⟩
    exact ⟨[], .inl rfl, hopening.mono fun _ hsent => hsent.parting.course⟩
  · rintro _ ⟨⟩ e₁ w₁ ⟨hstep₁, hopening⟩ hsame hpending
    by_cases hmoved : movedToOtherTicket e₁ p = true
    · have hparting : ∀ {left later}, Adds (Deletions w.store left) w₁.journal later →
          Adds (Parting w.store e.user e.project left) w.journal later :=
        fun h => hopening.append h fun opening removed hopening hremoved =>
          ⟨opening, removed, rfl, hopening, hremoved⟩
      refine (leaveTicket_leftBy hsame.catalog hstep₁ hmoved (huser.trans hsame.user.symm)
        (hsame.user.symm ▸ hpending)).mono ?_ ?_
      · rintro - e₂ w₂ ⟨left, hleft, hremoved⟩
        exact ⟨left, hleft, hparting hremoved⟩
      · rintro err e₂ w₂ ⟨left, hleft, hremoved⟩
        exact ⟨left, hleft, (hparting hremoved).mono fun _ hsent => hsent.course⟩
    · rw [leads_leaveTicket, if_neg hmoved]
      exact ⟨[], .inl rfl, hopening.mono fun _ hsent => hsent.parting⟩
  · rintro e₁ w₁ ⟨left, hleft, hparting⟩ hsame hpending
    refine (finish_adds.and (finish_leftBy hleft (hsame.user.symm ▸ hpending))).mono ?_ ?_
    · exact fun _ _ _ h => ⟨left, h.2, course_of_written hparting hsame h.1⟩
    · exact fun _ _ _ h => ⟨left, h.2, course_of_written hparting hsame h.1⟩

/-- What is sent by a save of the user that starts in `w`, up to `w'`. -/
def SaveAdds (user : UserId) (target : Option EntryId) (project : ProjectId) (w w' : World σ) :
    Prop :=
  ∃ left, left.length ≤ 1 ∧
    (∀ d ∈ left, d.user = user ∧ Vacated w.store w'.store target d.target) ∧
    Adds (Course w.store user project left) w.journal w'.journal

theorem saveAdds_bearsClasses {target : Option EntryId} {project : ProjectId} :
    BearsClasses (SaveAdds (σ := σ) user target project w) := by
  rintro w' s changed kind ⟨left, hlength, hleft, hsent⟩ hs
  refine ⟨left, hlength, fun d hd => ⟨(hleft d hd).1, ?_⟩, hsent⟩
  obtain ⟨id, p, e, hid, hp, hhas, he, hticket, htyped⟩ := (hleft d hd).2
  obtain ⟨kind', he'⟩ := Store.entryAt_saveClass he hs
  exact ⟨id, p, _, hid, hp, hhas, he', hticket, htyped⟩

theorem save_adds {target : Option EntryId} {input : EntryInput} :
    (save tracker user target input).Leads (fun _ => SaveAdds user target input.project w)
      (fun _ => SaveAdds user target input.project w) w := by
  have hnothing : SaveAdds user target input.project w w :=
    ⟨[], by simp, by simp, .nothing (.nothing _ _ _)⟩
  refine save_keeps (accept_stores.mono ?_ (fun _ _ hw => hw ▸ hnothing)) saveAdds_bearsClasses
  rintro ⟨id, e, previous⟩ _ ⟨s, haccepted, rfl⟩
  have hcourse : ∀ {left : List StaleWorklog} {later},
      Adds (Course s e.user e.project left) w.journal later →
        Adds (Course w.store user input.project left) w.journal later := by
    intro left later h
    have huser : e.user = user := haccepted.user_eq
    have hproject : e.project = input.project := haccepted.project_eq
    rw [huser, hproject] at h
    exact h.mono fun _ hsent => hsent.sameCatalog haccepted.sameCatalog haccepted.stale_eq
  rcases previous with _ | p
  · exact reconcile_new_adds.mono (fun _ _ _ h => ⟨[], by simp, by simp, hcourse h⟩)
      (fun _ _ _ h => ⟨[], by simp, by simp, hcourse h⟩)
  · have hstep := haccepted.inStep_edited p rfl
    have huser := haccepted.previous_user p rfl
    have hall : ∀ {e' : TimeEntry} {w' : World σ},
        (∃ left, LeftBy s id p left e' w' ∧
          Adds (Course s e.user e.project left) w.journal w'.journal) →
        SaveAdds user target input.project w w' := by
      rintro e' w' ⟨left, rfl | ⟨hlength, hleft, hstep', hmoved⟩, hsent⟩
      · exact ⟨[], by simp, by simp, hcourse hsent⟩
      · refine ⟨left, hlength, fun d hd => ?_, hcourse hsent⟩
        obtain ⟨hd, hhas⟩ := hleft d hd
        have hhas := (haccepted.sameCatalog.has_iff p d.target).mp hhas
        obtain ⟨hticket, htyped⟩ : e'.ticket ≠ p.ticket ∧ e'.typed ≠ some e'.ticket := by
          simpa [movedToOtherTicket] using hmoved
        refine ⟨hd.trans (huser.trans haccepted.user_eq), ?_⟩
        cases haccepted with
        | edited row => exact ⟨id, p, e', rfl, row, hhas, hstep'.entryAt, hticket, htyped⟩
    exact (reconcile_edited_adds hstep huser).mono (fun _ _ _ => hall) (fun _ _ _ => hall)

end Sync

/-- How a save of the user, which led from `s` to `s'`, talked to the trackers. -/
structure Conversation (s s' : Store) (user : UserId) (target : Option EntryId)
    (project : ProjectId) (sent : List Exchange) : Prop where
  /-- No work-log is deleted after one was written. -/
  deletesFirst : sent.Pairwise fun x y => x.request.WritesWorklog → y.deletion? = none
  once : ∀ op, op ≠ .connect → op ≠ .deleteWorklog → countOf op sent ≤ 1
  /-- An issue is opened only directly after a search that was answered. -/
  opened : OpenedAfterSearch sent
  /-- A work-log is created after an update only where the update did not find it. -/
  recreated : sent.Pairwise fun x y => x.request.operation = .updateWorklog →
    y.request.operation = .createWorklog → x.gone? ≠ none
  /-- Everything but the deletions goes to the system that books the work-logs of the project. -/
  routed : ∀ x ∈ sent, x.request.Books → ∃ r, s.bookingRoute? project = some r ∧
    x.connection.id = r.id ∧ x.connection.system = r.system
  /-- The pending deletions are sent in order, and after them at most that of a work-log that the
  entry had on a ticket from which it was moved. -/
  deletions : ∃ retried removed, deletionsIn sent = retried ++ removed ∧
    retried.Sublist ((s.pendingOf user).map (·.2.target)) ∧
    removed.length ≤ 1 ∧ ∀ g ∈ removed, Vacated s s' target g

theorem Course.conversation {user : UserId} {target : Option EntryId} {project : ProjectId}
    {left : List StaleWorklog} {sent : List Exchange} (h : Course s user project left sent)
    (hlength : left.length ≤ 1) (hleft : ∀ d ∈ left, Vacated s s' target d.target) :
    Conversation s s' user target project sent where
  deletesFirst := h.deletesFirst
  once _ hconnect hdelete := h.once hconnect hdelete
  opened := h.openedAfterSearch
  recreated := h.recreated
  routed := h.routed
  deletions := by
    obtain ⟨retried, removed, hall, hretried, hremoved⟩ := h.deletions
    refine ⟨retried, removed, hall, hretried, ?_, fun g hg => ?_⟩
    · exact Nat.le_trans hremoved.length_le (by simpa using hlength)
    · obtain ⟨d, hd, rfl⟩ := List.mem_map.mp (hremoved.subset hg)
      exact hleft d hd

end Timesheet
