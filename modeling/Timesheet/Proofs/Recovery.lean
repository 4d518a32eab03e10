import Timesheet.Proofs.Passes
import Timesheet.Proofs.Refusal

/-!
Recovery: whatever earlier failures left behind, a save puts it right as soon as everything that it
needs is there. The pending deletions of the user are gone then, and the tracker holds a work-log
for the entry.

On the remote side nothing can go wrong any more, so that a save can only fail in the storage.
-/
namespace Timesheet

def SyncError.IsStorage (err : SyncError) : Prop := ∃ s, err = .storage s

/-- A save reports that the storage failed. -/
def StorageFailed : Except SyncError Saved → Prop
  | .error err => err.IsStorage
  | .ok saved => ∃ a, saved.alert = some a ∧ a.error.IsStorage

variable {σ : Type}

/-- The request succeeds in the state `m` of the tracker. -/
def Succeeds (tracker : Tracker σ) (c : Connection) (r : Request) (m : σ) : Prop :=
  ∃ answer, (tracker c r m).1 = .ok answer

/-- The tracker answers that what the request is about does not exist. -/
def Misses (tracker : Tracker σ) (c : Connection) (r : Request) (m : σ) : Prop :=
  ∃ what, (tracker c r m).1 = .error (.missing what)

/-- Over the connection the tracker, which in the state `m` has the work-logs `held m`, does all
that can be asked for. A work-log that it does not hold it can neither update nor delete. -/
structure Healthy (tracker : Tracker σ) (held : σ → Worklog → Option WorklogDraft)
    (c : Connection) : Prop where
  connects : ∀ m, Succeeds tracker c .connect m
  searches : ∀ query fields limit m, Succeeds tracker c (.search query fields limit) m
  opens : ∀ project draft m, Succeeds tracker c (.createIssue project draft) m
  creates : ∀ ticket draft m, ∃ id m', tracker c (.createWorklog ticket draft) m = (.ok id, m') ∧
    held m' ⟨c.id, ticket, id⟩ = some draft
  updates : ∀ ticket id draft m, held m ⟨c.id, ticket, id⟩ ≠ none →
    ∃ m', tracker c (.updateWorklog ticket id draft) m = (.ok (), m') ∧
      held m' ⟨c.id, ticket, id⟩ = some draft
  missesUpdate : ∀ ticket id draft m, held m ⟨c.id, ticket, id⟩ = none →
    Misses tracker c (.updateWorklog ticket id draft) m
  deletes : ∀ ticket id m, held m ⟨c.id, ticket, id⟩ ≠ none →
    Succeeds tracker c (.deleteWorklog ticket id) m
  missesDelete : ∀ ticket id m, held m ⟨c.id, ticket, id⟩ = none →
    Misses tracker c (.deleteWorklog ticket id) m

/-- The user holds a token for the ticket system, if it is there, and with it the tracker is
healthy. -/
def CanReach (tracker : Tracker σ) (held : σ → Worklog → Option WorklogDraft) (s : Store)
    (user : UserId) (id : SystemId) : Prop :=
  ∀ system, s.system? id = some system →
    ∃ token, s.token? user id = some token ∧ Healthy tracker held ⟨id, system, token⟩

/-- The route of the project can be told, and the user can reach the ticket system that it books
on. -/
structure CanBook (tracker : Tracker σ) (held : σ → Worklog → Option WorklogDraft) (s : Store)
    (user : UserId) (id : ProjectId) : Prop where
  resolves : ∀ project, s.project? id = some project →
    ∃ route, Route.ofProject s project = .ok route
  reach : ∀ r, s.bookingRoute? id = some r → CanReach tracker held s user r.id

/-- All that a save of these values needs but the storage. -/
structure Prepared (tracker : Tracker σ) (held : σ → Worklog → Option WorklogDraft) (s : Store)
    (user : UserId) (target : Option EntryId) (input : EntryInput) : Prop where
  valid : input.check s = .ok ()
  pending : ∀ d ∈ s.pendingOf user, CanReach tracker held s user d.2.system
  new : CanBook tracker held s user input.project
  former : ∀ id ∈ target, ∃ p, s.entryAt id = .ok (some p) ∧ p.user = user ∧
    CanBook tracker held s user p.project

variable {tracker : Tracker σ} {held : σ → Worklog → Option WorklogDraft} {user : UserId}
  {id : EntryId} {e p : TimeEntry} {w w' : World σ} {s s' : Store} {c : Connection}

theorem CanReach.sameCatalog {system : SystemId} (h : CanReach tracker held s user system)
    (hcatalog : s.SameCatalog s') : CanReach tracker held s' user system := by
  intro target htarget
  rw [hcatalog.system?_eq] at htarget
  rw [hcatalog.token?_eq]
  exact h target htarget

theorem CanBook.sameCatalog {project : ProjectId} (h : CanBook tracker held s user project)
    (hcatalog : s.SameCatalog s') : CanBook tracker held s' user project where
  resolves target htarget := by
    rw [hcatalog.project?_eq] at htarget
    rw [hcatalog.ofProject_eq]
    exact h.resolves target htarget
  reach r hr := by
    rw [hcatalog.bookingRoute?_eq] at hr
    exact (h.reach r hr).sameCatalog hcatalog

theorem Healthy.deleted (h : Healthy tracker held c) (ticket worklog : String) (m : σ) :
    Succeeds tracker c (.deleteWorklog ticket worklog) m ∨
      Misses tracker c (.deleteWorklog ticket worklog) m := by
  by_cases hheld : held m ⟨c.id, ticket, worklog⟩ = none
  · exact .inr (h.missesDelete ticket worklog m hheld)
  · exact .inl (h.deletes ticket worklog m hheld)

theorem Healthy.updated (h : Healthy tracker held c) (ticket worklog : String)
    (content : WorklogDraft) (m : σ) :
    Succeeds tracker c (.updateWorklog ticket worklog content) m ∨
      Misses tracker c (.updateWorklog ticket worklog content) m := by
  by_cases hheld : held m ⟨c.id, ticket, worklog⟩ = none
  · exact .inr (h.missesUpdate ticket worklog content m hheld)
  · obtain ⟨m', hanswered, -⟩ := h.updates ticket worklog content m hheld
    exact .inl ⟨(), congrArg Prod.fst hanswered⟩

theorem Healthy.created (h : Healthy tracker held c) (ticket : String) (content : WorklogDraft)
    (m : σ) : Succeeds tracker c (.createWorklog ticket content) m := by
  obtain ⟨worklog, m', hanswered, -⟩ := h.creates ticket content m
  exact ⟨worklog, congrArg Prod.fst hanswered⟩

theorem Healthy.held_of_wrote {start : List Exchange} {ticket worklog : String}
    {content : WorklogDraft} (h : Healthy tracker held c)
    (hwrote : Wrote tracker start c ticket worklog content w) :
    held w.remote ⟨c.id, ticket, worklog⟩ = some content := by
  obtain ⟨earlier, x, m, -, hwrites, hanswered⟩ := hwrote
  cases hwrites with
  | updated s =>
      cases hheld : held m ⟨c.id, ticket, worklog⟩ with
      | none =>
          obtain ⟨what, hmissing⟩ := h.missesUpdate ticket worklog content m hheld
          rw [hanswered] at hmissing
          cases hmissing
      | some old =>
          obtain ⟨m', hupdated, hnew⟩ := h.updates ticket worklog content m (by simp [hheld])
          rw [hanswered] at hupdated
          cases hupdated
          exact hnew
  | created s =>
      obtain ⟨id, m', hcreated, hnew⟩ := h.creates ticket content m
      rw [hanswered] at hcreated
      cases hcreated
      exact hnew

theorem Store.obliges_of_reach
    (h : ∀ d ∈ s.pendingOf user, CanReach tracker held s user d.2.system) :
    ∀ d ∈ s.pendingOf user, Obliges tracker s d.2 := by
  intro d hd system hsystem
  obtain ⟨token, htoken, hhealthy⟩ := h d hd system hsystem
  rw [(Store.mem_pendingOf.mp hd).2]
  refine ⟨token, htoken, fun m => ⟨?_, ?_⟩⟩
  · obtain ⟨_, hconnected⟩ := hhealthy.connects m
    exact hconnected
  · obtain ⟨_, hdeleted⟩ | ⟨_, hmissed⟩ := hhealthy.deleted d.2.ticket d.2.worklog m
    · exact deletionFailure_eq_none_iff.mp (by rw [hdeleted]; rfl)
    · exact deletionFailure_eq_none_iff.mp (by rw [hmissed]; rfl)

namespace Sync

theorem leads_send_of_succeeds {r : Request} {Q : r.Answer → World σ → Prop}
    {E : SyncError → World σ → Prop} (h : Succeeds tracker c r w.remote)
    (ok : ∀ answer remote, Q answer (w.note ⟨c, r, .ok answer, w.store⟩ remote)) :
    (send tracker c r).Leads Q E w := by
  obtain ⟨answer, hanswer⟩ := h
  rw [leads_send, hanswer]
  exact ok answer _

theorem leads_connect_of_reach {system : SystemId} {target : TicketSystem}
    {Q : Connection → World σ → Prop} {E : SyncError → World σ → Prop}
    (h : CanReach tracker held w.store user system) (htarget : w.store.system? system = some target)
    (ok : ∀ token remote, Healthy tracker held ⟨system, target, token⟩ →
      Q ⟨system, target, token⟩
        (w.note ⟨⟨system, target, token⟩, .connect, .ok (), w.store⟩ remote)) :
    (connect tracker user system target).Leads Q E w := by
  obtain ⟨token, htoken, hhealthy⟩ := h target htarget
  rw [leads_connect, htoken]
  exact leads_send_of_succeeds (hhealthy.connects w.remote) fun _ remote => ok token remote hhealthy

theorem internalIssue_succeeds {key : String} {content : IssueDraft}
    (h : Healthy tracker held c) :
    (internalIssue tracker c key content).Leads (fun _ _ => True) (fun _ _ => False) w := by
  unfold internalIssue
  rw [leads_bind]
  apply leads_send_of_succeeds (h.searches _ _ _ _)
  intro found remote
  cases issueOf content.summary found with
  | some issue => trivial
  | none => exact leads_send_of_succeeds (h.opens _ _ _) fun _ _ => trivial

theorem resolveInternal_fails {r : Route} {key : String}
    (hreach : CanReach tracker held w.store e.user r.id)
    (hsystem : w.store.system? r.id = some r.system) :
    (resolveInternal tracker id r key).Leads (fun _ _ _ => True) (fun err _ _ => err.IsStorage)
      e w := by
  rw [leads_resolveInternal]
  split
  · trivial
  · apply leads_connect_of_reach hreach hsystem
    intro token remote hhealthy
    refine (internalIssue_succeeds hhealthy).mono ?_ (fun _ _ h => h.elim)
    intro ticket w₂ _
    cases w₂.store.saveEntry id (e.retitled (identifier e) ticket) with
    | ok s => trivial
    | error err => exact ⟨err, rfl⟩

theorem settle_fails (hproject : w.store.project? e.project ≠ none)
    (hbook : CanBook tracker held w.store e.user e.project)
    (hpending : ∀ d ∈ w.store.pendingOf e.user, CanReach tracker held w.store e.user d.2.system) :
    (settle tracker id).Leads (fun _ _ _ => True) (fun err _ _ => err.IsStorage) e w := by
  have honly : (retryPending tracker e.user).Leads
      (fun _ w' => w.store.SameCatalog w'.store) (fun _ _ => True) w :=
    (retryPending_keeps (I := fun _ => True) .const trivial).mono
      (fun _ _ h => h.2.1.sameCatalog) (fun _ _ _ => trivial)
  refine settle_stages (((retryPending_succeeds (Store.obliges_of_reach hpending)).and honly).mono
    (fun _ _ h => h.2) (fun _ _ h => h.1.elim)) ?_ (fun _ _ _ _ => trivial) ?_
  · intro err w₁ hsame hunrouted
    rw [← hsame.project?_eq] at hproject
    obtain ⟨project, hfound⟩ := Option.ne_none_iff_exists'.mp hproject
    obtain ⟨route, hroute⟩ := (hbook.sameCatalog hsame).resolves project hfound
    exact absurd hroute (hunrouted project route hfound)
  · intro w₁ p route r key hsame _ _ hr _
    exact resolveInternal_fails ((hbook.sameCatalog hsame).reach r hr)
      (Store.routeId?_of_bookingRoute? hr).2.1

theorem removeWorklog_fails (hbook : CanBook tracker held w.store p.user p.project)
    (hpending : w.store.pendingOf p.user = []) :
    (removeWorklog tracker p).Leads (fun _ _ => True) (fun err _ => err.IsStorage) w := by
  rw [leads_removeWorklog]
  rcases p.worklog with _ | worklog
  · trivial
  dsimp only
  split
  · trivial
  rcases hproject : w.store.project? p.project with _ | project
  · trivial
  obtain ⟨route, hroute⟩ := hbook.resolves project hproject
  dsimp only
  rw [hroute]
  dsimp only
  rcases hr : w.store.bookingRoute? p.project with _ | r
  · trivial
  dsimp only
  rcases hs : w.store.recordStale ⟨p.user, r.id, p.ticket, worklog⟩ with err | s
  · exact ⟨err, rfl⟩
  have hcatalog := (Store.recordStale_onlyStale hs).sameCatalog
  have hreach : ∀ d ∈ s.pendingOf p.user, CanReach tracker held s p.user d.2.system := by
    intro d hd
    rw [Store.eq_of_pending_recordStale hs hpending d hd]
    exact (hbook.reach r hr).sameCatalog hcatalog
  exact (retryPending_succeeds (w := w.put s) (Store.obliges_of_reach hreach)).mono
    (fun _ _ _ => trivial) (fun _ _ h => h.elim)

theorem leaveTicket_fails (hbook : CanBook tracker held w.store p.user p.project)
    (hpending : w.store.pendingOf p.user = []) :
    (leaveTicket tracker id p).Leads (fun _ _ _ => True) (fun err _ _ => err.IsStorage) e w := by
  rw [leads_leaveTicket]
  split
  · refine (removeWorklog_fails hbook hpending).mono ?_ ?_
    · intro _ w₁ _
      unfold Cleared
      split
      · split
        · trivial
        · exact ⟨_, rfl⟩
      · trivial
    · intro err w₁ herr
      unfold Cleared
      split
      · split
        · exact herr
        · exact ⟨_, rfl⟩
      · exact herr
  · trivial

theorem writeWorklog_succeeds {content : WorklogDraft} (h : Healthy tracker held c) :
    (writeWorklog tracker c e content).Leads (fun _ _ => True) (fun _ _ => False) w := by
  rw [leads_writeWorklog]
  cases e.worklog with
  | none => exact leads_send_of_succeeds (h.created _ _ _) fun _ _ => trivial
  | some worklog =>
      dsimp only
      rw [leads_ask]
      obtain ⟨_, hreply⟩ | ⟨_, hreply⟩ := h.updated e.ticket worklog content w.remote
      · rw [hreply]
        trivial
      · rw [hreply]
        exact leads_send_of_succeeds (h.created _ _ _) fun _ _ => trivial

theorem book_fails {r : Route} (hbook : CanBook tracker held w.store e.user e.project)
    (hr : w.store.bookingRoute? e.project = some r) :
    (book tracker id r).Leads (fun _ _ _ => True) (fun err _ _ => err.IsStorage) e w := by
  rw [leads_book]
  split
  · trivial
  · apply leads_connect_of_reach (hbook.reach r hr)
      (Store.routeId?_of_bookingRoute? hr).2.1
    intro token remote hhealthy
    refine (writeWorklog_succeeds hhealthy).mono ?_ (fun _ _ h => h.elim)
    intro worklog w₂ _
    split
    · cases w₂.store.saveEntry id (e.withWorklog (some worklog)) with
      | ok s => trivial
      | error err => exact ⟨err, rfl⟩
    · trivial

theorem reconcile_fails {previous : Option TimeEntry}
    (hproject : w.store.project? e.project ≠ none)
    (hbook : CanBook tracker held w.store e.user e.project)
    (hpending : ∀ d ∈ w.store.pendingOf e.user, CanReach tracker held w.store e.user d.2.system)
    (hformer : ∀ p ∈ previous, p.user = e.user ∧ CanBook tracker held w.store e.user p.project) :
    (reconcile tracker id previous).Leads (fun _ _ _ => True) (fun err _ _ => err.IsStorage)
      e w := by
  refine reconcile_stages (A := fun _ _ => True) (B := fun _ _ => True)
    (fun p hp => (hformer p hp).1) (settle_fails hproject hbook hpending) (fun _ _ _ h => h) ?_ ?_
  · intro p hp e₁ w₁ _ hsame hpending₁
    obtain ⟨huser, hbookFormer⟩ := hformer p hp
    rw [← huser] at hbookFormer hpending₁
    exact leaveTicket_fails (hbookFormer.sameCatalog hsame.catalog) hpending₁
  · intro e₁ w₁ _ hsame _
    cases hr : w₁.store.bookingRoute? e₁.project with
    | none => trivial
    | some r =>
        have hbook₁ : CanBook tracker held w₁.store e₁.user e₁.project := by
          rw [hsame.user, hsame.project]
          exact hbook.sameCatalog hsame.catalog
        exact book_fails hbook₁ hr

/-- Where only the storage makes bringing the work-log up to date fail, an alert tells of the
storage. -/
theorem followUp_fails {target : Option EntryId} {input : EntryInput}
    {r : EntryId × TimeEntry × Option TimeEntry}
    (haccepted : Accepted w.store user input target r s)
    (hreconcile : (reconcile tracker r.1 r.2.2).Leads (fun _ _ _ => True)
      (fun err _ _ => err.IsStorage) r.2.1 (w.put s)) :
    (followUp tracker user r.1 r.2.1 r.2.2).Leads
      (fun saved _ => saved.alert = none ∨ StorageFailed (.ok saved)) (fun _ _ => False)
      (w.put s) := by
  have hends : ∀ (alert : Option Alert) (w₁ : World σ),
      (alert = none ∨ ∃ a, alert = some a ∧ a.error.IsStorage) →
      (reload r.1 alert).Leads (fun saved _ => saved.alert = none ∨ StorageFailed (.ok saved))
        (fun _ _ => True) w₁ := by
    intro alert w₁ halert
    rw [leads_reload]
    split
    · trivial
    · trivial
    · exact halert
  have halerts : (followUp tracker user r.1 r.2.1 r.2.2).Leads
      (fun saved _ => saved.alert = none ∨ StorageFailed (.ok saved)) (fun _ _ => True)
      (w.put s) := by
    apply leads_followUp
    refine hreconcile.mono ?_ ?_
    · rintro - e₁ w₁ - alert (hnone | ⟨-, err, hsome⟩)
      · exact hends alert _ (.inl hnone)
      · exact hends alert _ (.inr ⟨_, hsome, err, rfl⟩)
    · intro err e₁ w₁ herr
      exact hends _ _ (.inr ⟨_, rfl, herr⟩)
  exact (halerts.and (followUp_succeeds haccepted.standing haccepted.previous_user)).mono
    (fun _ _ h => h.1) (fun _ _ h => h.2)

theorem accept_fails {target : Option EntryId} {input : EntryInput}
    (hvalid : input.check w.store = .ok ())
    (hown : ∀ id ∈ target, ∃ p, w.store.entryAt id = .ok (some p) ∧ p.user = user) :
    (accept user target input).Leads (fun _ _ => True) (fun err _ => err.IsStorage) w := by
  rcases target with _ | id
  · rw [leads_accept_new, hvalid]
    dsimp only
    split
    · trivial
    · exact ⟨_, rfl⟩
  · obtain ⟨p, hentry, huser⟩ := hown id rfl
    unfold accept storeEntry
    simp only [leads_bind, leads_ownEntry, hentry, if_pos huser, leads_pure, leads_store,
      leads_ofExcept, hvalid, leads_update]
    cases w.store.saveEntry id (input.applyTo p) with
    | ok s => trivial
    | error err => exact ⟨err, rfl⟩

theorem save_fails {target : Option EntryId} {input : EntryInput}
    (h : Prepared tracker held w.store user target input) :
    (save tracker user target input).Leads
      (fun saved _ => saved.alert = none ∨ StorageFailed (.ok saved))
      (fun err _ => err.IsStorage) w := by
  have hown : ∀ id ∈ target, ∃ p, w.store.entryAt id = .ok (some p) ∧ p.user = user := by
    intro id hid
    obtain ⟨p, hentry, huser, -⟩ := h.former id hid
    exact ⟨p, hentry, huser⟩
  unfold save
  rw [leads_bind]
  refine (accept_stores.and (accept_fails h.valid hown)).mono ?_ (fun _ _ h => h.2)
  rintro r _ ⟨⟨s, haccepted, rfl⟩, -⟩
  have hcatalog := haccepted.sameCatalog
  have huser := haccepted.user_eq
  have hproject := haccepted.project_eq
  have hcheck : w.store.project? input.project ≠ none := by
    intro hnone
    have hvalid := h.valid
    simp [EntryInput.check, hnone] at hvalid
  have hprevious : ∀ p ∈ r.2.2, p.user = user ∧
      CanBook tracker held (w.put s).store user p.project := by
    cases haccepted with
    | new => simp
    | edited row own =>
        rintro p ⟨⟩
        obtain ⟨p', hentry, -, hbook⟩ := h.former _ rfl
        rw [row] at hentry
        cases hentry
        exact ⟨own, hbook.sameCatalog hcatalog⟩
  have hreach : ∀ d ∈ (w.put s).store.pendingOf user,
      CanReach tracker held (w.put s).store user d.2.system := by
    intro d hd
    rw [Store.pendingOf, World.put_store, haccepted.stale_eq] at hd
    exact (h.pending d hd).sameCatalog hcatalog
  rw [← hproject, ← hcatalog.project?_eq] at hcheck
  rw [← huser] at hprevious hreach
  have hbook : CanBook tracker held (w.put s).store r.2.1.user r.2.1.project := by
    rw [huser, hproject]
    exact h.new.sameCatalog hcatalog
  exact (followUp_fails haccepted (reconcile_fails hcheck hbook hreach hprevious)).mono
    (fun _ _ h => h) (fun _ _ h => h.elim)

end Sync

/-- Work-logs, the newest first, and how many were created. -/
structure Shelf where
  created : Nat
  worklogs : List (Worklog × WorklogDraft)

namespace Shelf

def read (m : Shelf) (g : Worklog) : Option WorklogDraft :=
  (m.worklogs.find? (·.1 == g)).map (·.2)

def put (m : Shelf) (g : Worklog) (content : WorklogDraft) : Shelf :=
  { m with worklogs := (g, content) :: m.worklogs }

@[simp] theorem read_put (m : Shelf) (g : Worklog) (content : WorklogDraft) :
    (m.put g content).read g = some content := by
  simp [read, put]

def serve : Tracker Shelf
  | _, .connect => return .ok ()
  | _, .search .. => return .ok []
  | _, .createIssue project _ => return .ok (project ++ "-1")
  | c, .createWorklog ticket content => fun m =>
    let id := "wl-" ++ toString (m.created + 1)
    (.ok id, { m with created := m.created + 1 }.put ⟨c.id, ticket, id⟩ content)
  | c, .updateWorklog ticket id content => fun m =>
    match m.read ⟨c.id, ticket, id⟩ with
    | some _ => (.ok (), m.put ⟨c.id, ticket, id⟩ content)
    | none => (.error (.missing id), m)
  | c, .deleteWorklog ticket id => fun m =>
    match m.read ⟨c.id, ticket, id⟩ with
    | some _ => (.ok (), { m with worklogs := m.worklogs.filter (·.1 ≠ ⟨c.id, ticket, id⟩) })
    | none => (.error (.missing id), m)
  | _, .subtickets _ => return .ok []

theorem healthy (c : Connection) : Healthy serve read c where
  connects _ := ⟨(), rfl⟩
  searches _ _ _ _ := ⟨[], rfl⟩
  opens _ _ _ := ⟨_, rfl⟩
  creates _ _ _ := ⟨_, _, rfl, read_put _ _ _⟩
  updates ticket id content m hheld := by
    obtain ⟨old, hold⟩ := Option.ne_none_iff_exists'.mp hheld
    refine ⟨_, ?_, read_put m _ content⟩
    simp only [serve, hold]
  missesUpdate ticket id content m hheld := ⟨id, by simp only [serve, hheld]⟩
  deletes ticket id m hheld := by
    obtain ⟨old, hold⟩ := Option.ne_none_iff_exists'.mp hheld
    exact ⟨(), by simp only [serve, hold]⟩
  missesDelete ticket id m hheld := ⟨id, by simp only [serve, hheld]⟩

end Shelf

/-- An entry whose work-log is not there any more, and a deletion that is pending. -/
def leftoverEntry : TimeEntry :=
  { onOtherTicket.newEntry ⟨1⟩ with ticket := "A-1", worklog := some "wl-1" }

def leftovers : World Shelf :=
  { store := { office with
      entries := Table.empty.push leftoverEntry.stored
      stale := Table.empty.push ⟨⟨1⟩, ⟨1⟩, "A-9", "wl-2"⟩ }
    remote := ⟨2, [(⟨⟨1⟩, "A-9", "wl-2"⟩, ⟨leftoverEntry.day, .midnight, 0, ""⟩)]⟩
    journal := [] }

def recovery : Except SyncError Saved × World Shelf :=
  Sync.outcome (Sync.save Shelf.serve ⟨1⟩ (some ⟨1⟩) onOtherTicket) leftovers

def recovered : Saved :=
  { id := ⟨1⟩, alert := none
    entry := { onOtherTicket.newEntry ⟨1⟩ with worklog := some "wl-3" } }

theorem leftovers_prepared :
    Prepared Shelf.serve Shelf.read leftovers.store ⟨1⟩ (some ⟨1⟩) onOtherTicket := by
  have hreach : CanReach Shelf.serve Shelf.read leftovers.store ⟨1⟩ ⟨1⟩ :=
    fun _ _ => ⟨⟨"token", ""⟩, by decide, Shelf.healthy _⟩
  have hroute : leftovers.store.bookingRoute? ⟨1⟩ =
      some ⟨⟨1⟩, ⟨"tracker", .jira, "", true⟩, none⟩ := by decide
  have hbook : CanBook Shelf.serve Shelf.read leftovers.store ⟨1⟩ ⟨1⟩ := by
    refine ⟨?_, ?_⟩
    · rintro _ ⟨⟩
      exact ⟨_, rfl⟩
    · intro r hr
      rw [hroute] at hr
      cases hr
      exact hreach
  have hpending : ∀ d ∈ leftovers.store.pendingOf ⟨1⟩, d.2.system = ⟨1⟩ := by decide
  refine ⟨by decide +kernel, ?_, hbook, ?_⟩
  · intro d hd
    rw [hpending d hd]
    exact hreach
  · rintro _ ⟨⟩
    exact ⟨leftoverEntry, by decide +kernel, rfl, hbook⟩

end Timesheet
