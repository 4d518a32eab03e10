import Timesheet.Proofs.Incidents
import Timesheet.Proofs.Isolation
import Timesheet.Proofs.Recovery

/-!
No failure on the remote side is silent: the alert of a save or of a deletion is the first failure
of its account.

Each stage tells its part of the account, in success without a failure, and otherwise with the one
with which it stops. Only what fails in the storage is not told of.
-/
namespace Timesheet

def Store.replaced? (s : Store) (target : Option EntryId) : Option TimeEntry :=
  target.bind fun id => (s.entryAt id).toOption.join

theorem Store.replaced?_eq_some {s : Store} {id : EntryId} {p : TimeEntry} :
    s.replaced? (some id) = some p ↔ s.entryAt id = .ok (some p) := by
  rcases h : s.entryAt id with err | _ | e <;> simp [Store.replaced?, h, Except.toOption]

/-- What happened between the two journals is `P`, and the alert tells its first failure. -/
def Reports (phase : Phase) (P : Account → Prop) (alert : Option Alert)
    (journal later : List Exchange) : Prop :=
  ∃ a : Account, later = journal ++ a.exchanges ∧ P a ∧
    alert = a.firstFailure.map (Alert.mk phase)

namespace Account

variable {P Q : Account → Prop} {failure : Option SyncError} {journal later : List Exchange}
  {c : Connection} {x : Exchange} {s s' : Store} {user : UserId} {id : SystemId}
  {system : TicketSystem} {seen : Store}

theorem Via.append {a b : Account} (ha : Via c a) (hb : Via c b) : Via c (a ++ b) :=
  List.forall_mem_append.mpr ⟨ha, hb⟩

theorem Tells.one (hx : x.connection = c) (hfailure : x.failure?.map .tracker = failure) :
    Tells (Via c) failure journal (journal ++ [x]) := by
  refine ⟨[.exchange x], rfl, fun i hi => ⟨x, List.mem_singleton.mp hi, hx⟩, ?_⟩
  rw [← hfailure]
  cases hf : x.failure? <;> simp [firstFailure, Incident.failure?, hf]

theorem Tells.after (h : Tells (Via c) failure (journal ++ [x]) later) (hx : x.connection = c)
    (hnone : x.failure? = none) : Tells (Via c) failure journal later := by
  have hfirst : Tells (Via c) none journal (journal ++ [x]) := .one hx (by rw [hnone]; rfl)
  simpa only [Option.none_or] using hfirst.append h fun _ _ => Via.append

theorem Tells.noToken (htoken : s.token? user id = none) :
    Tells (Reaching s user id system)
      (some (.missingToken (((s.user? user).map (·.name)).getD (toString user)) system.name))
      journal journal := by
  refine .incident (i := .noToken _ system.name) rfl ?_
  simp [Reaching, htoken]

theorem Tells.refused {token : AccessToken} {err : TrackerError}
    (htoken : s.token? user id = some token) :
    Tells (Reaching s user id system) (some (.tracker err)) journal
      (journal ++ [⟨⟨id, system, token⟩, .connect, .error err, seen⟩]) := by
  refine ⟨[.exchange ⟨⟨id, system, token⟩, .connect, .error err, seen⟩], rfl, ?_, rfl⟩
  simp only [Reaching, htoken]
  exact ⟨.error err, seen, [], rfl, List.forall_mem_nil _⟩

theorem Tells.made {token : AccessToken} (htoken : s.token? user id = some token)
    (h : Tells (Via ⟨id, system, token⟩) failure
      (journal ++ [⟨⟨id, system, token⟩, .connect, .ok (), seen⟩]) later) :
    Tells (Reaching s user id system) failure journal later := by
  obtain ⟨a, rfl, hvia, rfl⟩ := h
  refine ⟨.exchange ⟨⟨id, system, token⟩, .connect, .ok (), seen⟩ :: a, ?_, ?_, rfl⟩
  · simp [exchanges, Incident.exchange?]
  · simp only [Reaching, htoken]
    exact ⟨.ok (), seen, a, rfl, hvia⟩

section Route
variable {project : ProjectId} {p : Project} {R : Route → Account → Prop}

theorem along_none (h : s.project? project = none) : Along s project R [] := by
  simp [Along, h]

theorem along_unbooked {route : Option Route} (h : s.project? project = some p)
    (hroute : Route.ofProject s p = .ok route) (hbooks : route.filter (·.books) = none) :
    Along s project R [] := by
  simp [Along, h, hroute, hbooks]

theorem along_noRoute {err : SyncError} (h : s.project? project = some p)
    (hroute : Route.ofProject s p = .error err) :
    Tells (Along s project R) (some err) journal journal := by
  have herr : err = .noTicketSystem p.name := by
    unfold Route.ofProject at hroute
    split at hroute
    · split at hroute <;> cases hroute
      rfl
    · cases hroute
  rw [herr]
  refine .incident (i := .noRoute p.name) rfl ?_
  simp [Along, h, hroute]

theorem Tells.along {route : Option Route} {r : Route} (h : s.project? project = some p)
    (hroute : Route.ofProject s p = .ok route) (hbooks : route.filter (·.books) = some r)
    (htells : Tells (R r) failure journal later) :
    Tells (Along s project R) failure journal later :=
  htells.mono fun a ha => by simpa only [Along, h, hroute, hbooks] using ha

end Route

theorem pending_recordStale {d : StaleWorklog} {t t' : Store} (h : t.recordStale d = .ok t')
    (hothers : ∀ r, r.2.user ≠ d.user → (r ∈ t.stale.rows ↔ r ∈ s.stale.rows)) :
    pending t' d.user = withDeletion s (pending t d.user) d := by
  have hsame : (∃ r ∈ t.stale.rows, r.2.target = d.target) ↔
      (∃ r ∈ s.stale.rows, r.2.user ≠ d.user ∧ r.2.target = d.target) ∨
        ∃ v ∈ pending t d.user, v.target = d.target := by
    constructor
    · rintro ⟨r, hr, htarget⟩
      by_cases huser : r.2.user = d.user
      · exact .inr ⟨r.2, List.mem_map_of_mem (Store.mem_pendingOf.mpr ⟨hr, huser⟩), htarget⟩
      · exact .inl ⟨r, (hothers r huser).mp hr, huser, htarget⟩
    · rintro (⟨r, hr, huser, htarget⟩ | ⟨v, hv, htarget⟩)
      · exact ⟨r, (hothers r huser).mpr hr, htarget⟩
      · obtain ⟨r, hr, rfl⟩ := List.mem_map.mp hv
        exact ⟨r, (Store.mem_pendingOf.mp hr).1, htarget⟩
  simp only [Store.recordStale, Store.any_sameTarget_iff, hsame] at h
  unfold withDeletion
  split at h
  · next hthere =>
      cases h
      rw [if_pos hthere]
  · next hnew =>
      rw [if_neg hnew]
      split at h
      · cases h
        simp [pending, Store.pendingOf, Table.filter, Table.push]
      · cases h

end Account

section Passes

open Account (Tells)

variable {σ : Type} {tracker : Tracker σ} {s : Store} {d : StaleWorklog} {trials : List Trial}
  {sent journal later : List Exchange} {failure : Option SyncError}

theorem Exchange.failure?_deletion {c : Connection} {ticket worklog : String}
    {reply : Except TrackerError Unit} {seen : Store} :
    (Exchange.failure? ⟨c, .deleteWorklog ticket worklog, reply, seen⟩).map .tracker =
      deletionFailure reply := by
  rcases reply with (detail | what | ⟨text, causes⟩) | _ <;> rfl

theorem Account.attempt_of_system {system : TicketSystem} (h : s.system? d.system = some system) :
    Attempt s d = Reaching s d.user d.system system := by
  funext a
  simp [Attempt, h]

theorem Tried.tells (h : Tried tracker s d sent failure) :
    Tells (Account.Attempt s d) failure journal (journal ++ sent) := by
  cases h with
  | unreachable gone =>
      rw [List.append_nil]
      exact .nothing (by simp [Account.Attempt, gone])
  | noToken there lacking =>
      rw [List.append_nil, Account.attempt_of_system there]
      exact .noToken lacking
  | @unconnected c target admitted err m m' connect seen =>
      obtain ⟨_, system, token⟩ := c
      obtain rfl : _ = d.system := target
      obtain ⟨hsystem, htoken⟩ := admitted
      rw [Account.attempt_of_system hsystem]
      exact .refused htoken
  | @answered c target admitted reply m m' m'' connect delete seen =>
      obtain ⟨_, system, token⟩ := c
      obtain rfl : _ = d.system := target
      obtain ⟨hsystem, htoken⟩ := admitted
      rw [Account.attempt_of_system hsystem, List.append_cons]
      exact .made htoken (.one rfl Exchange.failure?_deletion)

/-- However many deletions fail, the failure that is told is that of the first of them. -/
theorem tells_of_trials (h : ∀ t ∈ trials, t.Fair tracker s) :
    Tells (Account.Attempts s ((trials.map Trial.row).map (·.2))) (firstFailure trials) journal
      (journal ++ trials.flatMap Trial.sent) := by
  induction trials generalizing journal with
  | nil =>
      rw [List.flatMap_nil, List.append_nil]
      exact .nothing .nil
  | cons t rest ih =>
      obtain ⟨hfirst, hrest⟩ := List.forall_mem_cons.mp h
      have hfailure : firstFailure (t :: rest) = t.failure.or (firstFailure rest) := by
        cases hf : t.failure <;> simp [firstFailure, hf]
      rw [hfailure, List.flatMap_cons, ← List.append_assoc]
      exact (Tried.tells hfirst).append (ih hrest) fun _ _ => .cons

theorem Pass.tells {s' t : Store} {user : UserId} (hs : s.SameCatalog t)
    (h : Pass tracker t user trials journal later s') :
    Tells (Account.Attempts s (Account.pending t user)) (firstFailure trials) journal later := by
  rw [h.sent, Account.pending, ← h.rows]
  exact tells_of_trials fun t ht => Tried.sameCatalog (h.fair t ht) hs

end Passes

namespace Sync

open Account (Tells)

variable {σ : Type} {tracker : Tracker σ} {user : UserId} {id : EntryId} {e p : TimeEntry}
  {w : World σ} {s : Store} {start : List Exchange}

theorem connect_tells {system : SystemId} {target : TicketSystem}
    {Q : Connection → World σ → Prop} {E : SyncError → World σ → Prop}
    (hs : s.SameCatalog w.store)
    (made : ∀ c remote,
      (∀ {failure later}, Tells (Account.Via c) failure
          (w.journal ++ [⟨c, .connect, .ok (), w.store⟩]) later →
        Tells (Account.Reaching s user system target) failure w.journal later) →
      Q c (w.note ⟨c, .connect, .ok (), w.store⟩ remote))
    (failed : ∀ {err w'}, w'.store = w.store →
      Tells (Account.Reaching s user system target) (some err) w.journal w'.journal → E err w') :
    (connect tracker user system target).Leads Q E w := by
  have huser : w.store.user? user = s.user? user := by
    rw [hs]
    rfl
  rw [leads_connect, hs.token?_eq, huser]
  cases htoken : s.token? user system with
  | none => exact failed rfl (.noToken htoken)
  | some token =>
      apply Leads.send
      · exact fun _ remote => made _ remote (.made htoken)
      · exact fun err remote => failed rfl (.refused htoken)

theorem internalIssue_tells {c : Connection} {key : String} {draft : IssueDraft} :
    (internalIssue tracker c key draft).Leads
      (fun _ w' => Tells (Account.Via c) none w.journal w'.journal ∧ w'.store = w.store)
      (fun err w' => Tells (Account.Via c) (some err) w.journal w'.journal ∧ w'.store = w.store)
      w := by
  unfold internalIssue
  rw [leads_bind]
  apply Leads.send
  · intro found remote
    cases issueOf draft.summary found with
    | some issue => exact ⟨.one rfl rfl, rfl⟩
    | none =>
        apply Leads.send
        · exact fun answer remote' => ⟨.after (.one rfl rfl) rfl rfl, rfl⟩
        · exact fun err remote' => ⟨.after (.one rfl rfl) rfl rfl, rfl⟩
  · exact fun err remote => ⟨.one rfl rfl, rfl⟩

theorem writeWorklog_tells {c : Connection} {content : WorklogDraft} :
    (writeWorklog tracker c e content).Leads
      (fun _ w' => Tells (Account.Via c) none w.journal w'.journal ∧ w'.store = w.store)
      (fun err w' => Tells (Account.Via c) (some err) w.journal w'.journal ∧ w'.store = w.store)
      w := by
  rw [leads_writeWorklog]
  cases e.worklog with
  | none =>
      apply Leads.send
      · exact fun worklog remote => ⟨.one rfl rfl, rfl⟩
      · exact fun err remote => ⟨.one rfl rfl, rfl⟩
  | some worklog =>
      dsimp only
      rw [leads_ask]
      generalize (tracker c (.updateWorklog e.ticket worklog content) w.remote).2 = remote
      generalize (tracker c (.updateWorklog e.ticket worklog content) w.remote).1 = reply
      rcases reply with (detail | what | ⟨text, causes⟩) | _
      · exact ⟨.one rfl rfl, rfl⟩
      · apply Leads.send
        · exact fun worklog' remote' => ⟨.after (.one rfl rfl) rfl rfl, rfl⟩
        · exact fun err remote' => ⟨.after (.one rfl rfl) rfl rfl, rfl⟩
      · exact ⟨.one rfl rfl, rfl⟩
      · exact ⟨.one rfl rfl, rfl⟩

theorem retryPending_tells (hs : s.SameCatalog w.store) :
    (retryPending tracker user).Leads
      (fun _ w' => Tells (Account.Attempts s (Account.pending w.store user)) none w.journal
        w'.journal)
      (fun err w' => Tells (Account.Attempts s (Account.pending w.store user)) (some err) w.journal
        w'.journal) w := by
  refine retryPending_passes.mono ?_ ?_
  · rintro - w' ⟨trials, hnone, hpass⟩
    exact hnone ▸ hpass.tells hs
  · rintro err w' ⟨trials, hsome, hpass⟩
    exact hsome ▸ hpass.tells hs

theorem removeWorklog_tells (hs : s.SameCatalog w.store) (hothers : OthersPending p.user s w) :
    (removeWorklog tracker p).Leads
      (fun _ w' => Tells (Account.Clearing s (Account.pending w.store p.user) p) none w.journal
        w'.journal)
      (fun err w' => err.IsStorage ∨
        Tells (Account.Clearing s (Account.pending w.store p.user) p) (some err) w.journal
          w'.journal) w := by
  rw [leads_removeWorklog, hs.project?_eq, hs.bookingRoute?_eq]
  unfold Account.Clearing
  rcases p.worklog with _ | worklog
  · exact .nothing rfl
  dsimp only
  split
  · exact .nothing rfl
  rcases hproject : s.project? p.project with _ | project
  · exact .nothing (Account.along_none hproject)
  dsimp only
  rw [hs.ofProject_eq]
  rcases hroute : Route.ofProject s project with err | route
  · exact .inr (Account.along_noRoute hproject hroute)
  dsimp only
  rw [bookingRoute?_of_ok hproject hroute]
  generalize hbooks : route.filter (·.books) = booking
  rcases booking with _ | r
  · exact .nothing (Account.along_unbooked hproject hroute hbooks)
  dsimp only
  rcases hrecord : w.store.recordStale ⟨p.user, r.id, p.ticket, worklog⟩ with err | s'
  · exact .inl ⟨err, rfl⟩
  have hs' : s.SameCatalog s' := hs.trans (Store.recordStale_onlyStale hrecord).sameCatalog
  have hpending := Account.pending_recordStale hrecord hothers
  refine (retryPending_tells (w := w.put s') hs').mono ?_ ?_
  · rintro - w₁ htold
    exact .along hproject hroute hbooks (hpending ▸ htold)
  · rintro err w₁ htold
    exact .inr (.along hproject hroute hbooks (hpending ▸ htold))

/-- What happened since `start` is `P` of the copy, with this failure, and the copy is stored. -/
structure Told (P : TimeEntry → Account → Prop) (id : EntryId) (start : List Exchange)
    (failure : Option SyncError) (e : TimeEntry) (w : World σ) : Prop where
  tells : Tells (P e) failure start w.journal
  stored : Stored id e w.store

/-- The work stopped with the failure that it told, or in the storage. -/
def Stopped (P : TimeEntry → Account → Prop) (id : EntryId) (start : List Exchange)
    (err : SyncError) (e : TimeEntry) (w : World σ) : Prop :=
  err.IsStorage ∨ Told P id start (some err) e w

variable {P Q : TimeEntry → Account → Prop} {failure : Option SyncError}

theorem Told.mono {e' : TimeEntry} {w' : World σ} {before : List Exchange}
    (h : Told P id before failure e' w')
    (hPQ : Tells (P e') failure before w'.journal → Tells (Q e') failure start w'.journal) :
    Told Q id start failure e' w' := ⟨hPQ h.tells, h.stored⟩

theorem Stopped.mono {err : SyncError} {e' : TimeEntry} {w' : World σ} {before : List Exchange}
    (h : Stopped P id before err e' w')
    (hPQ : Tells (P e') (some err) before w'.journal → Tells (Q e') (some err) start w'.journal) :
    Stopped Q id start err e' w' := h.imp_right fun htold => htold.mono hPQ

theorem identifier_retitled {summary ticket : String} (h : summary ≠ "") :
    identifier (e.retitled summary ticket) = summary := by
  simp [identifier, Entry.retitled, Option.filter, h]

theorem resolveInternal_tells {r : Route} {key : String} (hs : s.SameCatalog w.store)
    (hstored : Stored id e w.store) (hkey : r.internalKey = some key) :
    (resolveInternal tracker id r key).Leads
      (fun _ => Told (Account.LookingUp s · r) id w.journal none)
      (Stopped (Account.LookingUp s · r) id w.journal) e w := by
  rw [leads_resolveInternal]
  split
  · next hempty => exact ⟨.nothing (by simp [Account.LookingUp, hempty]), hstored⟩
  · next hne =>
      have hlooked : ∀ {e' : TimeEntry} {failure later}, identifier e' = identifier e →
          e'.user = e.user →
          Tells (Account.Reaching s e.user r.id r.system) failure w.journal later →
          Tells (Account.LookingUp s e' r) failure w.journal later := by
        intro e' failure later hidentifier huser htold
        refine htold.mono fun a ha => ?_
        simpa [Account.LookingUp, hkey, hidentifier, huser, hne] using ha
      refine connect_tells hs ?_ ?_
      · intro c remote hmade
        refine internalIssue_tells.mono ?_ ?_
        · rintro ticket w₂ ⟨hissue, hstore⟩
          have hstored₂ : Stored id e w₂.store := hstore ▸ hstored
          cases hsave : w₂.store.saveEntry id (e.retitled (identifier e) ticket) with
          | error err => exact .inl ⟨err, rfl⟩
          | ok s' =>
              exact ⟨hlooked (identifier_retitled hne) rfl (hmade hissue),
                hstored₂.saved rfl hsave⟩
        · rintro err w₂ ⟨hissue, hstore⟩
          exact .inr ⟨hlooked rfl rfl (hmade hissue), hstore ▸ hstored⟩
      · intro err w' hstore htold
        exact .inr ⟨hlooked rfl rfl htold, hstore ▸ hstored⟩

theorem settle_tells (hs : s.SameCatalog w.store)
    (hpending : Account.pending w.store e.user = Account.pending s e.user)
    (hproject : s.project? e.project ≠ none) (hstored : Stored id e w.store) :
    (settle tracker id).Leads (fun _ => Told (Account.Opening s) id w.journal none)
      (Stopped (Account.Opening s) id w.journal) e w := by
  obtain ⟨project, hproject⟩ := Option.ne_none_iff_exists'.mp hproject
  rw [leads_settle]
  have honly : (retryPending tracker e.user).Leads
      (fun _ w' => w.store.OnlyStale w'.store ∧ w'.store.pendingOf e.user = [])
      (fun _ w' => w.store.OnlyStale w'.store) w :=
    (retryPending_keeps (I := fun _ => True) .const trivial).mono (fun _ _ h => h.2)
      (fun _ _ h => h.2)
  refine ((retryPending_tells hs).and honly).mono ?_ ?_
  · rintro - w₁ ⟨hretried, honly, hnone⟩
    rw [hpending] at hretried
    have hs₁ := hs.trans honly.sameCatalog
    have hstored₁ := hstored.onlyStale honly
    rw [hs₁.project?_eq, hproject]
    dsimp only
    rw [hs₁.ofProject_eq]
    cases hroute : Route.ofProject s project with
    | error err => exact .inr ⟨hretried.next (Account.along_noRoute hproject hroute), hstored₁⟩
    | ok route =>
        dsimp only
        generalize hbooks : route.filter (·.books) = booking
        rcases booking with _ | r
        · exact ⟨hretried.next (.nothing (Account.along_unbooked hproject hroute hbooks)), hstored₁⟩
        dsimp only
        have halong : ∀ {e' : TimeEntry} {failure later}, SameWork e w₁ e' w₁ →
            Tells (Account.LookingUp s e' r) failure w₁.journal later →
            Tells (Account.Opening s e') failure w.journal later := by
          intro e' failure later hsame hlooked
          rw [Account.Opening, hsame.user, hsame.project]
          exact hretried.next (.along hproject hroute hbooks hlooked)
        generalize hkey : r.internalKey = internal
        rcases internal with _ | key
        · exact ⟨halong (.refl e w₁) (.nothing (by simp [Account.LookingUp, hkey])), hstored₁⟩
        · refine ((resolveInternal_tells hs₁ hstored₁ hkey).and
            (resolveInternal_keeps (I := fun _ _ => True) .const trivial hnone)).mono ?_ ?_
          · rintro - e₂ w₂ ⟨hlooked, -, hsame, -⟩
            exact hlooked.mono (halong ⟨hsame.user, hsame.project, .refl _⟩)
          · rintro err e₂ w₂ ⟨hlooked, -, hsame⟩
            exact hlooked.mono (halong ⟨hsame.user, hsame.project, .refl _⟩)
  · rintro err w₁ ⟨hretried, honly⟩
    rw [hpending] at hretried
    exact .inr ⟨hretried.stop, hstored.onlyStale honly⟩

theorem cleared_tells {R : TimeEntry → World σ → Prop} (hstored : Stored id e w.store)
    (hR : ∀ worklog w', w'.journal = w.journal → Stored id (e.withWorklog worklog) w'.store →
      R (e.withWorklog worklog) w') :
    Cleared id e R (Stopped P id start) w := by
  unfold Cleared
  split
  · cases hsave : w.store.saveEntry id (e.withWorklog none) with
    | error err => exact .inl ⟨err, rfl⟩
    | ok s' => exact hR none (w.put s') rfl (hstored.saved rfl hsave)
  · exact hR e.worklog w rfl hstored

theorem leaveTicket_tells (hs : s.SameCatalog w.store) (hothers : OthersPending p.user s w)
    (hpending : w.store.pendingOf p.user = [])
    (hP : ∀ (e : TimeEntry) worklog, P (e.withWorklog worklog) = P e)
    (h : Told P id start none e w) :
    (leaveTicket tracker id p).Leads
      (fun _ => Told (fun e => Account.Then (P e) (Account.Leaving s (some p) e)) id start none)
      (Stopped (fun e => Account.Then (P e) (Account.Leaving s (some p) e)) id start) e w := by
  have hnone : Account.pending w.store p.user = [] := by simp [Account.pending, hpending]
  rw [leads_leaveTicket]
  split
  · next hmoved =>
      have hleft : ∀ {failure later} worklog,
          Tells (Account.Clearing s (Account.pending w.store p.user) p) failure w.journal later →
          Tells (Account.Then (P (e.withWorklog worklog))
            (Account.Leaving s (some p) (e.withWorklog worklog))) failure start later := by
        intro failure later worklog hcleared
        have hmoved' : movedToOtherTicket (e.withWorklog worklog) p = true := hmoved
        rw [hP]
        refine h.tells.next (hcleared.mono fun a ha => ?_)
        simpa only [Account.Leaving, hmoved', if_true, hnone] using ha
      have honly : (removeWorklog tracker p).Leads (fun _ w' => w.store.OnlyStale w'.store)
          (fun _ w' => w.store.OnlyStale w'.store) w :=
        (removeWorklog_keeps (K := fun _ => True) .const (fun _ => trivial)
          (fun _ _ _ _ => trivial) (fun _ _ _ _ => trivial)).mono (fun _ _ h => h.2.1)
          (fun _ _ h => h.2)
      refine ((removeWorklog_tells hs hothers).and honly).mono ?_ ?_
      · rintro - w₁ ⟨hremoved, honly⟩
        refine cleared_tells (h.stored.onlyStale honly) fun worklog w₂ hj hstored => ?_
        exact ⟨hleft worklog (hj ▸ hremoved), hstored⟩
      · rintro err w₁ ⟨hremoved, honly⟩
        refine cleared_tells (h.stored.onlyStale honly) fun worklog w₂ hj hstored => ?_
        exact hremoved.imp_right fun hremoved => ⟨hleft worklog (hj ▸ hremoved), hstored⟩
  · next hstays =>
      exact ⟨h.tells.next (.nothing (by simp [Account.Leaving, hstays])), h.stored⟩

theorem book_tells {r : Route} (hs : s.SameCatalog w.store)
    (hr : s.bookingRoute? e.project = some r)
    (hP : ∀ (e : TimeEntry) worklog, P (e.withWorklog worklog) = P e)
    (h : Told P id start none e w) :
    (book tracker id r).Leads
      (fun _ => Told (fun e => Account.Then (P e) (Account.Booking s e)) id start none)
      (Stopped (fun e => Account.Then (P e) (Account.Booking s e)) id start) e w := by
  rw [leads_book]
  split
  · next hempty =>
      exact ⟨h.tells.next (.nothing (by simp [Account.Booking, hr, hempty])), h.stored⟩
  · next hne =>
      have hbooked : ∀ {failure later} worklog,
          Tells (Account.Reaching s e.user r.id r.system) failure w.journal later →
          Tells (Account.Then (P (e.withWorklog worklog))
            (Account.Booking s (e.withWorklog worklog))) failure start later := by
        intro failure later worklog hreached
        rw [hP]
        refine h.tells.next (hreached.mono fun a ha => ?_)
        simpa [Account.Booking, Entry.withWorklog, hr, hne] using ha
      refine connect_tells hs ?_ ?_
      · intro c remote hmade
        refine writeWorklog_tells.mono ?_ ?_
        · rintro worklog w₂ ⟨hwritten, hstore⟩
          have hstored₂ : Stored id e w₂.store := hstore ▸ h.stored
          split
          · cases hsave : w₂.store.saveEntry id (e.withWorklog (some worklog)) with
            | error err => exact .inl ⟨err, rfl⟩
            | ok s' => exact ⟨hbooked _ (hmade hwritten), hstored₂.saved rfl hsave⟩
          · exact ⟨hbooked e.worklog (hmade hwritten), hstored₂⟩
        · rintro err w₂ ⟨hwritten, hstore⟩
          exact .inr ⟨hbooked e.worklog (hmade hwritten), hstore ▸ h.stored⟩
      · intro err w' hstore htold
        exact .inr ⟨hbooked e.worklog htold, hstore ▸ h.stored⟩

theorem finish_tells (hs : s.SameCatalog w.store)
    (hP : ∀ (e : TimeEntry) worklog, P (e.withWorklog worklog) = P e)
    (h : Told P id start none e w) :
    ((w.store.bookingRoute? e.project).elim (pure ()) (book tracker id)).Leads
      (fun _ => Told (fun e => Account.Then (P e) (Account.Booking s e)) id start none)
      (Stopped (fun e => Account.Then (P e) (Account.Booking s e)) id start) e w := by
  rw [hs.bookingRoute?_eq]
  cases hr : s.bookingRoute? e.project with
  | none => exact ⟨h.tells.next (.nothing (by simp [Account.Booking, hr])), h.stored⟩
  | some r => exact book_tells hs hr hP h

theorem reconcile_tells {previous : Option TimeEntry} (hs : s.SameCatalog w.store)
    (hstale : w.store.stale = s.stale) (hproject : s.project? e.project ≠ none)
    (hstored : Stored id e w.store) (huser : ∀ p ∈ previous, p.user = e.user) :
    (reconcile tracker id previous).Leads
      (fun _ => Told (Account.OfSave s previous) id w.journal none)
      (Stopped (Account.OfSave s previous) id w.journal) e w := by
  have hpending : Account.pending w.store e.user = Account.pending s e.user := by
    rw [Account.pending, Store.pendingOf, hstale]
    rfl
  have hothers : OthersPending e.user s w := fun r _ => by rw [hstale]
  refine reconcile_stages huser
    (A := fun e' w' => Told (Account.Opening s) id w.journal none e' w' ∧
      OthersPending e.user s w')
    (B := Told (fun e => Account.Then (Account.Opening s e) (Account.Leaving s previous e)) id
      w.journal none)
    (((settle_tells hs hpending hproject hstored).and
      (settle_keeps othersPending_bearsCall.settling ⟨rfl, hothers⟩)).mono ?_ ?_) ?_ ?_ ?_
  · rintro route e₁ w₁ ⟨htold, ⟨-, hothers₁⟩, -⟩
    exact ⟨htold, hothers₁⟩
  · rintro err e₁ w₁ ⟨hstopped, -⟩
    exact hstopped.mono fun h => h.stop.stop
  · rintro rfl e₁ w₁ ⟨htold, -⟩
    exact htold.mono fun h => h.next (.nothing rfl)
  · rintro p hp e₁ w₁ ⟨htold, hothers₁⟩ hsame hnone
    obtain rfl : previous = some p := hp
    have hpuser : p.user = e.user := huser p rfl
    refine (leaveTicket_tells (hs.trans hsame.catalog) (hpuser ▸ hothers₁) (hpuser ▸ hnone)
      (fun _ _ => rfl) htold).mono (fun _ _ _ h => h) ?_
    exact fun _ _ _ hstopped => hstopped.mono fun h => h.stop
  · intro e₁ w₁ htold hsame _
    exact finish_tells (hs.trans hsame.catalog) (fun _ _ => rfl) htold

theorem reports_of_outlives {phase : Phase} {P : Account → Prop} {alert : Option Alert}
    {later : List Exchange} (htold : Tells P failure start later)
    (h : OutlivesClasses (failure.map (Alert.mk phase)) alert) :
    (∃ a, alert = some a ∧ a.error.IsStorage) ∨ Reports phase P alert start later := by
  rcases h with rfl | ⟨-, err, rfl⟩
  · obtain ⟨a, hj, hP, rfl⟩ := htold
    exact .inr ⟨a, hj, hP, rfl⟩
  · exact .inl ⟨_, rfl, err, rfl⟩

theorem stored_bearsClasses :
    BearsClasses fun w : World σ => ∃ kind, Stored id (e.withKind kind) w.store := by
  rintro w s changed kind ⟨kind₀, hstored⟩ hs
  exact hstored.saveClass hs

/-- Of the entry only the class can be another when it is read at the end. -/
theorem followUp_tells {previous : Option TimeEntry}
    (h : (reconcile tracker id previous).Leads
      (fun _ => Told (Account.OfSave s previous) id start none)
      (Stopped (Account.OfSave s previous) id start) e w) :
    (followUp tracker user id e previous).Leads
      (fun saved w' => StorageFailed (.ok saved) ∨
        Reports .sync (Account.OfSave s previous saved.entry) saved.alert start w'.journal)
      (fun _ _ => True) w := by
  have hends : ∀ {failure : Option SyncError} {alert e₁} {w₁ : World σ},
      Told (Account.OfSave s previous) id start failure e₁ w₁ →
      OutlivesClasses (failure.map (Alert.mk .sync)) alert →
      (reload id alert).Leads
        (fun saved w' => StorageFailed (.ok saved) ∨
          Reports .sync (Account.OfSave s previous saved.entry) saved.alert start w'.journal)
        (fun _ _ => True) (w₁.put (w₁.store.reclassifyDays user e previous)) := by
    intro failure alert e₁ w₁ htold halert
    obtain ⟨kind, hstored⟩ : ∃ kind, Stored id (e₁.withKind kind)
        (w₁.store.reclassifyDays user e previous) :=
      reclassifyDays_keeps stored_bearsClasses ⟨e₁.kind, htold.stored⟩ e previous
    rw [leads_reload, World.put_store, hstored.entryAt]
    exact reports_of_outlives htold.tells halert
  apply leads_followUp
  refine h.mono ?_ ?_
  · exact fun _ e₁ w₁ htold alert halert => hends htold halert
  · rintro err e₁ w₁ (hstorage | htold)
    · rw [leads_reload]
      split
      · trivial
      · trivial
      · exact .inl ⟨_, rfl, hstorage⟩
    · exact hends htold (.inl rfl)

theorem Accepted.replaced?_eq {input : EntryInput} {target : Option EntryId} {s s' : Store}
    {r : EntryId × TimeEntry × Option TimeEntry} (h : Accepted s user input target r s') :
    s.replaced? target = r.2.2 := by
  cases h with
  | new => rfl
  | edited row => exact Store.replaced?_eq_some.mpr row

theorem save_tells {target : Option EntryId} {input : EntryInput} :
    (save tracker user target input).Leads
      (fun saved w' => StorageFailed (.ok saved) ∨
        Reports .sync (Account.OfSave w.store (w.store.replaced? target) saved.entry) saved.alert
          w.journal w'.journal)
      (fun _ _ => True) w := by
  unfold save
  rw [leads_bind]
  refine accept_stores.mono ?_ (fun _ _ _ => trivial)
  rintro r _ ⟨s, haccepted, rfl⟩
  have hproject : w.store.project? r.2.1.project ≠ none := by
    have hallowed := haccepted.stored.allowed
    rw [haccepted.sameCatalog.allowsEntry_eq] at hallowed
    simp only [Store.allowsEntry, Bool.and_eq_true] at hallowed
    exact Option.isSome_iff_ne_none.mp hallowed.1.1.2
  rw [haccepted.replaced?_eq]
  exact followUp_tells (reconcile_tells haccepted.sameCatalog haccepted.stale_eq hproject
    haccepted.stored haccepted.previous_user)

theorem delete_tells :
    (delete tracker user id).Leads
      (fun alert w' => ∃ e, w.store.entryAt id = .ok (some e) ∧
        ((∃ a, alert = some a ∧ a.error.IsStorage) ∨
          Reports .removal (Account.OfDelete w.store e) alert w.journal w'.journal))
      (fun _ _ => True) w := by
  unfold delete
  rw [leads_bind, leads_ownEntry]
  rcases hrow : w.store.entryAt id with err | _ | e
  · trivial
  · trivial
  dsimp only
  split
  · rw [leads_bind, leads_alerting]
    refine (removeWorklog_tells (.refl _) fun _ _ => Iff.rfl).mono ?_ ?_
    · intro _ w₁ htold
      rw [leads_bind, leads_change]
      apply leads_alertingReclassify
      exact fun alert halert => ⟨e, rfl, reports_of_outlives htold halert⟩
    · intro err w₁ hstopped
      rw [leads_bind, leads_change]
      apply leads_alertingReclassify
      intro alert halert
      rcases hstopped with hstorage | htold
      · exact ⟨e, rfl, .inl ⟨_, OutlivesClasses.some_iff.mp halert, hstorage⟩⟩
      · exact ⟨e, rfl, reports_of_outlives htold halert⟩
  · trivial

end Sync

variable {σ : Type}

/-- No failure on the remote side is silent. As long as the storage does not fail, a save gives an
alert when anything failed on the way, for want of a token or of a route included, and then the
alert tells the first failure; otherwise it gives none. The same holds of a deletion. The user is
to authorize anew exactly when a token is missing or was turned down. -/
theorem alert_tells_first_failure (tracker : Tracker σ) (user : UserId) (w : World σ) :
    (∀ target input saved w',
      Sync.outcome (Sync.save tracker user target input) w = (.ok saved, w') →
      (∀ a, saved.alert = some a → ¬ a.error.IsStorage) →
      Reports .sync (Account.OfSave w.store (w.store.replaced? target) saved.entry) saved.alert
        w.journal w'.journal) ∧
    (∀ id alert w', Sync.outcome (Sync.delete tracker user id) w = (.ok alert, w') →
      (∀ a, alert = some a → ¬ a.error.IsStorage) →
      ∃ e, w.store.entryAt id = .ok (some e) ∧
        Reports .removal (Account.OfDelete w.store e) alert w.journal w'.journal) ∧
    ∀ a : Alert, a.reauthenticate ↔
      (∃ holder system, a.error = .missingToken holder system) ∨
        ∃ detail, a.error = .tracker (.unauthorized detail) := by
  refine ⟨?_, ?_, ?_⟩
  · intro target input saved w' hrun hstorage
    rcases Sync.save_tells.of_ok hrun with ⟨a, ha, hfailed⟩ | hreports
    · exact absurd hfailed (hstorage a ha)
    · exact hreports
  · intro id alert w' hrun hstorage
    obtain ⟨e, hrow, ⟨a, ha, hfailed⟩ | hreports⟩ := Sync.delete_tells.of_ok hrun
    · exact absurd hfailed (hstorage a ha)
    · exact ⟨e, hrow, hreports⟩
  · rintro ⟨phase, err⟩
    unfold Alert.reauthenticate SyncError.needsAuthorization
    split <;> simp_all

/-- The office after an entry was booked there. Its work-log cannot be deleted. -/
def bookedOffice : World InMemory := stubbornOffice.next (.call (saveOnTicket none "A-1"))

def refusedMove : Except SyncError Saved × World InMemory :=
  Sync.outcome (Sync.save InMemory.tracker ⟨1⟩ (some ⟨1⟩) onOtherTicket) bookedOffice

def refusedDeletion : Except SyncError (Option Alert) × World InMemory :=
  Sync.outcome (Sync.delete InMemory.tracker ⟨1⟩ ⟨1⟩) bookedOffice

def movedInVain : Saved :=
  { id := ⟨1⟩, entry := onOtherTicket.newEntry ⟨1⟩
    alert := some ⟨.sync, .tracker (.failed "refused" [])⟩ }

/-- The entry is moved or deleted, and the tracker refuses to delete its work-log. -/
theorem alert_tells_first_failure_refused :
    refusedMove.1 = .ok movedInVain ∧
      Reports .sync (Account.OfSave bookedOffice.store (bookedOffice.store.replaced? (some ⟨1⟩))
        movedInVain.entry) movedInVain.alert bookedOffice.journal refusedMove.2.journal ∧
      refusedDeletion.1 = .ok (some ⟨.removal, .tracker (.failed "refused" [])⟩) ∧
      ∃ e, bookedOffice.store.entryAt ⟨1⟩ = .ok (some e) ∧
        Reports .removal (Account.OfDelete bookedOffice.store e)
          (some ⟨.removal, .tracker (.failed "refused" [])⟩) bookedOffice.journal
          refusedDeletion.2.journal := by
  have hmove : refusedMove.1 = .ok movedInVain := by decide +kernel
  have hdelete : refusedDeletion.1 = .ok (some ⟨.removal, .tracker (.failed "refused" [])⟩) := by
    decide +kernel
  obtain ⟨hsaves, hdeletions, -⟩ := alert_tells_first_failure InMemory.tracker ⟨1⟩ bookedOffice
  refine ⟨hmove, ?_, hdelete, ?_⟩
  · exact hsaves (some ⟨1⟩) onOtherTicket movedInVain refusedMove.2 (Prod.ext hmove rfl)
      (by simp [movedInVain, SyncError.IsStorage])
  · exact hdeletions ⟨1⟩ _ refusedDeletion.2 (Prod.ext hdelete rfl)
      (by simp [SyncError.IsStorage])

end Timesheet
