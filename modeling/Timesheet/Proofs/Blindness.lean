import Timesheet.Proofs.Calls

/-!
Work that is blind to the tokens of others: what it gives, what it sends and what it leaves behind
is the same whichever tokens other users hold.

Each way of building work has a rule, as for what work leads to. From there on every function is
blind because of the parts that it is put together from. Only connecting looks at tokens.
-/
namespace Timesheet

variable {σ : Type}

namespace Store

/-- The store with these grants in place of its own. -/
def withGrants (s : Store) (grants : List Grant) : Store := { s with grants }

/-- Under these grants the `holders` hold the same tokens as in the store. -/
def SameTokens (s : Store) (holders : UserId → Prop) (grants : List Grant) : Prop :=
  ∀ user, holders user → ∀ system,
    (s.withGrants grants).token? user system = s.token? user system

theorem SameTokens.of_grants_eq {s s' : Store} {holders : UserId → Prop} {grants : List Grant}
    (h : s.SameTokens holders grants) (hs : s'.grants = s.grants) :
    s'.SameTokens holders grants := by
  intro user huser system
  have htoken : s'.token? user system = s.token? user system := by
    unfold token?
    rw [hs]
  rw [htoken]
  exact h user huser system

/-- The user leads the project. -/
def Led (s : Store) (id : ProjectId) (user : UserId) : Prop :=
  (s.project? id).bind (·.lead) = some user

end Store

def Exchange.withGrants (x : Exchange) (grants : List Grant) : Exchange :=
  { x with store := x.store.withGrants grants }

/-- The world as it would be if these grants had been in place all the time. -/
def World.withGrants (w : World σ) (grants : List Grant) : World σ :=
  { w with
    store := w.store.withGrants grants
    journal := w.journal.map fun x => x.withGrants grants }

theorem World.note_withGrants (w : World σ) (x : Exchange) (remote : σ) (grants : List Grant) :
    (w.note x remote).withGrants grants =
      (w.withGrants grants).note (x.withGrants grants) remote := by
  simp [World.withGrants, World.note]

namespace Sync

variable {α β : Type} {holders : UserId → Prop}

/-- With these grants in place of those of `w`, the work gives the same result, sends the same
requests through the same connections, gets the same replies, and leaves the same behind but for
the grants. -/
def SameUnder (grants : List Grant) (work : Sync σ α) (w : World σ) : Prop :=
  outcome work (w.withGrants grants) = ((outcome work w).1, (outcome work w).2.withGrants grants)

/-- The work keeps all grants, and what it does depends on no tokens but those of the `holders`. -/
structure Blind (holders : UserId → Prop) (work : Sync σ α) : Prop where
  keeps : ∀ w, (outcome work w).2.store.grants = w.store.grants
  same : ∀ {w : World σ} {grants}, w.store.SameTokens holders grants → SameUnder grants work w

theorem blind_pure (a : α) : Blind holders (pure a : Sync σ α) := ⟨fun _ => rfl, fun _ => rfl⟩

theorem blind_throw (e : SyncError) : Blind holders (throw e : Sync σ α) :=
  ⟨fun _ => rfl, fun _ => rfl⟩

/-- Only values that the work can give matter to what comes next. -/
theorem Blind.bind_of {work : Sync σ α} {next : α → Sync σ β} {P : α → Prop}
    (h : Blind holders work) (gives : ∀ w, work.Leads (fun a _ => P a) (fun _ _ => True) w)
    (hnext : ∀ a, P a → Blind holders (next a)) : Blind holders (work >>= next) := by
  constructor
  · intro w
    have hw := h.keeps w
    rw [outcome_bind]
    rcases hrun : outcome work w with ⟨_ | a, w'⟩
    · rwa [hrun] at hw
    · rw [hrun] at hw
      exact ((hnext a ((gives w).of_ok hrun)).keeps w').trans hw
  · intro w grants hgrants
    have hw := h.keeps w
    unfold SameUnder
    rw [outcome_bind, outcome_bind, h.same hgrants]
    rcases hrun : outcome work w with ⟨_ | a, w'⟩
    · rfl
    · rw [hrun] at hw
      exact (hnext a ((gives w).of_ok hrun)).same (hgrants.of_grants_eq hw)

theorem Blind.bind {work : Sync σ α} {next : α → Sync σ β} (h : Blind holders work)
    (hnext : ∀ a, Blind holders (next a)) : Blind holders (work >>= next) :=
  h.bind_of (P := fun _ => True) (fun _ => .anyway fun _ => ⟨fun _ => trivial, fun _ => trivial⟩)
    fun a _ => hnext a

theorem same_of_store {next : Store → Sync σ β} {w : World σ} {grants : List Grant}
    (hgrants : w.store.SameTokens holders grants) (h : Blind holders (next w.store))
    (hnext : next (w.store.withGrants grants) = next w.store) :
    SameUnder grants (store >>= next) w := by
  have hrun : ∀ w : World σ, outcome (store >>= next) w = outcome (next w.store) w := fun _ => rfl
  unfold SameUnder
  rw [hrun, hrun]
  show outcome (next (w.store.withGrants grants)) _ = _
  rw [hnext]
  exact h.same hgrants

theorem blind_store {next : Store → Sync σ β} (h : ∀ s, Blind holders (next s))
    (hnext : ∀ {s : Store} {grants}, s.SameTokens holders grants →
      next (s.withGrants grants) = next s) : Blind holders (store >>= next) where
  keeps w := (h w.store).keeps w
  same hgrants := same_of_store hgrants (h _) (hnext hgrants)

theorem blind_ofExcept (r : Except SyncError α) : Blind holders (liftM r : Sync σ α) := by
  cases r with
  | ok a => exact blind_pure a
  | error e => exact blind_throw e

theorem blind_of_statement {work : Sync σ α} (statement : Store → Except SyncError α × Store)
    (hrun : ∀ w, outcome work w = ((statement w.store).1, w.put (statement w.store).2))
    (h : ∀ s grants, statement (s.withGrants grants) =
      ((statement s).1, (statement s).2.withGrants grants)) : Blind holders work := by
  constructor
  · intro w
    rw [hrun]
    exact congrArg (fun r => r.2.grants) (h w.store w.store.grants)
  · intro w grants _
    unfold SameUnder
    rw [hrun, hrun]
    show ((statement (w.store.withGrants grants)).1,
      (w.withGrants grants).put (statement (w.store.withGrants grants)).2) = _
    rw [h]
    rfl

theorem blind_query {statement : Store → Except StorageError α}
    (h : ∀ s grants, statement (s.withGrants grants) = statement s) :
    Blind holders (query statement : Sync σ α) := by
  refine blind_store (fun s => ?_) fun {s grants} _ => by rw [h]
  cases statement s with
  | ok a => exact blind_pure a
  | error e => exact blind_throw _

theorem blind_insert {statement : Store → Except StorageError (α × Store)}
    (h : ∀ s grants, statement (s.withGrants grants) =
      (statement s).map fun r => (r.1, r.2.withGrants grants)) :
    Blind holders (insert statement : Sync σ α) := by
  refine blind_of_statement (fun s =>
    (((statement s).map (·.1)).mapError .storage, ((statement s).map (·.2)).toOption.getD s))
    (fun w => ?_) fun s grants => ?_
  · rw [insert, outcome_bind, outcome_store]
    dsimp only
    cases statement w.store <;> rfl
  · dsimp only
    rw [h]
    cases statement s <;> rfl

theorem blind_update {statement : Store → Except StorageError Store}
    (h : ∀ s grants, statement (s.withGrants grants) =
      (statement s).map fun s' => s'.withGrants grants) :
    Blind holders (update statement : Sync σ Unit) := by
  refine blind_of_statement (fun s =>
    (((statement s).map fun _ => ()).mapError .storage, (statement s).toOption.getD s))
    (fun w => ?_) fun s grants => ?_
  · rw [update, outcome_bind, outcome_store]
    dsimp only
    cases statement w.store <;> rfl
  · dsimp only
    rw [h]
    cases statement s <;> rfl

theorem blind_change {statement : Store → Store}
    (h : ∀ s grants, statement (s.withGrants grants) = (statement s).withGrants grants) :
    Blind holders (change statement : Sync σ Unit) :=
  blind_of_statement (fun s => (.ok (), statement s)) (fun _ => rfl) fun s grants => by rw [h]

theorem blind_ask {tracker : Tracker σ} (c : Connection) (r : Request) :
    Blind holders (ask tracker c r) := by
  constructor
  · intro w
    rfl
  · intro w grants _
    have hrun : ∀ w : World σ, outcome (ask tracker c r) w =
        (.ok (tracker c r w.remote).1, w.note ⟨c, r, (tracker c r w.remote).1, w.store⟩
          (tracker c r w.remote).2) := fun _ => rfl
    unfold SameUnder
    rw [hrun, hrun, World.note_withGrants]
    rfl

theorem blind_send {tracker : Tracker σ} (c : Connection) (r : Request) :
    Blind holders (send tracker c r) := by
  refine (blind_ask c r).bind fun reply => ?_
  cases reply with
  | ok answer => exact blind_pure answer
  | error e => exact blind_throw _

theorem Blind.attempt {work : Sync σ α} (h : Blind holders work) :
    Blind holders (attempt work) := by
  have hrun : ∀ w : World σ,
      outcome (Sync.attempt work) w = (.ok (outcome work w).1, (outcome work w).2) := fun _ => rfl
  constructor
  · intro w
    rw [hrun]
    exact h.keeps w
  · intro w grants hgrants
    unfold SameUnder
    rw [hrun, hrun, h.same hgrants]

theorem Blind.mapM {f : α → Sync σ β} (h : ∀ a, Blind holders (f a)) (l : List α) :
    Blind holders (l.mapM f) := by
  induction l with
  | nil => exact blind_pure []
  | cons a rest ih =>
      rw [List.mapM_cons]
      exact (h a).bind fun b => ih.bind fun bs => blind_pure (b :: bs)

namespace Working

/-- On an entry of one of the `holders` the work stays with such an entry, keeps all grants, and
depends on no tokens but those of the `holders`. -/
structure Blind (holders : UserId → Prop) (work : Working σ α) : Prop where
  owner : ∀ {e : TimeEntry} {w}, holders e.user → holders ((work.run.run e).run w).1.2.user
  keeps : ∀ {e : TimeEntry} {w : World σ}, holders e.user →
    ((work.run.run e).run w).2.store.grants = w.store.grants
  same : ∀ {e : TimeEntry} {w : World σ} {grants}, holders e.user →
    w.store.SameTokens holders grants → (work.run.run e).run (w.withGrants grants) =
      (((work.run.run e).run w).1, ((work.run.run e).run w).2.withGrants grants)

theorem blind_pure (a : α) : Blind holders (pure a : Working σ α) where
  owner h := h
  keeps _ := rfl
  same _ _ := rfl

theorem blind_throw (e : SyncError) : Blind holders (throw e : Working σ α) where
  owner h := h
  keeps _ := rfl
  same _ _ := rfl

theorem blind_ofExcept (r : Except SyncError α) : Blind holders (liftM r : Working σ α) := by
  cases r with
  | ok a => exact blind_pure a
  | error e => exact blind_throw e

theorem Blind.bind {work : Working σ α} {next : α → Working σ β} (h : Blind holders work)
    (hnext : ∀ a, Blind holders (next a)) : Blind holders (work >>= next) := by
  constructor
  · intro e w he
    have howner := h.owner (w := w) he
    rw [run_bind]
    rcases hrun : (work.run.run e).run w with ⟨⟨_ | a, e'⟩, w'⟩
    · rwa [hrun] at howner
    · rw [hrun] at howner
      exact (hnext a).owner howner
  · intro e w he
    have howner := h.owner (w := w) he
    have hw := h.keeps (w := w) he
    rw [run_bind]
    rcases hrun : (work.run.run e).run w with ⟨⟨_ | a, e'⟩, w'⟩
    · rwa [hrun] at hw
    · rw [hrun] at howner hw
      exact ((hnext a).keeps howner).trans hw
  · intro e w grants he hgrants
    have howner := h.owner (w := w) he
    have hw := h.keeps (w := w) he
    rw [run_bind, run_bind, h.same he hgrants]
    rcases hrun : (work.run.run e).run w with ⟨⟨_ | a, e'⟩, w'⟩
    · rfl
    · rw [hrun] at howner hw
      exact (hnext a).same howner (hgrants.of_grants_eq hw)

theorem blind_get {next : TimeEntry → Working σ β}
    (h : ∀ e, holders e.user → Blind holders (next e)) : Blind holders (get >>= next) where
  owner he := (h _ he).owner he
  keeps he := (h _ he).keeps he
  same he hgrants := (h _ he).same he hgrants

theorem blind_set {e : TimeEntry} (h : holders e.user) :
    Blind holders (set e : Working σ PUnit) where
  owner _ := h
  keeps _ := rfl
  same _ _ := rfl

theorem blind_lift {work : Sync σ α} (h : Sync.Blind holders work) : Blind holders (lift work) where
  owner he := he
  keeps {e w} _ := h.keeps w
  same {e w grants} _ hgrants := by
    have hrun : ∀ w : World σ, ((lift work).run.run e).run w =
        (((outcome work w).1, e), (outcome work w).2) := fun _ => rfl
    rw [hrun, hrun, h.same hgrants]

theorem Blind.on {work : Working σ α} {e : TimeEntry} (h : Blind holders work)
    (he : holders e.user) : Sync.Blind holders (work.on e) where
  keeps w := h.keeps he
  same {w grants} hgrants := by
    have hrun : ∀ w : World σ, outcome (work.on e) w =
        (((work.run.run e).run w).1.1, ((work.run.run e).run w).2) := fun _ => rfl
    unfold SameUnder
    rw [hrun, hrun, h.same he hgrants]

end Working

end Sync

namespace Store

variable (s : Store) (grants : List Grant)

theorem saveEntry_withGrants (id : EntryId) (e : TimeEntry) :
    (s.withGrants grants).saveEntry id e =
      (s.saveEntry id e).map fun s' => s'.withGrants grants := by
  unfold saveEntry
  rw [apply_ite (Except.map _), apply_ite (Except.map _), apply_ite (Except.map _)]
  rfl

theorem saveClass_withGrants (id : EntryId) (kind : EntryClass) :
    (s.withGrants grants).saveClass id kind =
      (s.saveClass id kind).map fun s' => s'.withGrants grants := by
  unfold saveClass saveCode
  rw [apply_ite (Except.map _), apply_ite (Except.map _)]
  rfl

theorem insertEntry_withGrants (e : TimeEntry) :
    (s.withGrants grants).insertEntry e =
      (s.insertEntry e).map fun r => (r.1, r.2.withGrants grants) := by
  unfold insertEntry
  rw [apply_ite (Except.map _)]
  rfl

theorem recordStale_withGrants (d : StaleWorklog) :
    (s.withGrants grants).recordStale d =
      (s.recordStale d).map fun s' => s'.withGrants grants := by
  unfold recordStale
  rw [apply_ite (Except.map _), apply_ite (Except.map _)]
  rfl

theorem saveProject_withGrants (id : ProjectId) (p : Project) :
    (s.withGrants grants).saveProject id p =
      (s.saveProject id p).map fun s' => s'.withGrants grants := by
  unfold saveProject
  rw [apply_ite (Except.map _), apply_ite (Except.map _)]
  rfl

theorem writeAll_withGrants (changes : List (EntryId × EntryClass)) (n : Nat) :
    reclassifyDay.writeAll changes n (s.withGrants grants) =
      ((reclassifyDay.writeAll changes n s).1,
        (reclassifyDay.writeAll changes n s).2.withGrants grants) := by
  induction changes generalizing s n with
  | nil => rfl
  | cons change rest ih =>
      obtain ⟨id, kind⟩ := change
      unfold reclassifyDay.writeAll
      rw [saveClass_withGrants]
      cases s.saveClass id kind with
      | error err => rfl
      | ok s' => exact ih s' (n + 1)

theorem reclassifyDay_withGrants (user : UserId) (day : Date) :
    (s.withGrants grants).reclassifyDay user day =
      ((s.reclassifyDay user day).1, (s.reclassifyDay user day).2.withGrants grants) := by
  have hday : (s.withGrants grants).dayEntries user day = s.dayEntries user day := rfl
  unfold reclassifyDay
  rw [hday]
  cases s.dayEntries user day with
  | error err => rfl
  | ok entries => exact writeAll_withGrants s grants _ 0

end Store

namespace Sync

variable {tracker : Tracker σ} {holders : UserId → Prop} {user : UserId} {id : EntryId}
  {e p : TimeEntry}

theorem connect_blind (h : holders user) (system : SystemId) (target : TicketSystem) :
    Blind holders (connect tracker user system target) := by
  unfold connect
  refine blind_store (fun s => ?_) fun hgrants => by rw [hgrants user h system]; rfl
  cases s.token? user system with
  | none => exact blind_throw _
  | some token => exact (blind_send _ _).bind fun _ => blind_pure _

theorem deletePending_blind {stale : StaleId} {d : StaleWorklog} (hd : holders d.user) :
    Blind holders (deletePending tracker stale d) := by
  have hforget : Blind holders (change (Store.forgetStale stale) : Sync σ Unit) :=
    blind_change fun _ _ => rfl
  unfold deletePending
  refine blind_store (fun s => ?_) fun _ => rfl
  cases s.system? d.system with
  | none => exact hforget
  | some system =>
      refine (connect_blind hd _ _).bind fun c => (blind_ask _ _).bind fun reply => ?_
      rcases reply with err | answer
      · cases err with
        | missing what => exact hforget
        | unauthorized detail => exact blind_throw _
        | failed text causes => exact blind_throw _
      · exact hforget

theorem deleteAll_blind {rows : List (StaleId × StaleWorklog)}
    (hrows : ∀ r ∈ rows, holders r.2.user) : Blind holders (deleteAll tracker rows) := by
  induction rows with
  | nil => exact blind_pure none
  | cons row rest ih =>
      obtain ⟨hfirst, hrest⟩ := List.forall_mem_cons.mp hrows
      unfold deleteAll
      refine (deletePending_blind hfirst).attempt.bind fun first => (ih hrest).bind fun later => ?_
      cases first <;> exact blind_pure _

theorem retryPending_blind (h : holders user) : Blind holders (retryPending tracker user) := by
  unfold retryPending
  refine blind_store (fun s => ?_) fun _ => rfl
  refine (deleteAll_blind fun r hr => (Store.mem_pendingOf.mp hr).2 ▸ h).bind fun failure => ?_
  cases failure with
  | none => exact blind_pure ()
  | some err => exact blind_throw err

theorem bookingRoute_blind (project : Project) :
    Blind holders (bookingRoute project : Sync σ (Option Route)) := by
  unfold bookingRoute
  refine blind_store (fun s => ?_) fun _ => rfl
  exact (blind_ofExcept _).bind fun route => blind_pure _

theorem removeWorklog_blind (he : holders e.user) : Blind holders (removeWorklog tracker e) := by
  unfold removeWorklog
  rcases e.worklog with _ | worklog
  · exact blind_pure ()
  dsimp only
  split
  · exact blind_pure ()
  · refine blind_store (fun s => ?_) fun _ => rfl
    rcases s.project? e.project with _ | project
    · exact blind_pure ()
    refine (bookingRoute_blind project).bind fun route => ?_
    rcases route with _ | route
    · exact blind_pure ()
    exact (blind_update fun s grants => s.recordStale_withGrants grants _).bind fun _ =>
      retryPending_blind he

theorem internalIssue_blind (c : Connection) (key : String) (draft : IssueDraft) :
    Blind holders (internalIssue tracker c key draft) := by
  unfold internalIssue
  refine (blind_send _ _).bind fun found => ?_
  cases issueOf draft.summary found with
  | none => exact blind_send _ _
  | some issue => exact blind_pure _

theorem writeWorklog_blind (c : Connection) (content : WorklogDraft) :
    Blind holders (writeWorklog tracker c e content) := by
  unfold writeWorklog
  rcases e.worklog with _ | worklog
  · exact blind_send _ _
  · refine (blind_ask _ _).bind fun reply => ?_
    rcases reply with err | answer
    · cases err with
      | missing what => exact blind_send _ _
      | unauthorized detail => exact blind_throw _
      | failed text causes => exact blind_throw _
    · exact blind_pure _

theorem Working.blind_save : Working.Blind holders (Working.save id : Working σ Unit) :=
  blind_get fun e _ => blind_lift (blind_update fun s grants => s.saveEntry_withGrants grants id e)

theorem Working.blind_set_save (he : holders e.user) :
    Working.Blind holders (do set e; Working.save id : Working σ Unit) :=
  (blind_set he).bind fun _ => blind_save

theorem resolveInternal_blind (route : Route) (key : String) :
    Working.Blind holders (resolveInternal tracker id route key) := by
  unfold resolveInternal
  refine Working.blind_get fun e he => ?_
  dsimp only
  split
  · exact Working.blind_pure ()
  · refine Working.Blind.bind (Working.blind_lift ?_) fun ticket => ?_
    · exact (connect_blind he _ _).bind fun c => internalIssue_blind c key _
    · apply Working.blind_set_save
      exact he

theorem settle_blind : Working.Blind holders (settle tracker id) := by
  unfold settle
  refine Working.blind_get fun e he => ?_
  refine Working.Blind.bind (Working.blind_lift ?_) fun route => ?_
  · refine (retryPending_blind he).bind fun _ => blind_store (fun s => ?_) fun _ => rfl
    rcases s.project? e.project with _ | project
    · exact blind_throw _
    · exact bookingRoute_blind project
  · rcases route with _ | r
    · exact Working.blind_pure none
    · rcases hkey : r.internalKey with _ | key
      · simp only [hkey]
        exact Working.blind_pure (some r)
      · simp only [hkey]
        exact (resolveInternal_blind r key).bind fun _ => Working.blind_pure (some r)

theorem leaveTicket_blind (hp : holders p.user) :
    Working.Blind holders (leaveTicket tracker id p) := by
  unfold leaveTicket
  refine Working.blind_get fun e he => ?_
  split
  · refine Working.Blind.bind (Working.blind_lift (removeWorklog_blind hp).attempt)
      fun removed => ?_
    dsimp only
    split
    · refine Working.Blind.bind (Working.blind_set ?_) fun _ => Working.blind_save.bind fun _ =>
        Working.blind_ofExcept removed
      exact he
    · exact Working.blind_ofExcept removed
  · exact Working.blind_pure ()

theorem book_blind (route : Route) : Working.Blind holders (book tracker id route) := by
  unfold book
  refine Working.blind_get fun e he => ?_
  split
  · exact Working.blind_pure ()
  · refine Working.Blind.bind (Working.blind_lift ?_) fun worklog => ?_
    · refine (connect_blind he _ _).bind fun c => blind_store (fun s => ?_) fun _ => rfl
      exact writeWorklog_blind c _
    · split
      · apply Working.blind_set_save
        exact he
      · exact Working.blind_pure ()

theorem reconcile_blind {previous : Option TimeEntry} (hp : ∀ p ∈ previous, holders p.user) :
    Working.Blind holders (reconcile tracker id previous) := by
  unfold reconcile
  refine settle_blind.bind fun route => ?_
  cases previous with
  | none =>
      cases route with
      | none => exact Working.blind_pure ()
      | some r => exact book_blind r
  | some p =>
      refine (leaveTicket_blind (hp p rfl)).bind fun _ => ?_
      cases route with
      | none => exact Working.blind_pure ()
      | some r => exact book_blind r

theorem ownEntry_blind : Blind holders (ownEntry user id : Sync σ TimeEntry) := by
  unfold ownEntry
  refine (blind_query fun _ _ => rfl).bind fun found => ?_
  rcases found with _ | e
  · exact blind_throw _
  · dsimp only
    split
    · exact blind_throw _
    · exact blind_pure e

theorem storeEntry_blind {input : EntryInput} (previous : Option (EntryId × TimeEntry)) :
    Blind holders (storeEntry user input previous : Sync σ (EntryId × TimeEntry)) := by
  unfold storeEntry
  rcases previous with _ | ⟨id, p⟩
  · exact (blind_insert fun s grants => s.insertEntry_withGrants grants _).bind fun _ =>
      blind_pure _
  · exact (blind_update fun s grants => s.saveEntry_withGrants grants id _).bind fun _ =>
      blind_pure _

theorem accept_blind (target : Option EntryId) (input : EntryInput) :
    Blind holders (accept user target input :
      Sync σ (EntryId × TimeEntry × Option TimeEntry)) := by
  have hstore : ∀ previous : Option (EntryId × TimeEntry), Blind holders (do
      input.check (← store)
      let r ← storeEntry user input previous
      return (r.1, r.2, previous.map (·.2)) : Sync σ (EntryId × TimeEntry × Option TimeEntry)) := by
    intro previous
    refine blind_store (fun s => ?_) fun _ => rfl
    exact (blind_ofExcept _).bind fun _ => (storeEntry_blind previous).bind fun r => blind_pure _
  unfold accept
  cases target with
  | none => exact hstore none
  | some id =>
      exact ownEntry_blind.bind fun p => hstore (some (id, p))

theorem alerting_blind {phase : Phase} {work : Sync σ Unit} (h : Blind holders work) :
    Blind holders (alerting phase work) := by
  unfold alerting
  refine h.attempt.bind fun result => ?_
  cases result <;> exact blind_pure _

theorem reclassify_blind (day : Date) : Blind holders (reclassify user day : Sync σ Nat) := by
  refine blind_of_statement (fun s =>
    ((s.reclassifyDay user day).1.mapError .storage, (s.reclassifyDay user day).2)) (fun w => ?_)
    fun s grants => ?_
  · rw [reclassify, outcome_bind, outcome_store]
    dsimp only
    rw [outcome_bind]
    rcases w.store.reclassifyDay user day with ⟨_ | _, s⟩ <;> rfl
  · rw [s.reclassifyDay_withGrants]

theorem alertingReclassify_blind (day : Date) (earlier : Option Alert) :
    Blind holders (alertingReclassify user day earlier : Sync σ (Option Alert)) := by
  unfold alertingReclassify
  exact (alerting_blind ((reclassify_blind day).bind fun _ => blind_pure ())).bind fun later =>
    blind_pure _

theorem alertingReclassifyDays_blind (previous : Option TimeEntry) (earlier : Option Alert) :
    Blind holders (alertingReclassifyDays user e previous earlier : Sync σ (Option Alert)) := by
  unfold alertingReclassifyDays
  refine (alertingReclassify_blind _ _).bind fun alert => ?_
  rcases previous with _ | p
  · exact blind_pure alert
  · dsimp only
    split
    · exact blind_pure alert
    · exact alertingReclassify_blind _ _

theorem reload_blind (alert : Option Alert) : Blind holders (reload id alert : Sync σ Saved) := by
  unfold reload
  refine (blind_query fun _ _ => rfl).bind fun found => ?_
  cases found with
  | none => exact blind_throw _
  | some e => exact blind_pure _

theorem followUp_blind {previous : Option TimeEntry} (he : holders e.user)
    (hp : ∀ p ∈ previous, holders p.user) :
    Blind holders (followUp tracker user id e previous) := by
  unfold followUp
  refine (alerting_blind ((reconcile_blind hp).on he)).bind fun alert => ?_
  exact (alertingReclassifyDays_blind previous alert).bind fun alert' => reload_blind alert'

theorem save_blind (h : holders user) (target : Option EntryId) (input : EntryInput) :
    Blind holders (save tracker user target input) := by
  have hgives : ∀ w : World σ, (accept user target input).Leads
      (fun r _ => holders r.2.1.user ∧ ∀ p ∈ r.2.2, holders p.user) (fun _ _ => True) w := by
    refine fun w => accept_stores.mono ?_ fun _ _ _ => trivial
    rintro r _ ⟨s, haccepted, -⟩
    have huser : holders r.2.1.user := haccepted.user_eq ▸ h
    exact ⟨huser, fun p hp => haccepted.previous_user p hp ▸ huser⟩
  unfold save
  refine (accept_blind target input).bind_of hgives fun r hr => ?_
  exact followUp_blind hr.1 hr.2

theorem delete_blind (h : holders user) (id : EntryId) :
    Blind holders (delete tracker user id) := by
  have hgives : ∀ w : World σ, (ownEntry user id).Leads (fun e _ => holders e.user)
      (fun _ _ => True) w := by
    intro w
    rw [leads_ownEntry]
    rcases w.store.entryAt id with err | _ | e
    · trivial
    · trivial
    · dsimp only
      split
      · next hown => exact hown ▸ h
      · trivial
  unfold delete
  refine ownEntry_blind.bind_of hgives fun e he => ?_
  refine (alerting_blind (removeWorklog_blind he)).bind fun alert => ?_
  exact (blind_change fun _ _ => rfl).bind fun _ => alertingReclassify_blind _ _

theorem bulkCreate_blind (h : holders user) (template : EntryInput) (range : BulkRange) :
    Blind holders (bulkCreate tracker user template range) := by
  unfold bulkCreate
  split
  · exact blind_throw _
  · exact Blind.mapM (fun day => save_blind h none { template with day }) _

theorem gather_blind (c : Connection) (mains : List String) :
    Blind holders (gather tracker c mains) := by
  induction mains with
  | nil => exact blind_pure []
  | cons main rest ih =>
      unfold gather
      exact (blind_send _ _).bind fun children => ih.bind fun others => blind_pure _

theorem update_saveProject_blind (id : ProjectId) (p : Project) :
    Blind holders (update (Store.saveProject id p) : Sync σ Unit) :=
  blind_update fun s grants => s.saveProject_withGrants grants id p

theorem resolveSubtickets_same {id : ProjectId} {w : World σ} {grants : List Grant}
    (h : w.store.SameTokens (w.store.Led id) grants) :
    SameUnder grants (resolveSubtickets tracker id) w := by
  unfold resolveSubtickets
  apply same_of_store h
  · rcases w.store.project? id with _ | project
    · exact blind_throw _
    rcases hsystem : project.system with _ | systemId
    · simp only [hsystem]
      exact blind_throw _
    simp only [hsystem]
    rcases w.store.system? systemId with _ | system
    · exact blind_throw _
    dsimp only
    split
    · split
      · exact (update_saveProject_blind id _).bind fun _ => blind_pure []
      · exact blind_pure []
    · rcases project.lead with _ | lead
      · exact blind_throw _
      dsimp only
      rcases w.store.user? lead with _ | user
      · exact blind_throw _
      dsimp only
      rcases w.store.token? lead systemId with _ | token
      · exact blind_throw _
      refine (blind_send _ _).bind fun _ => (gather_blind _ _).bind fun keys => ?_
      exact (update_saveProject_blind id _).bind fun _ => blind_pure _
  · have hprojects : (w.store.withGrants grants).project? id = w.store.project? id := rfl
    dsimp only
    rw [hprojects]
    rcases hproject : w.store.project? id with _ | project
    · rfl
    rcases hlead : project.lead with _ | lead
    · simp only [hlead]
      rfl
    · have hled : w.store.Led id lead := by
        unfold Store.Led
        rw [hproject]
        exact hlead
      simp only [hlead, h lead hled]
      rfl

end Sync

end Timesheet
