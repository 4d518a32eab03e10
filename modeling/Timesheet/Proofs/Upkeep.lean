import Timesheet.Proofs.Events
import Timesheet.Proofs.LocalResult
import Timesheet.Proofs.Validity

/-!
What holds of every row of the entries, and of every request, through whole histories. A row is
written in four ways: from an accepted input, with another class, with another work-log, and under
the ticket of the internal tracker. A property of single rows that outlives these outlives every
history, and with it all that such rows are asked for.
-/
namespace Timesheet

/-- Key of the internal project that is in charge of the project `id`. -/
def Store.internalKey? (s : Store) (id : ProjectId) : Option String :=
  (s.project? id).bind Project.internalProjectKey

theorem Store.SameCatalog.internalKey?_eq {s s' : Store} (h : s.SameCatalog s') (id : ProjectId) :
    s'.internalKey? id = s.internalKey? id := by
  rw [internalKey?, h.project?_eq, internalKey?]

theorem Route.internalKey_of_ofProject {s : Store} {p : Project} {r : Route}
    (h : Route.ofProject s p = .ok (some r)) : r.internalKey = p.internalProjectKey := by
  unfold Route.ofProject at h
  cases hkey : p.internalProjectKey with
  | some key =>
      rw [hkey] at h
      dsimp only at h
      split at h
      · cases h
        rfl
      · cases h
  | none =>
      rw [hkey] at h
      obtain ⟨id, -, hsystem⟩ := Option.bind_eq_some_iff.mp (Except.ok.inj h)
      obtain ⟨system, -, rfl⟩ := Option.map_eq_some_iff.mp hsystem
      rfl

theorem Exchange.Idle.not_looksUp {x : Exchange} (h : x.Idle) : ¬ x.request.LooksUp := by
  rcases h with hx | ⟨issue, hx⟩ <;> rw [hx] <;> exact nofun

/-- Key of the internal project that is in charge of what the action saves. -/
def Action.internalKey? (s : Store) : Action → Option String
  | .save _ input => s.internalKey? input.project
  | .delete _ => none
  | .bulk template _ => s.internalKey? template.project

def Event.internalKey? {σ : Type} (s : Store) : Event σ → Option String
  | .call c => c.action.internalKey? s
  | _ => none

/-- `P` outlives what is done to a row once it is stored, while the project `key` of the internal
tracker is in charge, and each request that is sent on behalf of a row that is `P` is `Q`. -/
structure Outlasts (P : EntryId → StoredEntry → Prop) (Q : Request → Prop) (key : Option String) :
    Prop where
  kind : ∀ {id e} (kind : Int), P id e → P id (e.withKind kind)
  worklog : ∀ {id e} worklog, P id (Entry.stored e) → P id (Entry.stored (e.withWorklog worklog))
  retitled : ∀ {id e project} ticket, key = some project → P id (Entry.stored e) →
    Sync.identifier e ≠ "" → P id (Entry.stored (e.retitled (Sync.identifier e) ticket))
  search : ∀ {id e project}, key = some project → P id (Entry.stored e) →
    Sync.identifier e ≠ "" →
    Q (.search (Sync.internalQuery project (Sync.identifier e)) ["key", "summary"]
      Sync.internalSearchLimit)
  opened : ∀ {id e project}, key = some project → P id (Entry.stored e) →
    Sync.identifier e ≠ "" → Q (.createIssue project ⟨Sync.identifier e, e.description⟩)
  others : ∀ {r}, ¬ r.LooksUp → Q r

/-- Rows that accepted inputs write are `P`. -/
structure Admitted (P : EntryId → StoredEntry → Prop) : Prop where
  created : ∀ {id user s} {input : EntryInput}, input.check s = .ok () →
    P id (input.newEntry user).stored
  edited : ∀ {id p s} {input : EntryInput}, input.check s = .ok () → P id (Entry.stored p) →
    P id (input.applyTo p).stored

/-- Every row is `P`. Every request since `start` was `Q`. -/
structure Upheld {σ : Type} (P : EntryId → StoredEntry → Prop) (Q : Request → Prop)
    (start : List Exchange) (w : World σ) : Prop where
  rows : ∀ r ∈ w.store.entries.rows, P r.1 r.2
  sent : SentOnly (fun x => Q x.request) start w

variable {σ : Type} {P : EntryId → StoredEntry → Prop} {Q : Request → Prop} {key : Option String}
  {start : List Exchange} {id : EntryId} {e e' p : TimeEntry} {w : World σ} {s : Store}

namespace Upheld

theorem note {x : Exchange} (h : Upheld P Q start w) (remote : σ) (hx : Q x.request) :
    Upheld P Q start (w.note x remote) := ⟨h.rows, h.sent.note remote hx⟩

theorem onlyStale (h : Upheld P Q start w) (hs : w.store.OnlyStale s) :
    Upheld P Q start (w.put s) :=
  ⟨fun r hr => h.rows r (hs.entries_eq ▸ hr), h.sent.put s⟩

theorem saved (h : Upheld P Q start w) (he : P id e.stored)
    (hs : w.store.saveEntry id e = .ok s) : Upheld P Q start (w.put s) := by
  refine ⟨fun r hr => ?_, h.sent.put s⟩
  rw [World.put_store, Store.saveEntry_ok hs] at hr
  obtain ⟨row, hrow, hwritten⟩ := (w.store.entries.mem_modify).mp hr
  rw [hwritten]
  split
  · next hid => exact hid ▸ he
  · exact h.rows _ hrow

theorem erased (h : Upheld P Q start w) (id : EntryId) :
    Upheld P Q start (w.put (w.store.eraseEntry id)) :=
  ⟨fun r hr => h.rows r ((w.store.entries.mem_erase).mp hr).1, h.sent.put _⟩

theorem entry (h : Upheld P Q start w) (laws : Outlasts P Q key)
    (he : w.store.entryAt id = .ok (some e)) : P id e.stored := by
  obtain ⟨row, kind, hrow, rfl⟩ := Store.row_of_entryAt he
  exact laws.kind kind.code (h.rows _ hrow)

end Upheld

theorem Store.check_of_accept {user : UserId} {target : Option EntryId} {input : EntryInput}
    {r : (EntryId × TimeEntry × Option TimeEntry) × Store}
    (h : s.accept user target input = .ok r) : input.check s = .ok () := by
  unfold accept at h
  rcases target with _ | id
  · obtain ⟨_, hcheck, -⟩ := bind_ok_iff.mp h
    exact hcheck
  · obtain ⟨_, -, hrest⟩ := bind_ok_iff.mp h
    obtain ⟨_, hcheck, -⟩ := bind_ok_iff.mp hrest
    exact hcheck

namespace Sync

variable {tracker : Tracker σ} {user : UserId}

theorem accept_checks {target : Option EntryId} {input : EntryInput} :
    (accept user target input).Leads (fun _ _ => input.check w.store = .ok ()) (fun _ _ => True)
      w := by
  rw [leads_accept]
  cases haccept : w.store.accept user target input with
  | error err => trivial
  | ok r => exact Store.check_of_accept haccept

variable (laws : Outlasts P Q key)
include laws

theorem upheld_bearsRetry : BearsRetry user (Upheld (σ := σ) P Q start) where
  connect remote h := h.note remote (laws.others nofun)
  refused remote h _ _ _ := h.note remote (laws.others nofun)
  confirmed remote h _ _ _ := Upheld.onlyStale (w := World.note _ _ remote)
    (h.note remote (laws.others nofun)) (Store.onlyStale_forget _)
  unreachable h _ _ := h.onlyStale (Store.onlyStale_forget _)

theorem upheld_bearsClasses : BearsClasses (Upheld (σ := σ) P Q start) := by
  intro w s id kind h hs
  refine ⟨fun r hr => ?_, h.sent.put s⟩
  rw [World.put_store, Store.saveClass_ok hs] at hr
  obtain ⟨row, hrow, hwritten⟩ := (w.store.entries.mem_modify).mp hr
  rw [hwritten]
  split
  · exact laws.kind _ (h.rows _ hrow)
  · exact h.rows _ hrow

theorem internalIssue_upholds {c : Connection} {project : String} (hkey : key = some project)
    (he : P id e.stored) (hne : identifier e ≠ "") (h : Upheld P Q start w) :
    (internalIssue tracker c project ⟨identifier e, e.description⟩).Leads
      (fun _ => Upheld P Q start) (fun _ => Upheld P Q start) w := by
  unfold internalIssue
  rw [leads_bind]
  apply Leads.send
  · intro found remote
    have hsearched := h.note (x := ⟨c, .search (internalQuery project (identifier e))
      ["key", "summary"] internalSearchLimit, .ok found, w.store⟩) remote
      (laws.search hkey he hne)
    cases issueOf (identifier e) found with
    | some issue => exact hsearched
    | none =>
        exact Leads.send (fun _ remote' => hsearched.note remote' (laws.opened hkey he hne))
          (fun _ remote' => hsearched.note remote' (laws.opened hkey he hne))
  · exact fun err remote => h.note remote (laws.search hkey he hne)

theorem resolveInternal_upholds {r : Route} {project : String} (hkey : key = some project)
    (he : P id e.stored) (h : Upheld P Q start w) :
    (resolveInternal tracker id r project).Leads
      (fun _ e' w' => P id e'.stored ∧ Upheld P Q start w')
      (fun _ e' w' => P id e'.stored ∧ Upheld P Q start w') e w := by
  rw [leads_resolveInternal]
  split
  · exact ⟨he, h⟩
  · next hne =>
      apply Leads.connect
      · intro token remote
        have hconnected := h.note (x := ⟨⟨r.id, r.system, token⟩, .connect, .ok (), w.store⟩)
          remote (laws.others nofun)
        refine (internalIssue_upholds laws hkey he hne hconnected).mono ?_ (fun _ _ h => ⟨he, h⟩)
        intro ticket w₂ hfound
        have hcopy := laws.retitled ticket hkey he hne
        cases hsave : w₂.store.saveEntry id (e.retitled (identifier e) ticket) with
        | error err => exact ⟨hcopy, hfound⟩
        | ok s => exact ⟨hcopy, hfound.saved hcopy hsave⟩
      · exact fun token err remote => ⟨he, h.note remote (laws.others nofun)⟩
      · exact fun _ => ⟨he, h⟩

theorem settle_upholds (hkey : w.store.internalKey? e.project = key) (he : P id e.stored)
    (h : Upheld P Q start w) :
    (settle tracker id).Leads (fun _ e' w' => P id e'.stored ∧ Upheld P Q start w')
      (fun _ e' w' => P id e'.stored ∧ Upheld P Q start w') e w := by
  refine settle_stages (A := fun w' => Upheld P Q start w' ∧ w.store.SameCatalog w'.store)
    ((retryPending_keeps (upheld_bearsRetry laws) h).mono
      (fun _ _ h => ⟨h.1, h.2.1.sameCatalog⟩) (fun _ _ h => ⟨he, h.1⟩))
    (fun h _ => ⟨he, h.1⟩) (fun h _ _ _ => ⟨he, h.1⟩) ?_
  intro w₁ p route r name ⟨hretried, hsame⟩ hproject hroute hr hinternal
  rw [bookingRoute?_of_ok hproject hroute] at hr
  obtain rfl : route = some r := (Option.filter_eq_some_iff.mp hr).1
  have hcharge : p.internalProjectKey = some name :=
    (Route.internalKey_of_ofProject hroute).symm.trans hinternal
  rw [← hsame.internalKey?_eq, Store.internalKey?, hproject] at hkey
  exact resolveInternal_upholds laws (hkey.symm.trans hcharge) he hretried

theorem upheld_bearsLeaving :
    BearsLeaving (σ := σ) id p (fun e w => P id e.stored ∧ Upheld P Q start w)
      (fun e w => P id e.stored ∧ Upheld P Q start w)
      (fun e w => P id e.stored ∧ Upheld P Q start w) where
  stays h _ := h
  skipped h _ _ := h
  recorded h _ _ _ _ hs := ⟨h.1, h.2.onlyStale (Store.recordStale_onlyStale hs)⟩
  refused h _ _ _ _ _ := h
  retry _ := .guarded fun _ => upheld_bearsRetry laws
  cleared h hs := ⟨laws.worklog none h.1, h.2.saved (laws.worklog none h.1) hs⟩
  uncleared h _ := ⟨laws.worklog none h.1, h.2⟩
  none h _ := h

theorem upheld_bearsBooking :
    BearsBooking id fun e (w : World σ) => P id e.stored ∧ Upheld P Q start w where
  connect remote h := ⟨h.1, h.2.note remote (laws.others nofun)⟩
  update remote h _ _ _ _ := ⟨h.1, h.2.note remote (laws.others nofun)⟩
  createFails remote h _ := ⟨h.1, h.2.note remote (laws.others nofun)⟩
  create {e w c r draft worklog s} remote h _ _ _ _ _ hs := by
    have hcreated := h.2.note (x := ⟨c, .createWorklog e.ticket draft, .ok worklog, w.store⟩)
      remote (laws.others nofun)
    exact ⟨laws.worklog _ h.1, hcreated.saved (laws.worklog _ h.1) hs⟩
  createSame remote h _ _ := ⟨h.1, h.2.note remote (laws.others nofun)⟩
  createUnsaved remote h _ _ := ⟨laws.worklog _ h.1, h.2.note remote (laws.others nofun)⟩

theorem reconcile_upholds {previous : Option TimeEntry} (huser : ∀ p ∈ previous, p.user = e.user)
    (hkey : w.store.internalKey? e.project = key) (he : P id e.stored) (h : Upheld P Q start w) :
    (reconcile tracker id previous).Leads (fun _ e' w' => P id e'.stored ∧ Upheld P Q start w')
      (fun _ e' w' => P id e'.stored ∧ Upheld P Q start w') e w :=
  reconcile_keeps
    (((settle_upholds laws hkey he h).and settle_sameWork).mono (fun _ _ _ h => h)
      (fun _ _ _ h => h.1))
    (fun _ _ _ h => h) (fun p hp => ⟨huser p hp, upheld_bearsLeaving laws⟩)
    (upheld_bearsBooking laws)

theorem save_upholds {target : Option EntryId} {input : EntryInput}
    (hkey : w.store.internalKey? input.project = key)
    (hrows : ∀ r s, Accepted w.store user input target r s → input.check w.store = .ok () →
      ∀ row ∈ s.entries.rows, P row.1 row.2)
    (hsent : SentOnly (fun x => Q x.request) start w) :
    (save tracker user target input).Leads
      (fun saved w' => Upheld P Q start w' ∧ w'.store.entryAt saved.id = .ok (some saved.entry) ∧
        ∃ r s, Accepted w.store user input target r s ∧ saved.id = r.1)
      (fun _ w' => w' = w) w := by
  refine Leads.mono (Leads.and (E := fun _ _ => True) ?_ save_refuses) (fun _ _ h => h.1)
    (fun _ _ h => h.2)
  unfold save
  rw [leads_bind]
  refine (accept_stores.and accept_checks).mono ?_ (fun _ _ _ => trivial)
  rintro r _ ⟨⟨s, haccepted, rfl⟩, hcheck⟩
  have hstored : Upheld P Q start (w.put s) := ⟨hrows r s haccepted hcheck, hsent.put s⟩
  have hproject : (w.put s).store.internalKey? r.2.1.project = key := by
    rw [World.put_store, haccepted.sameCatalog.internalKey?_eq, haccepted.project_eq, hkey]
  have hcopy : P r.1 r.2.1.stored := hstored.rows _ haccepted.row
  have hreconciled : (reconcile tracker r.1 r.2.2).Leads _ _ r.2.1 (w.put s) :=
    reconcile_upholds laws haccepted.previous_user hproject hcopy hstored
  refine (followUp_keeps (hreconciled.mono (fun _ _ _ h => h.2) (fun _ _ _ h => h.2))
    (upheld_bearsClasses laws)).mono ?_ (fun _ _ _ => trivial)
  rintro saved w' ⟨hupheld, hid, hentry⟩
  exact ⟨hupheld, hid ▸ hentry, r, s, haccepted, hid⟩

theorem delete_upholds (h : Upheld P Q start w) :
    (delete tracker user id).Leads (fun _ => Upheld P Q start) (fun _ => Upheld P Q start) w := by
  refine (delete_keeps (fun {e} _ _ => ?_) (upheld_bearsClasses laws)).mono (fun _ _ h => h)
    (fun _ _ hw => hw ▸ h)
  exact (removeWorklog_keeps (upheld_bearsRetry laws) (fun _ => h)
    (fun _ _ _ hs => h.onlyStale (Store.recordStale_onlyStale hs)) (fun _ _ _ _ => h)).mono
    (fun _ _ h => h.1.erased id) (fun _ _ h => h.1.erased id)

end Sync

section Runs
variable {Q : Option String → Request → Prop} (laws : ∀ key, Outlasts P (Q key) key)
  (admitted : Admitted P)
include laws admitted

theorem Sync.Accepted.rows {user : UserId} {target : Option EntryId} {input : EntryInput}
    {r : EntryId × TimeEntry × Option TimeEntry} (h : Accepted w.store user input target r s)
    (hcheck : input.check w.store = .ok ()) (hrows : ∀ row ∈ w.store.entries.rows, P row.1 row.2) :
    ∀ row ∈ s.entries.rows, P row.1 row.2 := by
  intro row hrow
  cases h with
  | new =>
      rcases (w.store.entries.mem_push).mp hrow with hrow | rfl
      · exact hrows row hrow
      · exact admitted.created hcheck
  | edited hentry =>
      have hcontains := Store.contains_of_entryAt hentry
      rcases (w.store.entries.mem_put hcontains).mp hrow with rfl | ⟨hrow, -⟩
      · have hheld : Upheld P (Q none) w.journal w := ⟨hrows, .refl w⟩
        exact admitted.edited hcheck (hheld.entry (laws none) hentry)
      · exact hrows row hrow

namespace Sync

theorem save_upholdsAll {tracker : Tracker σ} {user : UserId} {target : Option EntryId}
    {input : EntryInput} {w' : World σ} (hcatalog : w.store.SameCatalog w'.store)
    (h : Upheld P (Q (w.store.internalKey? input.project)) start w') :
    (save tracker user target input).Leads
      (fun _ w'' => w.store.SameCatalog w''.store ∧
        Upheld P (Q (w.store.internalKey? input.project)) start w'')
      (fun _ w'' => w.store.SameCatalog w''.store ∧
        Upheld P (Q (w.store.internalKey? input.project)) start w'') w' := by
  have hkey := hcatalog.internalKey?_eq input.project
  have hupheld : (save tracker user target input).Leads _ _ w' :=
    save_upholds (laws (w.store.internalKey? input.project)) hkey
      (fun _ _ haccepted hcheck => haccepted.rows laws admitted hcheck h.rows) h.sent
  refine (hupheld.and save_refuses).mono ?_ ?_
  · rintro saved w'' ⟨⟨hkept, -⟩, hsame⟩
    exact ⟨hcatalog.trans hsame, hkept⟩
  · rintro err w'' ⟨rfl, -⟩
    exact ⟨hcatalog, h⟩

theorem bulkCreate_upholds {tracker : Tracker σ} {user : UserId} {template : EntryInput}
    {range : BulkRange} (h : Upheld P (Q (w.store.internalKey? template.project)) start w) :
    (bulkCreate tracker user template range).Leads
      (fun _ => Upheld P (Q (w.store.internalKey? template.project)) start)
      (fun _ => Upheld P (Q (w.store.internalKey? template.project)) start) w := by
  unfold bulkCreate
  split
  · exact h
  · have hdays : (range.days.mapM fun day => save tracker user none { template with day }).Leads
        (fun _ w' => w.store.SameCatalog w'.store ∧
          Upheld P (Q (w.store.internalKey? template.project)) start w')
        (fun _ w' => w.store.SameCatalog w'.store ∧
          Upheld P (Q (w.store.internalKey? template.project)) start w') w := by
      refine mapM_keeps ⟨.refl _, h⟩ range.days ?_
      rintro day - w' ⟨hcatalog, hw'⟩
      exact save_upholdsAll laws admitted hcatalog hw'
    exact hdays.mono (fun _ _ h => h.2) (fun _ _ h => h.2)

theorem next_upholds (event : Event σ) (hrows : ∀ row ∈ w.store.entries.rows, P row.1 row.2) :
    Upheld P (Q (event.internalKey? w.store)) w.journal (w.next event) := by
  have hstart : ∀ key, Upheld P (Q key) w.journal w := fun _ => ⟨hrows, .refl w⟩
  refine next_keeps ?_ event ?_ (hstart _)
  · exact
      { note := fun remote h hidle _ => h.note remote ((laws _).others hidle.not_looksUp)
        catalog := fun h hs => ⟨fun r hr => h.rows r (hs.entries ▸ hr), h.sent.put _⟩ }
  · rintro ⟨tracker, user, action⟩ rfl
    cases action with
    | save target input =>
        have hsaved : (save tracker user target input).Leads _ _ w :=
          save_upholdsAll laws admitted (.refl w.store) (hstart _)
        exact leads_discard.mpr (hsaved.mono (fun _ _ h => h.2) (fun _ _ h => h.2))
    | delete target => exact leads_discard.mpr (delete_upholds (laws _) (hstart _))
    | bulk template range =>
        have hcreated : (bulkCreate tracker user template range).Leads _ _ w :=
          bulkCreate_upholds laws admitted (hstart _)
        exact leads_discard.mpr hcreated

end Sync

/-- A property of rows that outlasts all that is done to them holds of every row after any history,
and what is sent in any event of it is what the key of its project allows. -/
theorem upheld_after (events : List (Event σ))
    (hrows : ∀ row ∈ w.store.entries.rows, P row.1 row.2) :
    (∀ row ∈ (w.after events).store.entries.rows, P row.1 row.2) ∧
      EachEvent (fun event w => SentOnly (fun x => Q (event.internalKey? w.store) x.request)
        w.journal (w.next event)) w events := by
  induction events generalizing w with
  | nil => exact ⟨hrows, trivial⟩
  | cons event rest ih =>
      have hnext := Sync.next_upholds laws admitted event hrows
      obtain ⟨hafter, heach⟩ := ih hnext.rows
      exact ⟨hafter, hnext.sent, heach⟩

end Runs

end Timesheet
