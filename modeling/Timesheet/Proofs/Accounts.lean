import Timesheet.Proofs.Ownership

/-!
Where the outstanding work-logs are: an entry has them, that is, it names them and its ticket and
its project lead to them, or their deletion is pending.
-/
namespace Timesheet

def Store.routeId? (s : Store) (id : ProjectId) : Option SystemId := (s.route? id).map Route.id

/-- The ticket and the project of the entry lead to the work-log. -/
def Entry.LeadsTo {κ : Type} (e : Entry κ) (s : Store) (g : Worklog) : Prop :=
  e.ticket = g.ticket ∧ s.routeId? e.project = some g.system

def Entry.Has {κ : Type} (e : Entry κ) (s : Store) (g : Worklog) : Prop :=
  e.worklog = some g.id ∧ e.LeadsTo s g

def StaleWorklog.target (d : StaleWorklog) : Worklog := ⟨d.system, d.ticket, d.worklog⟩

theorem Store.any_sameTarget_iff {s : Store} {d : StaleWorklog} :
    s.stale.any (fun v => v.system == d.system && v.ticket == d.ticket &&
      v.worklog == d.worklog) = true ↔ ∃ r ∈ s.stale.rows, r.2.target = d.target := by
  simp [Table.any, StaleWorklog.target, and_assoc]

def Store.Accounts (s : Store) (g : Worklog) : Prop :=
  (∃ r ∈ s.entries.rows, r.2.Has s g) ∨ ∃ d ∈ s.stale.rows, d.2.target = g

/-- Every outstanding work-log is accounted for. -/
def World.NoOrphan {σ : Type} (w : World σ) : Prop :=
  ∀ g, Outstanding w.journal g → w.store.Accounts g

instance {κ : Type} (e : Entry κ) (s : Store) (g : Worklog) : Decidable (e.LeadsTo s g) :=
  inferInstanceAs (Decidable (_ ∧ _))

instance {κ : Type} (e : Entry κ) (s : Store) (g : Worklog) : Decidable (e.Has s g) :=
  inferInstanceAs (Decidable (_ ∧ _))

instance (s : Store) (g : Worklog) : Decidable (s.Accounts g) :=
  inferInstanceAs (Decidable (_ ∨ _))

instance {σ : Type} (w : World σ) : Decidable w.NoOrphan :=
  decidable_of_iff (∀ g ∈ outstandingIn w.journal, w.store.Accounts g)
    (forall_congr' fun _ => imp_congr_left mem_outstandingIn)

namespace Store

variable {s s' : Store} {project : ProjectId} {r : Route}

theorem route?_system (h : s.route? project = some r) : s.system? r.id = some r.system := by
  obtain ⟨p, -, hp⟩ := Option.bind_eq_some_iff.mp h
  unfold Route.ofProject at hp
  split at hp
  · split at hp
    · next hfound =>
        obtain ⟨system, -, hsystem⟩ := Option.bind_eq_some_iff.mp hfound
        obtain ⟨_, hs, heq⟩ := Option.map_eq_some_iff.mp hsystem
        cases heq
        simp only [Except.toOption, Option.join_some, Option.some.injEq] at hp
        exact hp ▸ hs
    · cases hp
  · simp only [Except.toOption, Option.join_some] at hp
    obtain ⟨system, -, hsystem⟩ := Option.bind_eq_some_iff.mp hp
    obtain ⟨_, hs, rfl⟩ := Option.map_eq_some_iff.mp hsystem
    exact hs

theorem routeId?_of_bookingRoute? (h : s.bookingRoute? project = some r) :
    s.routeId? project = some r.id ∧ s.system? r.id = some r.system ∧
      r.system.booksWorklogs = true := by
  obtain ⟨hroute, hbooks⟩ := Option.filter_eq_some_iff.mp h
  exact ⟨by rw [routeId?, hroute]; rfl, route?_system hroute, hbooks⟩

theorem bookingRoute?_of_routeId? {id : SystemId} {system : TicketSystem}
    (h : s.routeId? project = some id) (hsystem : s.system? id = some system)
    (hbooks : system.booksWorklogs = true) : s.bookingRoute? project ≠ none := by
  obtain ⟨r, hroute, rfl⟩ := Option.map_eq_some_iff.mp h
  have hr := route?_system hroute
  rw [hsystem, Option.some.injEq] at hr
  subst hr
  have hr : r.books = true := hbooks
  rw [bookingRoute?, hroute, Option.filter_some, if_pos hr]
  exact Option.some_ne_none r

theorem SameCatalog.routeId?_eq (h : s.SameCatalog s') (id : ProjectId) :
    s'.routeId? id = s.routeId? id := by
  rw [routeId?, h.route?_eq, routeId?]

end Store

theorem Store.SameCatalog.leadsTo_iff {κ : Type} {s s' : Store} (h : s.SameCatalog s') (e : Entry κ)
    (g : Worklog) : e.LeadsTo s' g ↔ e.LeadsTo s g := by
  rw [Entry.LeadsTo, h.routeId?_eq, Entry.LeadsTo]

theorem Store.SameCatalog.has_iff {κ : Type} {s s' : Store} (h : s.SameCatalog s') (e : Entry κ)
    (g : Worklog) : e.Has s' g ↔ e.Has s g := by
  rw [Entry.Has, h.leadsTo_iff, Entry.Has]

variable {s s' : Store} {journal : List Exchange} {id : EntryId} {rest : Worklog → Prop}
  {g : Worklog}

/-- The rows that pending deletions and entries refer to are there, and work-logs were created only
on tickets, in ticket systems that are there and book. -/
structure Traced (s : Store) (journal : List Exchange) : Prop where
  systems : ∀ d ∈ s.stale.rows, s.system? d.2.system ≠ none
  users : ∀ r ∈ s.entries.rows, s.users.contains r.2.user = true
  created : ∀ g ∈ createdIn journal, g.ticket ≠ "" ∧
    ∃ system, s.system? g.system = some system ∧ system.booksWorklogs = true

theorem Traced.mono (h : Traced s journal) (hcatalog : s.SameCatalog s')
    (hentries : ∀ r ∈ s'.entries.rows, s.users.contains r.2.user = true)
    (hstale : ∀ d ∈ s'.stale.rows, s.system? d.2.system ≠ none) : Traced s' journal where
  systems d hd := by
    rw [hcatalog.system?_eq]
    exact hstale d hd
  users r hr := by
    rw [hcatalog.users_eq]
    exact hentries r hr
  created g hg := by
    rw [hcatalog.system?_eq]
    exact h.created g hg

theorem Traced.forget (h : Traced s journal) (stale : StaleId) :
    Traced (s.forgetStale stale) journal :=
  h.mono rfl h.users fun d hd => h.systems d (Store.mem_forgetStale.mp hd).1

theorem Traced.erase (h : Traced s journal) (id : EntryId) : Traced (s.eraseEntry id) journal :=
  h.mono rfl (fun r hr => h.users r ((s.entries.mem_erase).mp hr).1) h.systems

theorem Traced.saveEntry {e : TimeEntry} (h : Traced s journal) (hs : s.saveEntry id e = .ok s') :
    Traced s' journal := by
  rw [Store.saveEntry_ok hs]
  refine h.mono rfl (fun r hr => ?_) h.systems
  obtain ⟨a, ha, hr⟩ := (s.entries.mem_modify).mp hr
  rw [hr]
  split
  · next hid =>
      have hcontains : s.entries.contains id = true := (s.entries.contains_iff).mpr ⟨a, hid ▸ ha⟩
      exact Store.users_of_allowsEntry (Store.saveEntry_allowed hs hcontains).2
  · exact h.users _ ha

theorem Traced.saveClass {kind : EntryClass} (h : Traced s journal)
    (hs : s.saveClass id kind = .ok s') : Traced s' journal := by
  rw [Store.saveClass_ok hs]
  refine h.mono rfl (fun r hr => ?_) h.systems
  obtain ⟨a, ha, hr⟩ := (s.entries.mem_modify).mp hr
  rw [hr]
  split <;> exact h.users _ ha

theorem Traced.record {d : StaleWorklog} (h : Traced s journal) (hd : s.system? d.system ≠ none)
    (hs : s.recordStale d = .ok s') : Traced s' journal := by
  have honly := Store.recordStale_onlyStale hs
  refine h.mono honly.sameCatalog (honly.entries_eq ▸ h.users) fun d' hd' => ?_
  rcases Store.mem_recordStale hs d' hd' with hd' | hd'
  · exact h.systems d' hd'
  · rw [hd']
    exact hd

theorem Traced.note {x : Exchange} (h : Traced s journal)
    (hx : ∀ g, x.created? = some g → g.ticket ≠ "" ∧
      ∃ system, s.system? g.system = some system ∧ system.booksWorklogs = true) :
    Traced s (journal ++ [x]) where
  systems := h.systems
  users := h.users
  created g hg := by
    rw [createdIn_append] at hg
    rcases List.mem_append.mp hg with hg | hg
    · exact h.created g hg
    · exact hx g (by simpa using hg)

/-- The store accounts for every outstanding work-log but those of `rest`. -/
def Covered (s : Store) (rest : Worklog → Prop) (journal : List Exchange) : Prop :=
  ∀ g, Outstanding journal g → s.Accounts g ∨ rest g

theorem Covered.note {x : Exchange} (h : Covered s rest journal) (hx : x.created? = none) :
    Covered s rest (journal ++ [x]) := by
  intro g hg
  rcases outstanding_append.mp hg with hcreated | ⟨hg, -⟩
  · simp [hx] at hcreated
  · exact h g hg

theorem Covered.confirmed {x : Exchange} {stale : StaleId} {d : StaleWorklog}
    (h : Covered s rest journal) (hd : (stale, d) ∈ s.stale.rows) (hx : x.created? = none)
    (hgone : x.gone? = some d.target) : Covered (s.forgetStale stale) rest (journal ++ [x]) := by
  intro g hg
  rcases outstanding_append.mp hg with hcreated | ⟨hg, hne⟩
  · simp [hx] at hcreated
  · rcases h g hg with (hentry | ⟨d', hd', hg'⟩) | hrest
    · exact .inl (.inl hentry)
    · refine .inl (.inr ⟨d', Store.mem_forgetStale.mpr ⟨hd', fun heq => ?_⟩, hg'⟩)
      have hsame : d' = (stale, d) := s.stale.eq_of_mem hd' hd heq
      exact hne (by rw [hgone, ← hg', hsame])
    · exact .inr hrest

theorem Covered.record {d : StaleWorklog} (h : Covered s rest journal)
    (hs : s.recordStale d = .ok s') (hrest : ∀ g, Outstanding journal g → rest g → g = d.target) :
    Covered s' (fun _ => False) journal := by
  have honly := Store.recordStale_onlyStale hs
  intro g hg
  rcases h g hg with (⟨r, hr, hhas⟩ | ⟨d', hd', hg'⟩) | hg'
  · exact .inl (.inl ⟨r, honly.entries_eq ▸ hr, (honly.sameCatalog.has_iff r.2 g).mpr hhas⟩)
  · exact .inl (.inr ⟨d', Store.recordStale_subset hs d' hd', hg'⟩)
  · obtain ⟨d', hd', htarget⟩ := Store.recordStale_target hs
    exact .inl (.inr ⟨d', hd', by rw [hrest g hg hg', StaleWorklog.target, StaleWorklog.target,
      htarget.1, htarget.2.1, htarget.2.2]⟩)

/-- What the store without the entry does not account for is in `rest`. -/
structure Tracked (id : EntryId) (rest : Worklog → Prop) (s : Store) (journal : List Exchange) :
    Prop where
  traced : Traced s journal
  covered : Covered (s.eraseEntry id) rest journal

theorem Tracked.note {x : Exchange} (h : Tracked id rest s journal) (hx : x.created? = none) :
    Tracked id rest s (journal ++ [x]) :=
  ⟨h.traced.note fun g hg => by simp [hx] at hg, h.covered.note hx⟩

theorem Tracked.imp {rest' : Worklog → Prop} (h : Tracked id rest s journal)
    (hrest : ∀ g, Outstanding journal g → rest g → rest' g) : Tracked id rest' s journal :=
  ⟨h.traced, fun g hg => (h.covered g hg).imp_right (hrest g hg)⟩

theorem Tracked.saveEntry {e : TimeEntry} (h : Tracked id rest s journal)
    (hs : s.saveEntry id e = .ok s') : Tracked id rest s' journal := by
  refine ⟨h.traced.saveEntry hs, ?_⟩
  rw [Store.saveEntry_erase hs]
  exact h.covered

section Traceable
variable {p : TimeEntry}

theorem traceable_of_has (htraced : Traced s journal) (hg : Outstanding journal g)
    (h : p.Has s g) : ¬ Sync.Untraceable s p := by
  obtain ⟨hticket, system, hsystem, hbooks⟩ := htraced.created g hg.created
  rintro (hno | hno | hno)
  · exact absurd (hno.symm.trans h.1) nofun
  · exact hticket (h.2.1 ▸ hno)
  · exact Store.bookingRoute?_of_routeId? h.2.2 hsystem hbooks hno

theorem Tracked.skip (h : Tracked id (p.Has s) s journal) (hno : Sync.Untraceable s p) :
    Tracked id (fun _ => False) s journal :=
  h.imp fun _ hg hhas => traceable_of_has h.traced hg hhas hno

variable {worklog : String} {r : Route}

theorem eq_target_of_has {user : UserId} (h : p.Has s g) (hw : p.worklog = some worklog)
    (hr : s.bookingRoute? p.project = some r) :
    g = StaleWorklog.target ⟨user, r.id, p.ticket, worklog⟩ := by
  obtain ⟨hid, hticket, hroute⟩ := h
  rw [(Store.routeId?_of_bookingRoute? hr).1, Option.some.injEq] at hroute
  rw [hw, Option.some.injEq] at hid
  simp only [StaleWorklog.target, hticket, hroute, hid]

theorem Tracked.record (h : Tracked id (p.Has s) s journal) (hw : p.worklog = some worklog)
    (hr : s.bookingRoute? p.project = some r)
    (hs : s.recordStale ⟨p.user, r.id, p.ticket, worklog⟩ = .ok s') :
    Tracked id (fun _ => False) s' journal := by
  obtain ⟨-, hsystem, -⟩ := Store.routeId?_of_bookingRoute? hr
  refine ⟨h.traced.record (by simp [hsystem]) hs, ?_⟩
  exact h.covered.record (Store.recordStale_erase hs) fun g _ hhas => eq_target_of_has hhas hw hr

theorem recordStale_ne_error {err : StorageError} (huser : s.users.contains p.user = true)
    (hr : s.bookingRoute? p.project = some r) :
    s.recordStale ⟨p.user, r.id, p.ticket, worklog⟩ ≠ .error err := by
  obtain ⟨-, hsystem, -⟩ := Store.routeId?_of_bookingRoute? hr
  exact Store.recordStale_of_contains huser (Store.systems_of_system? hsystem)

end Traceable

structure Complete (s : Store) (journal : List Exchange) : Prop extends Sound s journal where
  traced : Traced s journal
  covered : ∀ g, Outstanding journal g → s.Accounts g

theorem Tracked.complete {e : TimeEntry} (h : Tracked id (e.Has s) s journal)
    (howned : Owned id e s journal) : Complete s journal := by
  refine ⟨howned.sound, h.traced, fun g hg => ?_⟩
  rcases h.covered g hg with (⟨r, hr, hhas⟩ | hstale) | hhas
  · exact .inl ⟨r, ((s.entries.mem_erase).mp hr).1, hhas⟩
  · exact .inr hstale
  · exact .inl ⟨_, howned.step.row, hhas⟩

theorem Complete.covered_erase (h : Complete s journal)
    (hrest : ∀ row, (id, row) ∈ s.entries.rows → ∀ g, row.Has s g → rest g) :
    Covered (s.eraseEntry id) rest journal := by
  intro g hg
  rcases h.covered g hg with ⟨r, hr, hhas⟩ | hstale
  · by_cases hid : r.1 = id
    · exact .inr (hrest r.2 (hid ▸ hr) g hhas)
    · exact .inl (.inl ⟨r, (s.entries.mem_erase).mpr ⟨hr, hid⟩, hhas⟩)
  · exact .inl (.inr hstale)

theorem Tracked.complete_erase (h : Tracked id (fun _ => False) s journal)
    (hsound : Sound (s.eraseEntry id) journal) : Complete (s.eraseEntry id) journal :=
  ⟨hsound, h.traced.erase id, fun g hg => (h.covered g hg).resolve_right not_false⟩

theorem Sync.Accepted.tracked {user : UserId} {input : EntryInput} {target : Option EntryId}
    {r : EntryId × TimeEntry × Option TimeEntry} (h : Sync.Accepted s user input target r s')
    (hcomplete : Complete s journal) (hrest : ∀ p ∈ r.2.2, ∀ g, p.Has s g → rest g) :
    Tracked r.1 rest s' journal := by
  have herase := h.erase
  cases h with
  | new allowed =>
      refine ⟨hcomplete.traced.mono rfl (fun r hr => ?_) hcomplete.traced.systems, ?_⟩
      · rcases (s.entries.mem_push).mp hr with hr | rfl
        · exact hcomplete.traced.users r hr
        · exact Store.users_of_allowsEntry allowed
      · rw [herase]
        exact hcomplete.covered_erase fun row hrow => absurd hrow s.entries.nextId_notMem
  | edited row own thawed allowed =>
      have hcontains := Store.contains_of_entryAt row
      refine ⟨hcomplete.traced.saveEntry (Store.saveEntry_of_contains hcontains thawed allowed), ?_⟩
      rw [herase]
      obtain ⟨stored, kind, hstored, rfl⟩ := Store.row_of_entryAt row
      refine hcomplete.covered_erase fun row' hrow' g hhas => hrest _ rfl g ?_
      obtain rfl : row' = stored := congrArg Prod.snd (s.entries.eq_of_mem hrow' hstored rfl)
      exact hhas

theorem Store.saveClass_accounts {kind : EntryClass} (hs : s.saveClass id kind = .ok s') :
    s'.Accounts g ↔ s.Accounts g := by
  rw [Store.saveClass_ok hs]
  refine or_congr_left ⟨?_, ?_⟩
  · rintro ⟨r, hr, hhas⟩
    obtain ⟨a, ha, hr⟩ := (s.entries.mem_modify).mp hr
    rw [hr] at hhas
    refine ⟨(r.1, a), ha, ?_⟩
    split at hhas <;> exact hhas
  · rintro ⟨r, hr, hhas⟩
    refine ⟨(r.1, if r.1 = id then r.2.withKind kind.code else r.2),
      (s.entries.mem_modify).mpr ⟨r.2, hr, rfl⟩, ?_⟩
    dsimp only
    split <;> exact hhas

theorem Complete.saveClass {kind : EntryClass} (h : Complete s journal)
    (hs : s.saveClass id kind = .ok s') : Complete s' journal :=
  ⟨h.toSound.saveClass hs, h.traced.saveClass hs,
    fun g hg => (Store.saveClass_accounts hs).mpr (h.covered g hg)⟩

end Timesheet
