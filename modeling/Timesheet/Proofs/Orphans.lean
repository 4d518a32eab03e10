import Timesheet.Proofs.Accounts
import Timesheet.Proofs.Holdback

/-!
When no work-log is orphaned. A run of calls keeps every outstanding work-log accounted for exactly
as long as each edit is orderly: once the ticket is settled, the entry still leads to the work-log
that it had, or it has moved to another ticket and nothing failed until then.
-/
namespace Timesheet

variable {σ : Type}

/-- The entry leads to each outstanding work-log that it had as `p`, unless it `moved`. -/
def KeepsTrack (p : TimeEntry) (moved : Prop) (e : TimeEntry) (w : World σ) : Prop :=
  ∀ g, Outstanding w.journal g → p.worklog = some g.id → moved ∨ e.LeadsTo w.store g

/-- The entry `r.2.1`, which is stored under `r.1` and was `r.2.2` before, keeps track of its
work-log when its ticket is settled. Only after a success may it do so by a move. -/
def Tracks (tracker : Tracker σ) (r : EntryId × TimeEntry × Option TimeEntry) (w : World σ) :
    Prop :=
  ∀ p ∈ r.2.2, (Sync.settle tracker r.1).Leads
    (fun _ e w' => KeepsTrack p (Sync.movedToOtherTicket e p = true) e w')
    (fun _ e w' => KeepsTrack p False e w') r.2.1 w

/-- A call that changes an entry is orderly when it keeps track of the work-log. Any other call
is. -/
def Call.Orderly (c : Call σ) (w : World σ) : Prop :=
  match c.action with
  | .save (some id) input =>
    (Sync.accept c.user (some id) input).Leads (Tracks c.tracker) (fun _ _ => True) w
  | _ => True

def OrderlyRun (w : World σ) : List (Call σ) → Prop
  | [] => True
  | c :: rest => c.Orderly w ∧ OrderlyRun (w.next (.call c)) rest

namespace Sync

variable {tracker : Tracker σ} {user : UserId} {id : EntryId} {e p : TimeEntry} {w : World σ}
  {s₀ s : Store} {journal : List Exchange} {rest : Worklog → Prop} {g : Worklog}

theorem tracked_bearsRetry : BearsRetry user (IfFresh (σ := σ) (Tracked id rest)) where
  connect remote h := fun hfresh => (h hfresh.of_append).note rfl
  refused remote h _ _ _ := fun hfresh => (h hfresh.of_append).note rfl
  confirmed remote h hd hc hr := fun hfresh => by
    have htracked := h hfresh.of_append
    refine ⟨(htracked.note rfl).traced.forget _, ?_⟩
    refine htracked.covered.confirmed (Store.mem_pendingOf.mp hd).1 rfl ?_
    simp [Exchange.gone?, hr, hc, StaleWorklog.target]
  unreachable h hd hs := fun hfresh =>
    absurd hs ((h hfresh).traced.systems _ (Store.mem_pendingOf.mp hd).1)

theorem created?_of_looksUp {x : Exchange} (h : x.request.LooksUp) : x.created? = none := by
  obtain ⟨c, request, reply, store⟩ := x
  cases request <;> first | rfl | exact h.elim

theorem tracked_bearsSettling : BearsSettling id fun _ => IfFresh (σ := σ) (Tracked id rest) where
  retry _ := tracked_bearsRetry
  lookUp _ h hx _ _ := fun hfresh => (h hfresh.of_append).note (created?_of_looksUp hx)
  retitle _ _ h hs := fun hfresh => (h hfresh).saveEntry hs
  retitleFails _ _ h _ := h

/-- The copy, which was `p` before, is still where it was stored, and the store without it accounts
for all but what `p` had. -/
def Leaving (id : EntryId) (p : TimeEntry) (s₀ : Store) (e : TimeEntry) (w : World σ) : Prop :=
  (e.worklog = p.worklog ∧ IfFresh (Owned id e) w) ∧ IfFresh (Tracked id (p.Has s₀)) w ∧
    s₀.SameCatalog w.store ∧ e.user = p.user ∧ KeepsTrack p (movedToOtherTicket e p = true) e w

theorem Leaving.tracked (h : Leaving id p s₀ e w) : IfFresh (fun s => Tracked id (p.Has s) s) w :=
  fun hfresh => (h.2.1 hfresh).imp fun g _ hhas => (h.2.2.1.has_iff p g).mpr hhas

/-- The store without the copy accounts for everything. -/
def Moved (id : EntryId) (e : TimeEntry) (w : World σ) : Prop :=
  IfFresh (Freed id e) w ∧ IfFresh (Tracked id fun _ => False) w

/-- The store without the copy accounts for all but what the copy has. -/
def Resting (id : EntryId) (e : TimeEntry) (w : World σ) : Prop :=
  IfFresh (Owned id e) w ∧ IfFresh (fun s => Tracked id (e.Has s) s) w

theorem leaving_bearsLeaving :
    BearsLeaving id p (Leaving (σ := σ) id p s₀) (Moved id) (Resting id) where
  stays h hstays := ⟨h.1.2, fun hfresh => (h.2.1 hfresh).imp fun g hg hhas => by
    refine ⟨h.1.1.trans hhas.1, (h.2.2.2.2 g hg hhas.1).resolve_left ?_⟩
    simp [hstays]⟩
  skipped h _ hno := ⟨fun hfresh => (h.1.2 hfresh).toFreed, fun hfresh =>
    (h.tracked hfresh).skip hno⟩
  recorded h hmoved hw ht hr hs := ⟨owned_bearsLeaving.recorded h.1 hmoved hw ht hr hs,
    fun hfresh => (h.tracked hfresh).record hw hr hs⟩
  refused h _ _ _ hr hs := by
    have huser : ∀ hfresh, _ := fun hfresh => Store.users_of_allowsEntry (h.1.2 hfresh).step.allowed
    rw [h.2.2.2.1] at huser
    exact ⟨fun hfresh => absurd hs (recordStale_ne_error (huser hfresh) hr),
      fun hfresh => absurd hs (recordStale_ne_error (huser hfresh) hr)⟩
  retry _ := (bearsRetry_of_lasting Freed.lasting).and tracked_bearsRetry
  cleared h hs := ⟨fun hfresh => (h.1 hfresh).saved rfl nofun hs, fun hfresh =>
    ((h.2 hfresh).saveEntry hs).imp fun _ _ hno => hno.elim⟩
  uncleared h hs := ⟨fun hfresh => absurd hs ((h.1 hfresh).not_refused rfl), fun hfresh =>
    absurd hs ((h.1 hfresh).not_refused rfl)⟩
  none h hnone := ⟨fun hfresh => (h.1 hfresh).owned_of_none hnone, fun hfresh =>
    (h.2 hfresh).imp fun _ _ hno => hno.elim⟩

theorem resting_bearsBooking : BearsBooking id (Resting (σ := σ) id) where
  connect remote h := ⟨owned_bearsBooking.connect remote h.1, fun hfresh =>
    (h.2 hfresh.of_append).note rfl⟩
  update remote h hw hr hc hp := ⟨owned_bearsBooking.update remote h.1 hw hr hc hp, fun hfresh =>
    (h.2 hfresh.of_append).note rfl⟩
  createFails remote h hp := ⟨owned_bearsBooking.createFails remote h.1 hp, fun hfresh =>
    (h.2 hfresh.of_append).note rfl⟩
  create {e w c r draft worklog s} remote h ht hr hc hp hold hs := by
    refine ⟨owned_bearsBooking.create remote h.1 ht hr hc hp hold hs, fun hfresh => ?_⟩
    have htracked := h.2 hfresh.of_append
    obtain ⟨hroute, hsystem, hbooks⟩ := Store.routeId?_of_bookingRoute? hr
    have hnoted : Tracked id ((e.withWorklog (some worklog)).Has w.store) w.store
        (w.journal ++ [⟨c, .createWorklog e.ticket draft, .ok worklog, w.store⟩]) := by
      refine ⟨htracked.traced.note ?_, fun g hg => ?_⟩
      · rintro _ ⟨⟩
        exact ⟨ht, r.system, hc ▸ hsystem, hbooks⟩
      · rcases outstanding_append.mp hg with ⟨⟨⟩⟩ | ⟨hg, -⟩
        · exact .inr ⟨rfl, rfl, hc ▸ hroute⟩
        · refine (htracked.covered g hg).imp_right fun hhas => ?_
          -- What the entry had before was not found.
          obtain ⟨system, ticket, old⟩ := g
          obtain ⟨hworklog, rfl, hleads⟩ := hhas
          rw [hroute, Option.some.injEq, ← hc] at hleads
          obtain rfl : c.id = system := hleads
          exact absurd hg (hold old hworklog)
    exact (hnoted.saveEntry hs).imp fun g _ hhas =>
      ((Store.saveEntry_sameCatalog hs).has_iff _ g).mpr hhas
  createSame {e w c draft worklog} remote h hw hp := by
    have hgiven : ¬ FreshIds (w.journal ++
        [⟨c, .createWorklog e.ticket draft, .ok worklog, w.store⟩]) := fun hfresh =>
      hfresh.new (g := ⟨c.id, e.ticket, worklog⟩) rfl ((h.1 hfresh.of_append).apart _ hw).given
    exact ⟨fun hfresh => (hgiven hfresh).elim, fun hfresh => (hgiven hfresh).elim⟩
  createUnsaved remote h hp hs := ⟨owned_bearsBooking.createUnsaved remote h.1 hp hs, fun hfresh =>
    absurd hs ((h.1 hfresh.of_append).not_refused rfl)⟩

theorem Resting.complete (h : Resting id e w) : IfFresh Complete w := fun hfresh =>
  (h.2 hfresh).complete (h.1 hfresh)

/-- A failure before the entry could leave its ticket does no harm to an entry that still leads to
its work-log. -/
theorem Leaving.resting {previous : TimeEntry} (hown : e.worklog = previous.worklog ∧
      IfFresh (Owned id e) w) (htracked : IfFresh (Tracked id (previous.Has s₀)) w)
    (hkeeps : KeepsTrack previous False e w) : Resting id e w :=
  ⟨hown.2, fun hfresh => (htracked hfresh).imp fun g hg hhas =>
    ⟨hown.1.trans hhas.1, (hkeeps g hg hhas.1).resolve_left not_false⟩⟩

theorem complete_bearsClasses : BearsClasses (IfFresh (σ := σ) Complete) :=
  fun _ _ h hs hfresh => (h hfresh).saveClass hs

theorem reconcile_new (howned : IfFresh (Owned id e) w)
    (htracked : IfFresh (Tracked id fun _ => False) w) :
    (reconcile tracker id none).Leads (fun _ => Resting id) (fun _ => Resting id) e w := by
  have hrests : ∀ {e' : TimeEntry} {w' : World σ},
      (e'.worklog = e.worklog ∧ IfFresh (Owned id e') w') ∧ IfFresh (Tracked id fun _ => False) w' →
        Resting id e' w' := fun h =>
    ⟨h.1.2, fun hfresh => (h.2 hfresh).imp fun _ _ hno => hno.elim⟩
  refine reconcile_keeps (K := Moved id) ?_ (fun _ _ _ h => hrests h) (by simp) resting_bearsBooking
  exact (settle_keeps (owned_bearsSettling.and tracked_bearsSettling)
    ⟨⟨rfl, howned⟩, htracked⟩).mono (fun _ _ _ h => h) (fun _ _ _ h => hrests h.1)

theorem reconcile_edited (hown : e.worklog = p.worklog ∧ IfFresh (Owned id e) w)
    (htracked : IfFresh (Tracked id (p.Has s₀)) w) (hcatalog : s₀.SameCatalog w.store)
    (huser : p.user = e.user) (htracks : Tracks tracker (id, e, some p) w) :
    (reconcile tracker id (some p)).Leads (fun _ => Resting id) (fun _ => Resting id) e w := by
  have hsettled := (settle_keeps (owned_bearsSettling.and tracked_bearsSettling)
    ⟨hown, htracked⟩).and (htracks p rfl)
  refine reconcile_keeps (I := Leaving id p s₀) (K := Moved id) (hsettled.mono ?_ ?_) nofun ?_
    resting_bearsBooking
  · rintro route e' w' ⟨⟨⟨hown', htracked'⟩, hsame, hrest⟩, hkeeps⟩
    exact ⟨⟨hown', htracked', hcatalog.trans hsame.catalog, hsame.user.trans huser.symm, hkeeps⟩,
      hsame, hrest⟩
  · rintro err e' w' ⟨⟨⟨hown', htracked'⟩, -⟩, hkeeps⟩
    exact Leaving.resting hown' htracked' hkeeps
  · rintro _ ⟨⟩
    exact ⟨huser, leaving_bearsLeaving⟩

theorem save_keepsComplete {target : Option EntryId} {input : EntryInput}
    (h : IfFresh Complete w)
    (tracks : (accept user target input).Leads (Tracks tracker) (fun _ _ => True) w) :
    (save tracker user target input).Leads (fun _ => IfFresh Complete) (fun _ => IfFresh Complete)
      w := by
  refine save_keeps ((accept_stores.and tracks).mono ?_ (fun _ _ hw => hw.1 ▸ h))
    complete_bearsClasses
  rintro ⟨id, e, previous⟩ _ ⟨⟨s, haccepted, rfl⟩, htracks⟩
  have howned : IfFresh (Owned id e) (w.put s) := fun hfresh => haccepted.owned (h hfresh).toSound
  have hreconciled : (reconcile tracker id previous).Leads (fun _ => Resting id)
      (fun _ => Resting id) e (w.put s) := by
    rcases previous with _ | p
    · exact reconcile_new howned fun hfresh => haccepted.tracked (h hfresh) (by simp)
    · obtain ⟨huser, hworklog⟩ := haccepted.previous p rfl
      refine reconcile_edited ⟨hworklog, howned⟩ (fun hfresh => haccepted.tracked (h hfresh) ?_)
        haccepted.sameCatalog huser htracks
      rintro _ ⟨⟩ g hhas
      exact hhas
  exact hreconciled.mono (fun _ _ _ h => h.complete) (fun _ _ _ h => h.complete)

theorem delete_keepsComplete (h : IfFresh Complete w) :
    (delete tracker user id).Leads (fun _ => IfFresh Complete) (fun _ => IfFresh Complete) w := by
  refine (delete_keeps (fun {e} hentry _ => ?_) complete_bearsClasses).mono (fun _ _ h => h)
    (fun _ _ hw => hw ▸ h)
  obtain ⟨stored, kind, hrow, rfl⟩ := Store.row_of_entryAt hentry
  have htracked : IfFresh (fun s => Tracked id ((stored.withKind kind).Has s) s) w := by
    refine fun hfresh => ⟨(h hfresh).traced, (h hfresh).covered_erase fun row' hrow' g hhas => ?_⟩
    obtain rfl : row' = stored := congrArg Prod.snd (w.store.entries.eq_of_mem hrow' hrow rfl)
    exact hhas
  have hrest : (removeWorklog tracker (stored.withKind kind)).Leads
      (fun _ w' => IfFresh (Tracked id fun _ => False) w')
      (fun _ w' => IfFresh (Tracked id fun _ => False) w') w := by
    refine (removeWorklog_keeps tracked_bearsRetry ?_ ?_ ?_).mono (fun _ _ h => h.1)
      (fun _ _ h => h.1)
    · exact fun hno hfresh => (htracked hfresh).skip hno
    · exact fun hw _ hr hs hfresh => (htracked hfresh).record hw hr hs
    · intro worklog r err _ _ hr hs hfresh
      have huser := (h hfresh).traced.users _ hrow
      exact absurd hs (recordStale_ne_error huser hr)
  have hsound : IfFresh Sound w := fun hfresh => (h hfresh).toSound
  refine ((removeWorklog_keepsRest hsound hrow).and hrest).mono ?_ ?_
  · exact fun _ _ hkept hfresh => (hkept.2 hfresh).complete_erase (hkept.1 hfresh)
  · exact fun _ _ hkept hfresh => (hkept.2 hfresh).complete_erase (hkept.1 hfresh)

theorem work_keepsComplete {c : Call σ} (h : IfFresh Complete w) (orderly : c.Orderly w) :
    c.work.Leads (fun _ => IfFresh Complete) (fun _ => IfFresh Complete) w := by
  refine work_keeps h (fun input w' h' => save_keepsComplete h' ?_)
    (fun id input haction => save_keepsComplete h ?_) (fun id _ => delete_keepsComplete h)
  · exact accept_new.mono (fun _ _ hnone p hp => by simp [hnone] at hp) (fun _ _ _ => trivial)
  · rw [Call.Orderly, haction] at orderly
    exact orderly

/-- The copy names an outstanding work-log to which it does not lead. -/
def Astray (id : EntryId) (e : TimeEntry) (s : Store) (journal : List Exchange) : Prop :=
  ∃ g, Outstanding journal g ∧ Apart (s.eraseEntry id) journal g.id ∧ ¬ e.LeadsTo s g

def Orphaned (s : Store) (journal : List Exchange) : Prop :=
  ∃ g, Outstanding journal g ∧ ¬ s.Accounts g

theorem Astray.note {x : Exchange} (h : Astray id e s journal)
    (hx : ∀ g, x.gone? = some g → e.LeadsTo s g) : Astray id e s (journal ++ [x]) := by
  obtain ⟨g, hg, hapart, hstray⟩ := h
  refine ⟨g, outstanding_append.mpr (.inr ⟨hg, fun hgone => hstray (hx g hgone)⟩), ?_, hstray⟩
  exact hapart.note x

theorem Astray.note_idle {x : Exchange} (h : Astray id e s journal) (hx : x.gone? = none) :
    Astray id e s (journal ++ [x]) := h.note fun g hg => by simp [hx] at hg

theorem Astray.saved {e' : TimeEntry} {s' : Store} (h : Astray id e s journal)
    (hticket : e'.ticket = e.ticket) (hproject : e'.project = e.project)
    (hs : s.saveEntry id e' = .ok s') : Astray id e' s' journal := by
  obtain ⟨g, hg, hapart, hstray⟩ := h
  refine ⟨g, hg, ?_, ?_⟩
  · rw [Store.saveEntry_erase hs]
    exact hapart
  · rw [(Store.saveEntry_sameCatalog hs).leadsTo_iff, Entry.LeadsTo, hticket, hproject]
    exact hstray

theorem Astray.orphaned (h : Astray id e s journal) (hrow : (id, e.stored) ∈ s.entries.rows) :
    Orphaned s journal := by
  obtain ⟨g, hg, hapart, hstray⟩ := h
  refine ⟨g, hg, ?_⟩
  rintro (⟨r, hr, hhas⟩ | ⟨d, hd, rfl⟩)
  · by_cases hid : r.1 = id
    · obtain rfl : r = (id, e.stored) := s.entries.eq_of_mem hr hrow hid
      exact hstray hhas.2
    · exact hapart.entries r ((s.entries.mem_erase).mpr ⟨hr, hid⟩) hhas.1
  · exact hapart.stale d hd rfl

theorem orphaned_bearsClasses : BearsClasses (IfFresh (σ := σ) Orphaned) := by
  intro w s id kind h hs hfresh
  obtain ⟨g, hg, hlost⟩ := h hfresh
  exact ⟨g, hg, fun haccounts => hlost ((Store.saveClass_accounts hs).mp haccounts)⟩

def Straying (id : EntryId) (e : TimeEntry) (w : World σ) : Prop :=
  IfFresh (Owned id e) w ∧ IfFresh (Astray id e) w

theorem straying_bearsBooking : BearsBooking id (Straying (σ := σ) id) where
  connect remote h := ⟨owned_bearsBooking.connect remote h.1, fun hfresh =>
    (h.2 hfresh.of_append).note_idle rfl⟩
  update {e w c r worklog draft reply} remote h hw hr hc hp := by
    refine ⟨owned_bearsBooking.update remote h.1 hw hr hc hp, fun hfresh =>
      (h.2 hfresh.of_append).note fun g hgone => ?_⟩
    -- An update that finds nothing tells so only of a work-log to which the copy leads.
    obtain rfl := Exchange.eq_of_update_gone hgone
    exact ⟨rfl, by rw [hc]; exact (Store.routeId?_of_bookingRoute? hr).1⟩
  createFails remote h hp := ⟨owned_bearsBooking.createFails remote h.1 hp, fun hfresh =>
    (h.2 hfresh.of_append).note_idle rfl⟩
  create remote h ht hr hc hp hold hs :=
    ⟨owned_bearsBooking.create remote h.1 ht hr hc hp hold hs, fun hfresh =>
      ((h.2 hfresh.of_append).note_idle rfl).saved rfl rfl hs⟩
  createSame remote h hw hp := ⟨owned_bearsBooking.createSame remote h.1 hw hp, fun hfresh =>
    (h.2 hfresh.of_append).note_idle rfl⟩
  createUnsaved remote h hp hs := ⟨owned_bearsBooking.createUnsaved remote h.1 hp hs,
    fun hfresh => absurd hs ((h.1 hfresh.of_append).not_refused rfl)⟩

theorem straying_bearsLeaving :
    BearsLeaving id p (fun e w => movedToOtherTicket e p = false ∧ Straying (σ := σ) id e w)
      (fun _ _ => False) (Straying id) where
  stays h _ := h.2
  skipped h hmoved _ := by simp [h.1] at hmoved
  recorded h hmoved _ _ _ _ := by simp [h.1] at hmoved
  refused h hmoved _ _ _ _ := by simp [h.1] at hmoved
  retry _ := .const
  cleared h _ := h.elim
  uncleared h _ := h.elim
  none h _ := h.elim

theorem straying_of_not_keepsTrack {moved : Prop}
    (hown : e.worklog = p.worklog ∧ IfFresh (Owned id e) w) (hno : ¬ KeepsTrack p moved e w) :
    ¬ moved ∧ Straying id e w := by
  simp only [KeepsTrack, not_forall, not_or] at hno
  obtain ⟨g, hg, hw, hstays, hstray⟩ := hno
  exact ⟨hstays, hown.2, fun hfresh =>
    ⟨g, hg, (hown.2 hfresh).apart g.id (hown.1.trans hw), hstray⟩⟩

theorem Straying.orphaned (h : Straying id e w) : IfFresh Orphaned w := fun hfresh =>
  (h.2 hfresh).orphaned (h.1 hfresh).step.row

theorem reconcile_astray (hown : e.worklog = p.worklog ∧ IfFresh (Owned id e) w)
    (huser : p.user = e.user)
    (hno : ¬ (settle tracker id).Leads
      (fun _ e' w' => KeepsTrack p (movedToOtherTicket e' p = true) e' w')
      (fun _ e' w' => KeepsTrack p False e' w') e w) :
    (reconcile tracker id (some p)).Leads (fun _ => Straying id) (fun _ => Straying id) e w := by
  have hsettled := (settle_keeps owned_bearsSettling hown).and
    (Working.leads_not.mp hno)
  refine reconcile_keeps (hsettled.mono ?_ ?_) nofun
    (fun _ hp => by cases hp; exact ⟨huser, straying_bearsLeaving⟩) straying_bearsBooking
  · rintro route e' w' ⟨⟨hown', hrest⟩, hlost⟩
    obtain ⟨hstays, hstraying⟩ := straying_of_not_keepsTrack hown' hlost
    exact ⟨⟨by simpa using hstays, hstraying⟩, hrest⟩
  · rintro err e' w' ⟨⟨hown', -⟩, hlost⟩
    exact (straying_of_not_keepsTrack hown' hlost).2

theorem work_orphans {c : Call σ} (h : IfFresh Sound w) (disorderly : ¬ c.Orderly w) :
    c.work.Leads (fun _ => IfFresh Orphaned) (fun _ => IfFresh Orphaned) w := by
  unfold Call.Orderly at disorderly
  split at disorderly
  · next id input haction =>
      unfold Call.work
      rw [haction]
      refine leads_discard.mpr (save_keeps ?_ orphaned_bearsClasses)
      refine (accept_stores.and (leads_not.mp disorderly)).mono ?_
        (fun _ _ hno => absurd trivial hno.2)
      rintro ⟨id, e, previous⟩ _ ⟨⟨s, haccepted, rfl⟩, hno⟩
      simp only [Tracks, not_forall] at hno
      obtain ⟨p, hp, hno⟩ := hno
      obtain ⟨huser, hworklog⟩ := haccepted.previous p hp
      obtain rfl : previous = some p := hp
      have howned : IfFresh (Owned id e) (w.put s) := fun hfresh => haccepted.owned (h hfresh)
      exact (reconcile_astray ⟨hworklog, howned⟩ huser hno).mono (fun _ _ _ h => h.orphaned)
        (fun _ _ _ h => h.orphaned)
  · exact absurd trivial disorderly

end Sync

theorem World.Blank.complete {w : World σ} (h : w.Blank) : Complete w.store w.journal := by
  refine ⟨h.sound, ⟨?_, ?_, ?_⟩, ?_⟩ <;> simp [h.entries, h.stale, h.journal, createdIn]

theorem noOrphan_iff_of_complete {w : World σ} (hcomplete : Sync.IfFresh Complete w)
    (calls : List (Call σ)) (fresh : FreshIds (w.after (calls.map .call)).journal) :
    (∀ done, done <+: calls → (w.after (done.map .call)).NoOrphan) ↔ OrderlyRun w calls := by
  have hfresh : ∀ w' : World σ, w'.journal <+: (w.after (calls.map .call)).journal →
      FreshIds w'.journal := by
    rintro w' ⟨later, hlater⟩
    rw [← hlater] at fresh
    exact fresh.of_append
  induction calls generalizing w with
  | nil =>
      refine ⟨fun _ => trivial, fun _ done hdone => ?_⟩
      rw [List.prefix_nil.mp hdone]
      exact (hcomplete fresh).covered
  | cons c rest ih =>
      have hnext := journal_prefix_after (w.next (.call c)) (rest.map .call)
      constructor
      · intro h
        have horderly : c.Orderly w := by
          by_contra hno
          -- The call alone would have orphaned a work-log.
          have horphaned := (Sync.work_orphans (fun hw => (hcomplete hw).toSound) hno).always
          obtain ⟨g, hg, hlost⟩ := horphaned (hfresh _ hnext)
          exact hlost (h [c] ⟨rest, rfl⟩ g hg)
        have hkept := (Sync.work_keepsComplete hcomplete horderly).always
        refine ⟨horderly, (ih hkept fresh hfresh).mp ?_⟩
        exact fun done hdone => h (c :: done) ((List.prefix_cons_inj c).mpr hdone)
      · rintro ⟨horderly, hrest⟩ done hdone
        have hkept := (Sync.work_keepsComplete hcomplete horderly).always
        rcases List.prefix_cons_iff.mp hdone with rfl | ⟨done', rfl, hdone'⟩
        · exact (hcomplete (hfresh w (journal_prefix_after w ((c :: rest).map .call)))).covered
        · exact (ih hkept fresh hfresh).mpr hrest done' hdone'

/-- From a blank world, every outstanding work-log is accounted for after each call of a run exactly
when the run is orderly. -/
theorem noOrphan_iff_orderlyRun {w : World σ} (blank : w.Blank) (calls : List (Call σ))
    (fresh : FreshIds (w.after (calls.map .call)).journal) :
    (∀ done, done <+: calls → (w.after (done.map .call)).NoOrphan) ↔ OrderlyRun w calls :=
  noOrphan_iff_of_complete (fun _ => blank.complete) calls fresh

theorem noOrphan_iff_orderlyRun_twoMoves :
    (∀ done, done <+: twoMoves → (stubbornOffice.after (done.map .call)).NoOrphan) ↔
      OrderlyRun stubbornOffice twoMoves :=
  noOrphan_iff_orderlyRun stubbornOffice_blank twoMoves twoMoves_fresh

/-- While the first deletion is still refused, the second entry to move leaves its work-log behind:
the retry of the deletion fails before the move is looked at, and nothing is recorded. -/
theorem twoMoves_orphan :
    stubbornOffice.Blank ∧ FreshIds (stubbornOffice.after (twoMoves.map .call)).journal ∧
      ¬ (stubbornOffice.after (twoMoves.map .call)).NoOrphan :=
  ⟨stubbornOffice_blank, twoMoves_fresh, by decide +kernel⟩

end Timesheet
