import Mathlib.Data.List.Nodup
import Timesheet.Proofs.Addressing
import Timesheet.Proofs.Holdback

/-!
The ticket of an entry and its work-log: in which runs the work-log of every entry is one that was
created on the ticket that the entry has. A call that changes an entry has to be coherent for that:
once the ticket is settled the entry still has the ticket on which its work-log was created, or,
if nothing failed until then, the move is seen or booking gives the entry another work-log.
-/
namespace Timesheet

variable {σ : Type}

/-- A work-log was created under the identifier on the ticket. -/
def CreatedOn (journal : List Exchange) (ticket id : String) : Prop :=
  ∃ g ∈ createdIn journal, g.ticket = ticket ∧ g.id = id

/-- The work-log of the entry, if it has one, was created on its ticket. -/
def Entry.OnTicket {κ : Type} (e : Entry κ) (journal : List Exchange) : Prop :=
  ∀ id, e.worklog = some id → CreatedOn journal e.ticket id

def World.Paired (w : World σ) : Prop := ∀ r ∈ w.store.entries.rows, r.2.OnTicket w.journal

/-- The entry, which was `p` before, has no work-log to keep, or still the ticket for it. -/
def StaysPut (p e : TimeEntry) : Prop := p.worklog = none ∨ e.ticket = p.ticket

/-- Booking the entry gives it another work-log. -/
def Renewed (tracker : Tracker σ) (id : EntryId) (e : TimeEntry) (w : World σ) : Prop :=
  ((w.store.bookingRoute? e.project).elim (pure ()) (Sync.book tracker id)).Leads
    (fun _ e' _ => e'.worklog ≠ e.worklog) (fun _ _ _ => False) e w

/-- The entry `r.2.1`, which is stored under `r.1` and was `r.2.2` before, stays put when its ticket
is settled. Only after a success may it do otherwise: the move is seen then, or the work-log is
another one in the end. -/
def KeepsTicket (tracker : Tracker σ) (r : EntryId × TimeEntry × Option TimeEntry) (w : World σ) :
    Prop :=
  ∀ p ∈ r.2.2, (Sync.settle tracker r.1).Leads
    (fun _ e w' => StaysPut p e ∨ Sync.movedToOtherTicket e p = true ∨ Renewed tracker r.1 e w')
    (fun _ e _ => StaysPut p e) r.2.1 w

/-- A call that changes an entry is coherent when ticket and work-log stay together. Any other call
is. -/
def Call.Coherent (c : Call σ) (w : World σ) : Prop :=
  match c.action with
  | .save (some id) input =>
    (Sync.accept c.user (some id) input).Leads (KeepsTicket c.tracker) (fun _ _ => True) w
  | _ => True

section OnTicket
variable {κ : Type} {journal later : List Exchange} {ticket other id : String}

theorem CreatedOn.mono (h : CreatedOn journal ticket id) (hj : journal <+: later) :
    CreatedOn later ticket id := by
  obtain ⟨g, hg, hcreated⟩ := h
  exact ⟨g, (hj.filterMap Exchange.created?).subset hg, hcreated⟩

/-- An identifier that was given once was given on one ticket. -/
theorem CreatedOn.unique (fresh : FreshIds journal) (h : CreatedOn journal ticket id)
    (h' : CreatedOn journal other id) : ticket = other := by
  obtain ⟨g, hg, rfl, hid⟩ := h
  obtain ⟨g', hg', rfl, hid'⟩ := h'
  rw [List.inj_on_of_nodup_map fresh hg hg' (hid.trans hid'.symm)]

theorem Entry.OnTicket.mono {e : Entry κ} (h : e.OnTicket journal) (hj : journal <+: later) :
    e.OnTicket later := fun id hid => (h id hid).mono hj

theorem Entry.onTicket_of_none {e : Entry κ} (h : e.worklog = none) : e.OnTicket journal :=
  fun id hid => by simp [h] at hid

theorem StaysPut.onTicket {p e : TimeEntry} (h : StaysPut p e) (hworklog : e.worklog = p.worklog)
    (hp : p.OnTicket journal) : e.OnTicket journal := by
  rcases h with hnone | hticket
  · exact Entry.onTicket_of_none (hworklog.trans hnone)
  · intro id hid
    rw [hticket]
    exact hp id (hworklog ▸ hid)

instance : Decidable (CreatedOn journal ticket id) :=
  inferInstanceAs (Decidable (∃ g ∈ createdIn journal, _))

instance (e : Entry κ) : Decidable (e.OnTicket journal) :=
  inferInstanceAs (Decidable (∀ id ∈ e.worklog, CreatedOn journal e.ticket id))

end OnTicket

instance (w : World σ) : Decidable w.Paired :=
  inferInstanceAs (Decidable (∀ r ∈ w.store.entries.rows, r.2.OnTicket w.journal))

theorem World.Paired.grown {w w' : World σ} (h : w.Paired)
    (hs : w'.store.entries = w.store.entries) (hj : w.journal <+: w'.journal) : w'.Paired :=
  fun r hr => (h r (hs ▸ hr)).mono hj

namespace Sync

variable {tracker : Tracker σ} {user : UserId} {id : EntryId} {e p changed : TimeEntry}
  {w w' : World σ} {s s' : Store} {journal later : List Exchange}

/-- Every entry but `id` is on its ticket. -/
def RestPaired (id : EntryId) (s : Store) (journal : List Exchange) : Prop :=
  ∀ r ∈ s.entries.rows, r.1 ≠ id → r.2.OnTicket journal

theorem RestPaired.mono (h : RestPaired id s journal) (hs : s'.entries = s.entries)
    (hj : journal <+: later) : RestPaired id s' later :=
  fun r hr hid => (h r (hs ▸ hr) hid).mono hj

theorem RestPaired.saved (h : RestPaired id s journal) (hs : s.saveEntry id changed = .ok s') :
    RestPaired id s' journal := by
  intro r hr hid
  rw [Store.saveEntry_ok hs] at hr
  obtain ⟨a, ha, hr⟩ := (s.entries.mem_modify).mp hr
  rw [if_neg hid] at hr
  rw [hr]
  exact h _ ha hid

theorem RestPaired.joined (h : RestPaired id s journal) (honTicket : changed.OnTicket journal)
    (hs : s.saveEntry id changed = .ok s') : ∀ r ∈ s'.entries.rows, r.2.OnTicket journal := by
  intro r hr
  by_cases hid : r.1 = id
  · rw [Store.saveEntry_ok hs] at hr
    obtain ⟨a, -, hr⟩ := (s.entries.mem_modify).mp hr
    rw [if_pos hid] at hr
    rw [hr]
    exact honTicket
  · exact h.saved hs r hr hid

theorem RestPaired.paired (h : RestPaired id w.store w.journal) (hstep : InStep id e w.store)
    (honTicket : e.OnTicket w.journal) : w.Paired := by
  intro r hr
  by_cases hid : r.1 = id
  · obtain rfl : r = (id, e.stored) := w.store.entries.eq_of_mem hr hstep.row hid
    exact honTicket
  · exact h r hr hid

theorem restPaired_of_paired (h : w.Paired) : RestPaired id w.store w.journal :=
  fun r hr _ => h r hr

theorem paired_bearsClasses : BearsClasses (World.Paired (σ := σ)) := by
  intro w s changed kind h hs r hr
  rw [World.put_store, Store.saveClass_ok hs] at hr
  obtain ⟨a, ha, hr⟩ := (w.store.entries.mem_modify).mp hr
  rw [hr]
  split <;> exact h _ ha

theorem restPaired_bearsRetry :
    BearsRetry user fun w : World σ => RestPaired id w.store w.journal where
  connect _ h := h.mono rfl (List.prefix_append _ _)
  refused _ h _ _ _ := h.mono rfl (List.prefix_append _ _)
  confirmed _ h _ _ _ := h.mono rfl (List.prefix_append _ _)
  unreachable h _ _ := h

theorem restPaired_bearsSettling :
    BearsSettling id fun _ (w : World σ) => RestPaired id w.store w.journal where
  retry _ := restPaired_bearsRetry
  lookUp _ h _ _ _ := h.mono rfl (List.prefix_append _ _)
  retitle _ _ h hs := h.saved hs
  retitleFails _ _ h _ := h

theorem onTicket_bearsSettling :
    BearsSettling id fun _ (w : World σ) => p.OnTicket w.journal where
  retry _ :=
    { connect := fun _ h => h.mono (List.prefix_append _ _)
      refused := fun _ h _ _ _ => h.mono (List.prefix_append _ _)
      confirmed := fun _ h _ _ _ => h.mono (List.prefix_append _ _)
      unreachable := fun h _ _ => h }
  lookUp _ h _ _ _ := h.mono (List.prefix_append _ _)
  retitle _ _ h _ := h
  retitleFails _ _ h _ := h

theorem paired_bearsSettling :
    BearsSettling id fun e (w : World σ) => e.worklog = none ∧ w.Paired where
  retry _ := .and .const
    { connect := fun _ h => h.grown rfl (List.prefix_append _ _)
      refused := fun _ h _ _ _ => h.grown rfl (List.prefix_append _ _)
      confirmed := fun _ h _ _ _ => h.grown rfl (List.prefix_append _ _)
      unreachable := fun h _ _ => h }
  lookUp _ h _ _ _ := ⟨h.1, h.2.grown rfl (List.prefix_append _ _)⟩
  retitle summary ticket h hs :=
    have honTicket : (Entry.retitled _ summary ticket).OnTicket _ := Entry.onTicket_of_none h.1
    ⟨h.1, (restPaired_of_paired h.2).joined honTicket hs⟩
  retitleFails _ _ h _ := h

/-- The copy is stored as it is, and the rest is paired. -/
def Detached (id : EntryId) (e : TimeEntry) (w : World σ) : Prop :=
  InStep id e w.store ∧ RestPaired id w.store w.journal

theorem detached_bearsRetry : BearsRetry user (Detached (σ := σ) id e) :=
  inStep_bearsRetry.and restPaired_bearsRetry

theorem detached_bearsLeaving {I : TimeEntry → World σ → Prop}
    (stays : ∀ {e w}, I e w → movedToOtherTicket e p = false →
      Detached id e w ∧ e.OnTicket w.journal)
    (detached : ∀ {e w}, I e w → Detached id e w) :
    BearsLeaving id p I (Detached id) (fun e w => Detached id e w ∧ e.OnTicket w.journal) where
  stays := stays
  skipped h _ _ := detached h
  recorded h _ _ _ _ hs :=
    have honly := Store.recordStale_onlyStale hs
    ⟨(detached h).1.onlyStale honly, (detached h).2.mono honly.entries_eq List.prefix_rfl⟩
  refused h _ _ _ _ _ := detached h
  retry _ := detached_bearsRetry
  cleared h hs :=
    ⟨⟨(h.1.saved (by rfl) hs).1, h.2.saved hs⟩, Entry.onTicket_of_none rfl⟩
  uncleared h hs := absurd hs (h.1.not_refused rfl)
  none h hnone := ⟨h, Entry.onTicket_of_none hnone⟩

/-- The journal has grown, and either the entry was left as it was, or it was stored with a work-log
that had been created on its ticket. -/
def BookedOnTicket (id : EntryId) (e : TimeEntry) (w : World σ) (e' : TimeEntry) (w' : World σ) :
    Prop :=
  w.journal <+: w'.journal ∧ (e' = e ∧ w'.store = w.store ∨
    ∃ worklog, e' = e.withWorklog (some worklog) ∧ e.worklog ≠ some worklog ∧
      CreatedOn w'.journal e.ticket worklog ∧ w.store.saveEntry id e' = .ok w'.store)

theorem createWorklog_onTicket {c : Connection} {ticket : String} {content : WorklogDraft} :
    (send tracker c (.createWorklog ticket content)).Leads
      (fun worklog w' => w.journal <+: w'.journal ∧ w'.store = w.store ∧
        CreatedOn w'.journal ticket worklog)
      (fun _ w' => w.journal <+: w'.journal ∧ w'.store = w.store) w := by
  apply Leads.send
  · intro worklog remote
    refine ⟨List.prefix_append _ _, rfl, ⟨c.id, ticket, worklog⟩, ?_, rfl, rfl⟩
    simp [Exchange.created?]
  · intro err remote
    exact ⟨List.prefix_append _ _, rfl⟩

theorem writeWorklog_onTicket {c : Connection} {content : WorklogDraft} :
    (writeWorklog tracker c e content).Leads
      (fun worklog w' => w.journal <+: w'.journal ∧ w'.store = w.store ∧
        (e.worklog = some worklog ∨ CreatedOn w'.journal e.ticket worklog))
      (fun _ w' => w.journal <+: w'.journal ∧ w'.store = w.store) w := by
  rw [leads_writeWorklog]
  cases hworklog : e.worklog with
  | none =>
      refine createWorklog_onTicket.mono ?_ (fun _ _ h => h)
      exact fun worklog w' h => ⟨h.1, h.2.1, .inr h.2.2⟩
  | some worklog =>
      dsimp only
      rw [leads_ask]
      generalize (tracker c (.updateWorklog e.ticket worklog content) w.remote).2 = remote
      generalize (tracker c (.updateWorklog e.ticket worklog content) w.remote).1 = reply
      have hgrown : w.journal <+:
          (w.note ⟨c, .updateWorklog e.ticket worklog content, reply, w.store⟩ remote).journal :=
        List.prefix_append _ _
      rcases reply with (detail | what | ⟨text, causes⟩) | _
      · exact ⟨hgrown, rfl⟩
      · refine createWorklog_onTicket.mono ?_ (fun _ w' h => ⟨hgrown.trans h.1, h.2⟩)
        exact fun worklog' w' h => ⟨hgrown.trans h.1, h.2.1, .inr h.2.2⟩
      · exact ⟨hgrown, rfl⟩
      · exact ⟨hgrown, rfl, .inl rfl⟩

theorem book_onTicket {r : Route} :
    (book tracker id r).Leads (fun _ => BookedOnTicket id e w)
      (fun _ _ w' => w.journal <+: w'.journal ∧ w'.store = w.store) e w := by
  rw [leads_book]
  split
  · exact ⟨List.prefix_rfl, .inl ⟨rfl, rfl⟩⟩
  · apply Leads.connect
    · intro token remote
      have hgrown : w.journal <+:
          (w.note ⟨⟨r.id, r.system, token⟩, .connect, .ok (), w.store⟩ remote).journal :=
        List.prefix_append _ _
      refine writeWorklog_onTicket.mono ?_ (fun _ w' h => ⟨hgrown.trans h.1, h.2⟩)
      rintro worklog w₂ ⟨hgrown₂, hstore, hwritten⟩
      have hall := hgrown.trans hgrown₂
      have hstore : w₂.store = w.store := hstore
      split
      · next hother =>
          have hcreated := hwritten.resolve_left hother
          cases hs : w₂.store.saveEntry id (e.withWorklog (some worklog)) with
          | error err => exact ⟨hall, hstore⟩
          | ok s => exact ⟨hall, .inr ⟨worklog, rfl, hother, hcreated, hstore ▸ hs⟩⟩
      · exact ⟨hall, .inl ⟨rfl, hstore⟩⟩
    · exact fun _ _ _ => ⟨List.prefix_append _ _, rfl⟩
    · exact fun _ => ⟨List.prefix_rfl, rfl⟩

theorem finish_onTicket {route : Option Route} :
    (route.elim (pure ()) (book tracker id)).Leads (fun _ => BookedOnTicket id e w)
      (fun _ _ w' => w.journal <+: w'.journal ∧ w'.store = w.store) e w := by
  cases route with
  | none => exact ⟨List.prefix_rfl, .inl ⟨rfl, rfl⟩⟩
  | some r => exact book_onTicket

theorem RestPaired.booked {worklog : String} (h : RestPaired id w.store w.journal)
    (hgrown : w.journal <+: w'.journal) (hcreated : CreatedOn w'.journal e.ticket worklog)
    (hs : w.store.saveEntry id (e.withWorklog (some worklog)) = .ok w'.store) : w'.Paired := by
  have honTicket : (e.withWorklog (some worklog)).OnTicket w'.journal := by
    rintro _ ⟨⟩
    exact hcreated
  exact (h.mono rfl hgrown).joined honTicket hs

theorem finish_keepsPaired {route : Option Route} (h : w.Paired) :
    (route.elim (pure ()) (book tracker id)).Leads (fun _ _ => World.Paired)
      (fun _ _ => World.Paired) e w := by
  refine finish_onTicket.mono ?_ ?_
  · rintro - e' w' ⟨hgrown, ⟨-, hstore⟩ | ⟨worklog, rfl, -, hcreated, hs⟩⟩
    · exact h.grown (by rw [hstore]) hgrown
    · exact (restPaired_of_paired h).booked hgrown hcreated hs
  · rintro err e' w' ⟨hgrown, hstore⟩
    exact h.grown (by rw [hstore]) hgrown

theorem finish_pairs (hrest : RestPaired id w.store w.journal) (hrenewed : Renewed tracker id e w) :
    ((w.store.bookingRoute? e.project).elim (pure ()) (book tracker id)).Leads
      (fun _ _ => World.Paired) (fun _ _ => World.Paired) e w := by
  refine (finish_onTicket.and hrenewed).mono ?_ (fun _ _ _ h => h.2.elim)
  rintro - e' w' ⟨⟨hgrown, ⟨rfl, -⟩ | ⟨worklog, rfl, -, hcreated, hs⟩⟩, hother⟩
  · exact absurd rfl hother
  · exact hrest.booked hgrown hcreated hs

theorem reconcile_new_keepsPaired (h : w.Paired) (hnone : e.worklog = none) :
    (reconcile tracker id none).Leads (fun _ _ => World.Paired) (fun _ _ => World.Paired) e w :=
  reconcile_stages (by simp) ((settle_keeps paired_bearsSettling ⟨hnone, h⟩).mono
    (fun _ _ _ h => h.1) (fun _ _ _ h => h.1.2)) (fun _ _ _ h => h) (by simp)
    fun h _ _ => finish_keepsPaired h.2

theorem reconcile_edited_keepsPaired (hdetached : Detached id e w)
    (honTicket : p.OnTicket w.journal) (hworklog : e.worklog = p.worklog) (huser : p.user = e.user)
    (keeps : KeepsTicket tracker (id, e, some p) w) :
    (reconcile tracker id (some p)).Leads (fun _ _ => World.Paired)
      (fun _ _ => World.Paired) e w := by
  have hsettled := (settle_keeps ((inStep_bearsSettling.and restPaired_bearsSettling).and
    (worklog_bearsSettling.and onTicket_bearsSettling))
    ⟨hdetached, hworklog, honTicket⟩).and (keeps p rfl)
  refine reconcile_stages
    (A := fun e w => Detached id e w ∧
      (e.OnTicket w.journal ∨ movedToOtherTicket e p = true ∨ Renewed tracker id e w))
    (B := fun e w => Detached id e w ∧ (e.OnTicket w.journal ∨ Renewed tracker id e w))
    ?_ (hsettled.mono ?_ ?_) nofun ?_ ?_
  · rintro _ ⟨⟩
    exact huser
  · rintro route e₁ w₁ ⟨⟨⟨hdetached₁, hworklog₁, honTicket₁⟩, -⟩, hkept⟩
    exact ⟨hdetached₁, hkept.imp_left fun hstays => hstays.onTicket hworklog₁ honTicket₁⟩
  · rintro err e₁ w₁ ⟨⟨⟨⟨hstep₁, hrest₁⟩, hworklog₁, honTicket₁⟩, -⟩, hstays⟩
    exact hrest₁.paired hstep₁ (hstays.onTicket hworklog₁ honTicket₁)
  · rintro _ ⟨⟩ e₁ w₁ ⟨hdetached₁, hkept⟩ hsame _
    by_cases hmoved : movedToOtherTicket e₁ p = true
    · refine (leaveTicket_keeps (detached_bearsLeaving
        (I := fun e w => movedToOtherTicket e p = true ∧ Detached id e w) ?_ fun h => h.2)
        ⟨hmoved, hdetached₁⟩ (huser.trans hsame.user.symm)).mono ?_ ?_
      · rintro e w ⟨hmoved, -⟩ hstays
        simp [hstays] at hmoved
      · rintro - e₂ w₂ ⟨⟨hdetached₂, honTicket₂⟩, -⟩
        exact ⟨hdetached₂, .inl honTicket₂⟩
      · rintro err e₂ w₂ ⟨⟨hstep₂, hrest₂⟩, honTicket₂⟩
        exact hrest₂.paired hstep₂ honTicket₂
    · rw [leads_leaveTicket, if_neg hmoved]
      exact ⟨hdetached₁, hkept.imp_right fun h => h.resolve_left hmoved⟩
  · rintro e₁ w₁ ⟨⟨hstep₁, hrest₁⟩, honTicket₁ | hrenewed⟩ _ _
    · exact finish_keepsPaired (hrest₁.paired hstep₁ honTicket₁)
    · exact finish_pairs hrest₁ hrenewed

section Accepted
variable {input : EntryInput} {target : Option EntryId}
  {r : EntryId × TimeEntry × Option TimeEntry} (h : Accepted w.store user input target r s)
include h

theorem Accepted.restPaired (hw : w.Paired) : RestPaired r.1 s w.journal := by
  intro r' hr' hid
  have hrest : r' ∈ (s.eraseEntry r.1).entries.rows := (s.entries.mem_erase).mpr ⟨hr', hid⟩
  rw [h.erase] at hrest
  exact hw r' ((w.store.entries.mem_erase).mp hrest).1

theorem Accepted.previous_onTicket (hw : w.Paired) : ∀ p ∈ r.2.2, p.OnTicket w.journal := by
  cases h with
  | new => simp
  | edited row =>
      rintro _ ⟨⟩
      obtain ⟨stored, kind, hstored, rfl⟩ := Store.row_of_entryAt row
      exact hw _ hstored

theorem Accepted.new_paired (hw : w.Paired) (hnew : r.2.2 = none) :
    r.2.1.worklog = none ∧ (w.put s).Paired := by
  cases h with
  | new =>
      refine ⟨rfl, fun r hr => ?_⟩
      rcases (w.store.entries.mem_push).mp hr with hold | rfl
      · exact hw r hold
      · exact Entry.onTicket_of_none rfl
  | edited => cases hnew

end Accepted

theorem save_keepsPaired {target : Option EntryId} {input : EntryInput} (h : w.Paired)
    (keeps : (accept user target input).Leads (KeepsTicket tracker) (fun _ _ => True) w) :
    (save tracker user target input).Leads (fun _ => World.Paired) (fun _ => World.Paired) w := by
  refine save_keeps ((accept_stores.and keeps).mono ?_ (fun _ _ hw => hw.1 ▸ h))
    paired_bearsClasses
  rintro ⟨id, e, previous⟩ _ ⟨⟨s, haccepted, rfl⟩, hkeeps⟩
  rcases previous with _ | p
  · obtain ⟨hnone, hpaired⟩ := haccepted.new_paired h rfl
    exact reconcile_new_keepsPaired hpaired hnone
  · obtain ⟨huser, hworklog⟩ := haccepted.previous p rfl
    exact reconcile_edited_keepsPaired ⟨haccepted.inStep_edited p rfl, haccepted.restPaired h⟩
      (haccepted.previous_onTicket h p rfl) hworklog huser hkeeps

theorem delete_keepsPaired (h : w.Paired) :
    (delete tracker user id).Leads (fun _ => World.Paired) (fun _ => World.Paired) w := by
  refine (delete_keeps (fun {e} _ _ => ?_) paired_bearsClasses).mono (fun _ _ h => h)
    (fun _ _ hw => hw ▸ h)
  have hrest : RestPaired id w.store w.journal := restPaired_of_paired h
  have herased : ∀ {w' : World σ}, RestPaired id w'.store w'.journal →
      (w'.put (w'.store.eraseEntry id)).Paired := by
    intro w' hrest r hr
    obtain ⟨hr, hid⟩ := (w'.store.entries.mem_erase).mp hr
    exact hrest r hr hid
  refine (removeWorklog_keeps restPaired_bearsRetry (fun _ => hrest) ?_
    (fun _ _ _ _ => hrest)).mono (fun _ _ h => herased h.1) (fun _ _ h => herased h.1)
  intro _ _ _ _ _ _ hs
  exact hrest.mono (Store.recordStale_onlyStale hs).entries_eq List.prefix_rfl

theorem work_keepsPaired {c : Call σ} (h : w.Paired) (coherent : c.Coherent w) :
    c.work.Leads (fun _ => World.Paired) (fun _ => World.Paired) w := by
  refine work_keeps h (fun input w' h' => save_keepsPaired h' ?_)
    (fun id input haction => save_keepsPaired h ?_) (fun id _ => delete_keepsPaired h)
  · exact accept_new.mono (fun _ _ hnone p hp => by simp [hnone] at hp) (fun _ _ _ => trivial)
  · rw [Call.Coherent, haction] at coherent
    exact coherent

end Sync

/-- The work-log of the entry was created on another ticket. -/
def Entry.OffTicket {κ : Type} (e : Entry κ) (journal : List Exchange) : Prop :=
  ∃ id ticket, e.worklog = some id ∧ CreatedOn journal ticket id ∧ ticket ≠ e.ticket

def World.Mispaired (w : World σ) : Prop := ∃ r ∈ w.store.entries.rows, r.2.OffTicket w.journal

theorem Entry.OffTicket.mono {κ : Type} {e : Entry κ} {journal later : List Exchange}
    (h : e.OffTicket journal) (hj : journal <+: later) : e.OffTicket later := by
  obtain ⟨id, ticket, hid, hcreated, hother⟩ := h
  exact ⟨id, ticket, hid, hcreated.mono hj, hother⟩

theorem World.Mispaired.not_paired {w : World σ} (h : w.Mispaired) (fresh : FreshIds w.journal) :
    ¬ w.Paired := by
  obtain ⟨r, hr, id, ticket, hid, hcreated, hother⟩ := h
  exact fun hpaired => hother (hcreated.unique fresh (hpaired r hr id hid))

theorem offTicket_of_not_staysPut {p e : TimeEntry} {journal : List Exchange}
    (h : ¬ StaysPut p e) (hworklog : e.worklog = p.worklog) (hp : p.OnTicket journal) :
    e.OffTicket journal := by
  obtain ⟨hsome, hother⟩ := not_or.mp h
  obtain ⟨id, hid⟩ := Option.ne_none_iff_exists'.mp hsome
  exact ⟨id, p.ticket, hworklog.trans hid, hp id hid, fun hticket => hother hticket.symm⟩

namespace Sync

variable {tracker : Tracker σ} {user : UserId} {id : EntryId} {e p : TimeEntry} {w w' : World σ}

theorem mispaired_of_inStep (hstep : InStep id e w.store) (hoff : e.OffTicket w.journal) :
    w.Mispaired := ⟨_, hstep.row, hoff⟩

theorem mispaired_bearsClasses : BearsClasses (World.Mispaired (σ := σ)) := by
  rintro w s id kind ⟨r, hr, hoff⟩ hs
  refine ⟨(r.1, if r.1 = id then r.2.withKind kind.code else r.2), ?_, ?_⟩
  · rw [World.put_store, Store.saveClass_ok hs]
    exact (w.store.entries.mem_modify).mpr ⟨r.2, hr, rfl⟩
  · dsimp only
    split <;> exact hoff

theorem finish_mispairs (hstep : InStep id e w.store) (hoff : e.OffTicket w.journal)
    (hkept : ¬ Renewed tracker id e w) :
    ((w.store.bookingRoute? e.project).elim (pure ()) (book tracker id)).Leads
      (fun _ _ => World.Mispaired) (fun _ _ => World.Mispaired) e w := by
  have hsame : ∀ {w' : World σ}, w.journal <+: w'.journal → w'.store = w.store → w'.Mispaired :=
    fun hgrown hstore => mispaired_of_inStep (hstore ▸ hstep) (hoff.mono hgrown)
  refine (finish_onTicket.and (Working.leads_not.mp hkept)).mono ?_ ?_
  · rintro - e' w' ⟨⟨hgrown, ⟨-, hstore⟩ | ⟨worklog, rfl, hother, -⟩⟩, hkept⟩
    · exact hsame hgrown hstore
    · exact absurd hother.symm hkept
  · rintro err e' w' ⟨⟨hgrown, hstore⟩, -⟩
    exact hsame hgrown hstore

theorem reconcile_mispairs (hstep : InStep id e w.store) (honTicket : p.OnTicket w.journal)
    (hworklog : e.worklog = p.worklog) (huser : p.user = e.user)
    (hno : ¬ KeepsTicket tracker (id, e, some p) w) :
    (reconcile tracker id (some p)).Leads (fun _ _ => World.Mispaired)
      (fun _ _ => World.Mispaired) e w := by
  have hlost : ¬ (settle tracker id).Leads
      (fun _ e w' => StaysPut p e ∨ movedToOtherTicket e p = true ∨ Renewed tracker id e w')
      (fun _ e _ => StaysPut p e) e w := by
    simpa [KeepsTicket] using hno
  have hsettled := (settle_keeps (inStep_bearsSettling.and
    (worklog_bearsSettling.and onTicket_bearsSettling)) ⟨hstep, hworklog, honTicket⟩).and
    (Working.leads_not.mp hlost)
  refine reconcile_stages
    (A := fun e w => InStep id e w.store ∧ e.OffTicket w.journal ∧
      ¬ movedToOtherTicket e p = true ∧ ¬ Renewed tracker id e w)
    (B := fun e w => InStep id e w.store ∧ e.OffTicket w.journal ∧ ¬ Renewed tracker id e w)
    ?_ (hsettled.mono ?_ ?_) nofun ?_ ?_
  · rintro _ ⟨⟩
    exact huser
  · rintro route e₁ w₁ ⟨⟨⟨hstep₁, hworklog₁, honTicket₁⟩, -⟩, hno₁⟩
    obtain ⟨hleft, hno₁⟩ := not_or.mp hno₁
    exact ⟨hstep₁, offTicket_of_not_staysPut hleft hworklog₁ honTicket₁, not_or.mp hno₁⟩
  · rintro err e₁ w₁ ⟨⟨⟨hstep₁, hworklog₁, honTicket₁⟩, -⟩, hleft⟩
    exact mispaired_of_inStep hstep₁ (offTicket_of_not_staysPut hleft hworklog₁ honTicket₁)
  · rintro _ ⟨⟩ e₁ w₁ ⟨hstep₁, hoff₁, hunseen, hkept⟩ _ _
    -- The move is not noticed, so the entry takes its work-log along.
    rw [leads_leaveTicket, if_neg hunseen]
    exact ⟨hstep₁, hoff₁, hkept⟩
  · rintro e₁ w₁ ⟨hstep₁, hoff₁, hkept⟩ _ _
    exact finish_mispairs hstep₁ hoff₁ hkept

theorem work_mispairs {c : Call σ} (h : w.Paired) (incoherent : ¬ c.Coherent w) :
    c.work.Leads (fun _ => World.Mispaired) (fun _ => World.Mispaired) w := by
  unfold Call.Coherent at incoherent
  split at incoherent
  · next id input haction =>
      unfold Call.work
      rw [haction]
      refine leads_discard.mpr (save_keeps ?_ mispaired_bearsClasses)
      refine (accept_stores.and (leads_not.mp incoherent)).mono ?_
        (fun _ _ hno => absurd trivial hno.2)
      rintro ⟨id, e, previous⟩ _ ⟨⟨s, haccepted, rfl⟩, hno⟩
      rcases previous with _ | p
      · exact absurd (fun p hp => by cases hp) hno
      · obtain ⟨huser, hworklog⟩ := haccepted.previous p rfl
        exact reconcile_mispairs (haccepted.inStep_edited p rfl)
          (haccepted.previous_onTicket h p rfl) hworklog huser hno
  · exact absurd trivial incoherent

end Sync

theorem paired_next_iff {c : Call σ} {w : World σ} (fresh : FreshIds (w.next (.call c)).journal)
    (h : w.Paired) : (w.next (.call c)).Paired ↔ c.Coherent w := by
  constructor
  · intro hnext
    by_contra incoherent
    exact (Sync.work_mispairs h incoherent).always.not_paired fresh hnext
  · intro coherent
    exact (Sync.work_keepsPaired h coherent).always

theorem FreshIds.of_next {c : Call σ} {w : World σ}
    (fresh : FreshIds (w.next (.call c)).journal) : FreshIds w.journal := by
  obtain ⟨sent, hjournal, -⟩ := Sync.next_heldBack c w
  rw [hjournal] at fresh
  exact fresh.of_append

/-- In a run from an unused world in which no identifier is given twice, after each call every
work-log of an entry is one that was created on the ticket of the entry, exactly when each call of
the run is coherent. -/
theorem paired_iff_coherent {w : World σ} (unused : w.Unused) (calls : List (Call σ))
    (fresh : FreshIds (w.after (calls.map .call)).journal) :
    (∀ done, done <+: calls → (w.after (done.map .call)).Paired) ↔
      EachCall Call.Coherent w calls :=
  eachCall_iff_within (F := fun w => FreshIds w.journal) FreshIds.of_next paired_next_iff
    (fun r hr => by simp [unused.entries] at hr) calls fresh

theorem stubbornOffice_unused : stubbornOffice.Unused := ⟨rfl, rfl, rfl⟩

theorem paired_iff_coherent_twoMoves :
    (∀ done, done <+: twoMoves → (stubbornOffice.after (done.map .call)).Paired) ↔
      EachCall Call.Coherent stubbornOffice twoMoves :=
  paired_iff_coherent stubbornOffice_unused twoMoves twoMoves_fresh

/-- A call that changes an entry leaves it in its project. -/
def Call.KeepsProject (c : Call σ) (w : World σ) : Prop :=
  match c.action with
  | .save (some id) input => ∀ r ∈ w.store.entries.rows, r.1 = id → input.project = r.2.project
  | _ => True

/-- Every entry stays in its project. But when the first entry moves, the pending deletion of the
second one's work-log fails again, so the first keeps a work-log that was created on "A-1". -/
theorem twoMoves_mispairs :
    stubbornOffice.Unused ∧ FreshIds (stubbornOffice.after (twoMoves.map .call)).journal ∧
      EachCall Call.KeepsProject stubbornOffice twoMoves ∧
      ¬ (stubbornOffice.after (twoMoves.map .call)).Paired := by
  refine ⟨stubbornOffice_unused, twoMoves_fresh, ⟨trivial, trivial, ?_, ?_, trivial⟩, ?_⟩
  · simp only [Call.KeepsProject, saveOnTicket]
    decide +kernel
  · simp only [Call.KeepsProject, saveOnTicket]
    decide +kernel
  · decide +kernel

end Timesheet
