import Timesheet.Proofs.Classes
import Timesheet.Proofs.Resolution

/-!
Entries at rest. Saving such an entry with its own values again makes of it what it is already, as
long as the tracker answers as it did: the ticket is looked up, and the work-log is updated once.

Where a reply is another one the save may go any way, so each stage is followed up to the first such
reply. From then on it is enough that the reply stays in the journal.
-/
namespace Timesheet

/-- Key of the internal project in which the tickets of the project `id` are looked up. -/
def Store.searchedKey? (s : Store) (id : ProjectId) : Option String :=
  (s.bookingRoute? id).bind Route.internalKey

/-- The entry is stored under `id` as its own values would be, it was brought up to date as far as
that can be, and its day is classified. -/
structure AtRest (id : EntryId) (e : TimeEntry) (s : Store) : Prop extends InStep id e s where
  accepted : (EntryInput.ofEntry e).check s = .ok ()
  normal : e.Normal
  trimmed : Text.trim e.ticket = e.ticket
  pending : s.pendingOf e.user = []
  routed : ∃ p route, s.project? e.project = some p ∧ Route.ofProject s p = .ok route
  identified : s.searchedKey? e.project ≠ none → Sync.identifier e ≠ "" →
    e.typed = some (Sync.identifier e) ∧ e.ticket ≠ ""
  booked : ∀ r, s.bookingRoute? e.project = some r → e.ticket ≠ "" →
    ∃ worklog token, e.worklog = some worklog ∧ s.token? e.user r.id = some token
  classes : Store.RightClasses (s.dayRows e.user e.day)

/-- The reply is the one on which the entry rests: connections are made, the first issue that has
the identifier of the entry for its summary has its ticket, and its work-log is updated. -/
def Exchange.Agrees (e : TimeEntry) : Exchange → Prop
  | ⟨_, .connect, reply, _⟩ => reply = .ok ()
  | ⟨_, .search .., reply, _⟩ => ∃ before issue after, reply = .ok (before ++ issue :: after) ∧
    issue.IsNamed (Sync.identifier e) ∧ (∀ i ∈ before, ¬ i.IsNamed (Sync.identifier e)) ∧
    issue.key = e.ticket
  | ⟨_, .updateWorklog ticket worklog _, reply, _⟩ =>
    ticket = e.ticket → e.worklog = some worklog → reply = .ok ()
  | _ => True

def Request.Asks : Request → Prop
  | .connect => True
  | .search .. => True
  | _ => False

/-- The request neither creates nor deletes anything. -/
def Request.Conserves : Request → Prop
  | .createIssue .. => False
  | .createWorklog .. => False
  | .deleteWorklog .. => False
  | _ => True

def Exchange.update? : Exchange → Option Worklog
  | ⟨c, .updateWorklog ticket id _, _, _⟩ => some ⟨c.id, ticket, id⟩
  | _ => none

/-- What is sent neither creates nor deletes anything. It updates the work-log of the entry once if
that is to be booked, and no work-log otherwise. -/
structure UpdatesOnce (s : Store) (e : TimeEntry) (sent : List Exchange) : Prop where
  conserves : ∀ x ∈ sent, x.request.Conserves
  booked : ∀ r, s.bookingRoute? e.project = some r → e.ticket ≠ "" →
    ∃ worklog, e.worklog = some worklog ∧
      sent.filterMap Exchange.update? = [⟨r.id, e.ticket, worklog⟩]
  unbooked : s.bookingRoute? e.project = none ∨ e.ticket = "" →
    sent.filterMap Exchange.update? = []

variable {σ : Type} {tracker : Tracker σ} {id : EntryId} {e e' : TimeEntry} {w w' : World σ}
  {s : Store} {start sent : List Exchange} {x : Exchange}

theorem Exchange.agrees_search {c : Connection} {query : String} {fields : List String}
    {limit : Nat} {reply : Except TrackerError (List Issue)} {s : Store} :
    (Exchange.mk c (.search query fields limit) reply s).Agrees e ↔
      ∃ issues issue, reply = .ok issues ∧ Sync.issueOf (Sync.identifier e) issues = some issue ∧
        issue.key = e.ticket := by
  simp only [Sync.issueOf_eq_some_iff]
  constructor
  · rintro ⟨before, issue, after, hreply, hnamed, hfirst, hkey⟩
    exact ⟨_, issue, hreply, ⟨before, after, rfl, hnamed, hfirst⟩, hkey⟩
  · rintro ⟨_, issue, hreply, ⟨before, after, rfl, hnamed, hfirst⟩, hkey⟩
    exact ⟨before, issue, after, hreply, hnamed, hfirst, hkey⟩

instance (e : TimeEntry) : DecidablePred (Exchange.Agrees e)
  | ⟨_, .connect, reply, _⟩ => inferInstanceAs (Decidable (reply = .ok ()))
  | ⟨_, .search _ _ _, .ok issues, _⟩ =>
    decidable_of_iff ((Sync.issueOf (Sync.identifier e) issues).map (·.key) = some e.ticket) <| by
      simp [Exchange.agrees_search]
  | ⟨_, .search _ _ _, .error _, _⟩ => .isFalse (by simp [Exchange.agrees_search])
  | ⟨_, .updateWorklog ticket worklog _, reply, _⟩ =>
    inferInstanceAs (Decidable (ticket = e.ticket → e.worklog = some worklog → reply = .ok ()))
  | ⟨_, .createIssue _ _, _, _⟩ => .isTrue trivial
  | ⟨_, .createWorklog _ _, _, _⟩ => .isTrue trivial
  | ⟨_, .deleteWorklog _ _, _, _⟩ => .isTrue trivial
  | ⟨_, .subtickets _, _, _⟩ => .isTrue trivial

/-- Since `start` there was a reply that does not agree with the entry. -/
def Disagreed (e : TimeEntry) (start : List Exchange) (w : World σ) : Prop :=
  ∃ sent, w.journal = start ++ sent ∧ ∃ x ∈ sent, ¬ x.Agrees e

theorem Disagreed.note (h : Disagreed e start w) (x : Exchange) (remote : σ) :
    Disagreed e start (w.note x remote) := by
  obtain ⟨sent, hjournal, y, hy, hdisagrees⟩ := h
  exact ⟨sent ++ [x], by simp [hjournal], y, List.mem_append_left _ hy, hdisagrees⟩

theorem Disagreed.put (h : Disagreed e start w) (s : Store) : Disagreed e start (w.put s) := h

theorem disagreed_bearsCall {user : UserId} :
    Sync.BearsCall user (Disagreed (σ := σ) e start) where
  retry :=
    { connect := fun remote h => h.note _ remote
      refused := fun remote h _ _ _ => h.note _ remote
      confirmed := fun remote h _ _ _ => (h.note _ remote).put _
      unreachable := fun h _ _ => h.put _ }
  note remote h _ _ := h.note _ remote
  entries _ h := h.put _
  record h _ _ := h.put _

theorem Request.Asks.conserves {r : Request} (h : r.Asks) : r.Conserves := by
  cases r <;> trivial

theorem Exchange.update?_of_asks (h : x.request.Asks) : x.update? = none := by
  obtain ⟨c, r, reply, s⟩ := x
  cases r <;> first | rfl | exact h.elim

theorem filterMap_update?_of_asks (h : ∀ x ∈ sent, x.request.Asks) :
    sent.filterMap Exchange.update? = [] :=
  List.filterMap_eq_nil_iff.mpr fun x hx => x.update?_of_asks (h x hx)

theorem UpdatesOnce.of_asks (h : ∀ x ∈ sent, x.request.Asks)
    (hno : s.bookingRoute? e.project = none ∨ e.ticket = "") : UpdatesOnce s e sent where
  conserves x hx := (h x hx).conserves
  booked r hr ht := by
    rcases hno with hno | hno
    · rw [hr] at hno
      cases hno
    · exact absurd hno ht
  unbooked _ := filterMap_update?_of_asks h

theorem UpdatesOnce.updated {c : Connection} {r : Route} {worklog : String} {content : WorklogDraft}
    {reply : Except TrackerError Unit} {seen : Store} (h : ∀ x ∈ sent, x.request.Asks)
    (hr : s.bookingRoute? e.project = some r) (hc : c.id = r.id) (ht : e.ticket ≠ "")
    (hw : e.worklog = some worklog) :
    UpdatesOnce s e (sent ++ [⟨c, .updateWorklog e.ticket worklog content, reply, seen⟩]) where
  conserves x hx := by
    rcases List.mem_append.mp hx with hx | hx
    · exact (h x hx).conserves
    · rw [List.mem_singleton.mp hx]
      trivial
  booked r' hr' _ := by
    obtain rfl : r = r' := Option.some.inj (hr.symm.trans hr')
    refine ⟨worklog, hw, ?_⟩
    rw [List.filterMap_append, filterMap_update?_of_asks h]
    simp [Exchange.update?, hc]
  unbooked hno := by
    rcases hno with hno | hno
    · rw [hr] at hno
      cases hno
    · exact absurd hno ht

/-- The copy and the store are as they were in `w`, and nothing but questions was sent since. -/
structure Untouched (e : TimeEntry) (w : World σ) (e' : TimeEntry) (w' : World σ) : Prop where
  copy : e' = e
  store : w'.store = w.store
  sent : SentOnly (fun x => x.request.Asks) w.journal w'

theorem Untouched.refl (e : TimeEntry) (w : World σ) : Untouched e w e w := ⟨rfl, rfl, .refl w⟩

theorem Untouched.note (h : Untouched e w e' w') (x : Exchange) (remote : σ)
    (hx : x.request.Asks) : Untouched e w e' (w'.note x remote) :=
  ⟨h.copy, h.store, h.sent.note remote hx⟩

theorem Untouched.disagreed (h : Untouched e w e' w') (remote : σ) (hx : ¬ x.Agrees e) :
    Disagreed e w.journal (w'.note x remote) := by
  obtain ⟨sent, hjournal, -⟩ := h.sent
  exact ⟨sent ++ [x], by simp [hjournal], x, by simp, hx⟩

theorem InStep.saves_itself (h : InStep id e s) : s.saveEntry id e = .ok s := by
  rw [h.saves rfl, Table.modify_of_mem _ h.row]

theorem Entry.normalize_of_normal {κ : Type} {e : Entry κ} (h : e.Normal) : e.normalize = e := by
  obtain ⟨hle, hminutes⟩ := h
  have hstays : ¬ e.finish < e.start := Nat.not_lt.mpr hle
  unfold Entry.normalize
  simp only [if_neg hstays, ← hminutes]

theorem EntryInput.applyTo_ofEntry (normal : e.Normal) (trimmed : Text.trim e.ticket = e.ticket) :
    (ofEntry e).applyTo e = e := by
  unfold applyTo ofEntry
  simp only [trimmed, ne_eq, not_true_eq_false, false_and, if_false]
  exact Entry.normalize_of_normal normal

namespace Sync

theorem connect_rests {system : SystemId} {target : TicketSystem} {token : AccessToken}
    {Q : Connection → World σ → Prop} {E : SyncError → World σ → Prop} (h : Untouched e w e w')
    (held : w'.store.token? e.user system = some token)
    (made : ∀ {w''}, Untouched e w e w'' → Q ⟨system, target, token⟩ w'')
    (refused : ∀ {err w''}, Disagreed e w.journal w'' → E err w'') :
    (connect tracker e.user system target).Leads Q E w' := by
  rw [leads_connect, held]
  apply Leads.send
  · exact fun _ remote => made (h.note _ remote trivial)
  · exact fun err remote => refused (h.disagreed remote nofun)

theorem internalIssue_rests {c : Connection} {key : String} (h : Untouched e w e w') :
    (internalIssue tracker c key ⟨identifier e, e.description⟩).Leads
      (fun ticket w'' => ticket = e.ticket ∧ Untouched e w e w'' ∨ Disagreed e w.journal w'')
      (fun _ w'' => Disagreed e w.journal w'') w' := by
  unfold internalIssue
  rw [leads_bind]
  apply Leads.send
  · intro issues remote
    by_cases hagrees : (Exchange.mk c (.search (internalQuery key (identifier e)) ["key", "summary"]
        internalSearchLimit) (.ok issues) w'.store).Agrees e
    · obtain ⟨_, issue, hreply, hissue, hkey⟩ := Exchange.agrees_search.mp hagrees
      obtain rfl := Except.ok.inj hreply
      simp only [hissue]
      exact .inl ⟨hkey, h.note _ remote trivial⟩
    · have hdisagreed := h.disagreed remote hagrees
      cases issueOf (identifier e) issues with
      | some issue => exact .inr hdisagreed
      | none =>
          exact Leads.send (fun _ remote' => .inr (hdisagreed.note _ remote'))
            (fun _ remote' => hdisagreed.note _ remote')
  · intro err remote
    refine h.disagreed remote fun hagrees => ?_
    obtain ⟨_, _, hreply, -⟩ := Exchange.agrees_search.mp hagrees
    cases hreply

theorem resolveInternal_rests {r : Route} {key : String} (step : InStep id e w.store)
    (held : identifier e ≠ "" → ∃ token, w.store.token? e.user r.id = some token)
    (typed : identifier e ≠ "" → e.typed = some (identifier e)) :
    (resolveInternal tracker id r key).Leads
      (fun _ e' w' => Untouched e w e' w' ∨ Disagreed e w.journal w')
      (fun _ _ w' => Disagreed e w.journal w') e w := by
  rw [leads_resolveInternal]
  split
  · exact .inl (.refl e w)
  · next hne =>
      obtain ⟨token, htoken⟩ := held hne
      have hretitled : e.retitled (identifier e) e.ticket = e := by
        rw [Entry.retitled, ← typed hne]
      refine connect_rests (.refl e w) htoken (fun hconnected => ?_) (fun h => h)
      refine (internalIssue_rests hconnected).mono ?_ (fun _ _ h => h)
      rintro ticket w₂ (⟨rfl, hfound⟩ | hdisagreed)
      · have hsaved : w₂.store.saveEntry id e = .ok w₂.store := by
          rw [hfound.store, step.saves_itself]
        simp only [hretitled, hsaved]
        exact .inl hfound
      · split
        · exact .inr hdisagreed
        · exact hdisagreed

theorem settle_rests (rest : AtRest id e w.store) :
    (settle tracker id).Leads
      (fun _ e' w' => Untouched e w e' w' ∨ Disagreed e w.journal w')
      (fun _ _ w' => Disagreed e w.journal w') e w := by
  refine settle_stages (A := fun w' => w = w')
    ((leads_retryPending_of_none rest.pending).mpr rfl) ?_ ?_ ?_
  · rintro err _ rfl hunrouted
    obtain ⟨project, route, hproject, hroute⟩ := rest.routed
    exact absurd hroute (hunrouted project route hproject)
  · rintro _ p route rfl - - -
    exact .inl (.refl e w)
  · rintro _ p route r key rfl - - hr hkey
    have hsearched : w.store.searchedKey? e.project ≠ none := by
      simp [Store.searchedKey?, hr, hkey]
    refine resolveInternal_rests rest.toInStep (fun hne => ?_)
      (fun hne => (rest.identified hsearched hne).1)
    obtain ⟨-, token, -, htoken⟩ := rest.booked r hr (rest.identified hsearched hne).2
    exact ⟨token, htoken⟩

theorem writeWorklog_rests {r : Route} {c : Connection} {worklog : String} {content : WorklogDraft}
    (h : Untouched e w e w') (hr : w.store.bookingRoute? e.project = some r) (hc : c.id = r.id)
    (ht : e.ticket ≠ "") (hw : e.worklog = some worklog) :
    (writeWorklog tracker c e content).Leads
      (fun written w'' => written = worklog ∧ w''.store = w.store ∧
          Adds (UpdatesOnce w.store e) w.journal w''.journal ∨ Disagreed e w.journal w'')
      (fun _ w'' => Disagreed e w.journal w'') w' := by
  have hrefused : ∀ err remote, Disagreed e w.journal (w'.note ⟨c,
      .updateWorklog e.ticket worklog content, .error err, w'.store⟩ remote) :=
    fun err remote => h.disagreed remote fun hagrees => nomatch hagrees rfl hw
  rw [leads_writeWorklog, hw]
  dsimp only
  rw [leads_ask]
  rcases tracker c (.updateWorklog e.ticket worklog content) w'.remote with
    ⟨(detail | what | ⟨text, causes⟩) | _, remote⟩
  · exact hrefused _ remote
  · -- The work-log has vanished, and another one is created.
    exact Leads.send (fun _ remote' => .inr ((hrefused _ remote).note _ remote'))
      (fun _ remote' => (hrefused _ remote).note _ remote')
  · exact hrefused _ remote
  · refine .inl ⟨rfl, h.store, Adds.append h.sent (.one (P := Eq [_]) rfl) ?_⟩
    rintro asked _ hasked rfl
    exact .updated hasked hr hc ht hw

theorem book_rests {r : Route} (rest : AtRest id e w.store) (h : Untouched e w e w')
    (hr : w.store.bookingRoute? e.project = some r) :
    (book tracker id r).Leads
      (fun _ _ w'' => w''.store = w.store ∧ Adds (UpdatesOnce w.store e) w.journal w''.journal ∨
        Disagreed e w.journal w'')
      (fun _ _ w'' => Disagreed e w.journal w'') e w' := by
  rw [leads_book]
  split
  · next hticket =>
      obtain ⟨sent, hjournal, hsent⟩ := h.sent
      exact .inl ⟨h.store, sent, hjournal, .of_asks hsent (.inr hticket)⟩
  · next hticket =>
      obtain ⟨worklog, token, hw, htoken⟩ := rest.booked r hr hticket
      refine connect_rests h (h.store ▸ htoken) (fun hconnected => ?_) (fun h => h)
      refine (writeWorklog_rests hconnected hr rfl hticket hw).mono ?_ (fun _ _ h => h)
      rintro written w₂ (⟨rfl, hupdated⟩ | hdisagreed)
      · rw [if_neg (not_not.mpr hw)]
        exact .inl hupdated
      · split
        · split
          · exact .inr hdisagreed
          · exact hdisagreed
        · exact .inr hdisagreed

theorem reconcile_rests (rest : AtRest id e w.store) :
    (reconcile tracker id (some e)).Leads
      (fun _ _ w' => w'.store = w.store ∧ Adds (UpdatesOnce w.store e) w.journal w'.journal ∨
        Disagreed e w.journal w')
      (fun _ _ w' => Disagreed e w.journal w') e w := by
  have hbears : BearsCall e.user (Disagreed (σ := σ) e w.journal) := disagreed_bearsCall
  refine reconcile_stages
    (A := fun e' w' => Untouched e w e' w' ∨ Disagreed e w.journal w')
    (B := fun e' w' => Untouched e w e' w' ∨ Disagreed e w.journal w')
    ?_ (settle_rests rest) nofun ?_ ?_
  · rintro _ ⟨⟩
    rfl
  · rintro _ ⟨⟩ e₁ w₁ (huntouched | hdisagreed) hsame -
    · obtain rfl := huntouched.copy
      have hstays : movedToOtherTicket e₁ e₁ ≠ true := by simp [movedToOtherTicket]
      rw [leads_leaveTicket, if_neg hstays]
      exact .inl huntouched
    · exact (leaveTicket_keeps (hbears.leaving rfl) ⟨hsame.user, hdisagreed⟩ hsame.user.symm).mono
        (fun _ _ _ h => .inr h.1.2) (fun _ _ _ h => h.2)
  · rintro e₁ w₁ (huntouched | hdisagreed) hsame hpending
    · obtain rfl := huntouched.copy
      rw [huntouched.store]
      cases hr : w.store.bookingRoute? e₁.project with
      | none =>
          obtain ⟨sent, hjournal, hsent⟩ := huntouched.sent
          exact .inl ⟨huntouched.store, sent, hjournal, .of_asks hsent (.inl hr)⟩
      | some r => exact book_rests rest huntouched hr
    · cases hr : w₁.store.bookingRoute? e₁.project with
      | none => exact .inr hdisagreed
      | some r =>
          exact (book_keeps hbears.booking ⟨hsame.user, hdisagreed⟩ hr
            (hsame.user ▸ hpending)).mono (fun _ _ _ h => .inr h.2) (fun _ _ _ h => h.2)

theorem accept_rests (rest : AtRest id e s) :
    s.accept e.user (some id) (.ofEntry e) = .ok ((id, e, some e), s) := by
  have hown : s.ownEntry e.user id = .ok e := by simp [Store.ownEntry, rest.entryAt]
  simp only [Store.accept, hown, rest.accepted, bind, Except.bind,
    EntryInput.applyTo_ofEntry rest.normal rest.trimmed, rest.saves_itself]
  rfl

theorem followUp_rests (rest : AtRest id e w.store) :
    (followUp tracker e.user id e (some e)).Leads
      (fun saved w' => saved = ⟨id, e, none⟩ ∧ w'.store = w.store ∧
          Adds (UpdatesOnce w.store e) w.journal w'.journal ∨ Disagreed e w.journal w')
      (fun _ w' => Disagreed e w.journal w') w := by
  have hkept : ∀ {w₁ : World σ} (alert : Option Alert), Disagreed e w.journal w₁ →
      (alertingReclassifyDays e.user e (some e) alert >>= reload id).Leads
        (fun saved w' => saved = ⟨id, e, none⟩ ∧ w'.store = w.store ∧
          Adds (UpdatesOnce w.store e) w.journal w'.journal ∨ Disagreed e w.journal w')
        (fun _ w' => Disagreed e w.journal w') w₁ := by
    intro w₁ alert hdisagreed
    have hbears : BearsCall e.user (Disagreed (σ := σ) e w.journal) := disagreed_bearsCall
    rw [leads_bind]
    refine (alertingReclassifyDays_keeps hbears.classes hdisagreed).mono ?_ (fun _ _ h => h.elim)
    intro alert' w₂ hdisagreed₂
    rw [leads_reload]
    split
    · exact hdisagreed₂
    · exact hdisagreed₂
    · exact .inr hdisagreed₂
  unfold followUp
  rw [leads_bind, leads_alerting, Working.leads_on]
  refine (reconcile_rests rest).mono ?_ (fun _ _ _ => hkept _)
  rintro - e₁ w₁ (⟨hstore, hsent⟩ | hdisagreed)
  · have hclassified := Store.reclassifyDay_of_right rest.classes
    unfold alertingReclassifyDays
    rw [leads_bind, leads_bind, leads_alertingReclassify_iff, hstore, hclassified]
    dsimp only
    rw [if_pos rfl, leads_pure, leads_reload, World.put_store, rest.entryAt]
    exact .inl ⟨rfl, rfl, hsent⟩
  · exact hkept _ hdisagreed

theorem save_rests (rest : AtRest id e w.store) :
    (save tracker e.user (some id) (.ofEntry e)).Leads
      (fun saved w' => saved = ⟨id, e, none⟩ ∧ w'.store = w.store ∧
          Adds (UpdatesOnce w.store e) w.journal w'.journal ∨ Disagreed e w.journal w')
      (fun _ w' => Disagreed e w.journal w') w := by
  unfold save
  rw [leads_bind, leads_accept, accept_rests rest]
  exact followUp_rests rest

end Sync

end Timesheet
