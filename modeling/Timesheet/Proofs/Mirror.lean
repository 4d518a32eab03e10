import Timesheet.Proofs.Ownership
import Timesheet.Proofs.Stages

/-!
A save that gives no alert leaves a work-log which says what the stored entry says, and it wrote
this work-log last; where nothing is to be booked, it wrote none.

The copy of the entry and the stored entry can only part when storing the copy fails. So each stage
is followed here along its successes, on which the copy is always the stored entry.
-/
namespace Timesheet

def Request.WritesWorklog : Request → Prop
  | .createWorklog .. => True
  | .updateWorklog .. => True
  | _ => False

/-- The exchange wrote the work-log of a ticket successfully. -/
inductive Exchange.Writes (c : Connection) (ticket worklog : String) (content : WorklogDraft) :
    Exchange → Prop
  | updated (s : Store) :
    Writes c ticket worklog content ⟨c, .updateWorklog ticket worklog content, .ok (), s⟩
  | created (s : Store) :
    Writes c ticket worklog content ⟨c, .createWorklog ticket content, .ok worklog, s⟩

/-- The draft says what the entry `id` says: when, how long, and in the comment on what. -/
structure WorklogDraft.Describes (content : WorklogDraft) (s : Store) (id : EntryId)
    (e : TimeEntry) : Prop where
  day : content.day = e.day
  start : content.start = e.start
  minutes : content.minutes = e.minutes
  plain : e.activity = none → content.comment = "#" ++ toString id ++ ": " ++ e.description
  withActivity : ∀ a, e.activity = some a → ∃ activity, s.activity? a = some activity ∧
    content.comment = "#" ++ toString id ++ ": " ++ activity.name ++ ": " ++ e.description

/-- The store has the copy under `id`, and all that it refers to. -/
structure Stored (id : EntryId) (e : TimeEntry) (s : Store) : Prop where
  row : (id, e.stored) ∈ s.entries.rows
  allowed : s.allowsEntry e = true

/-- Nothing was written since `start`, and the copy is stored. -/
structure Unwritten (start : List Exchange) (id : EntryId) (e : TimeEntry) {σ : Type}
    (w : World σ) : Prop where
  stored : Stored id e w.store
  sent : SentOnly (fun x => ¬ x.request.WritesWorklog) start w

/-- The last exchange since `start` wrote the work-log, and left the tracker as it is now. -/
def Wrote {σ : Type} (tracker : Tracker σ) (start : List Exchange) (c : Connection)
    (ticket worklog : String) (content : WorklogDraft) (w : World σ) : Prop :=
  ∃ earlier x m, w.journal = start ++ (earlier ++ [x]) ∧ x.Writes c ticket worklog content ∧
    tracker x.connection x.request m = (x.reply, w.remote)

/-- The work-log of the entry was written last when it is to be booked, and otherwise none was. -/
structure Mirrored {σ : Type} (tracker : Tracker σ) (start : List Exchange) (id : EntryId)
    (e : TimeEntry) (w : World σ) : Prop where
  booked : ∀ r, w.store.bookingRoute? e.project = some r → e.ticket ≠ "" →
    ∃ worklog token, e.worklog = some worklog ∧ w.store.token? e.user r.id = some token ∧
      Wrote tracker start ⟨r.id, r.system, token⟩ e.ticket worklog (Sync.draft w.store id e) w
  unbooked : w.store.bookingRoute? e.project = none ∨ e.ticket = "" →
    SentOnly (fun x => ¬ x.request.WritesWorklog) start w

variable {σ : Type} {tracker : Tracker σ} {user : UserId} {id : EntryId} {e e' p : TimeEntry}
  {w w' : World σ} {s s' : Store} {start : List Exchange} {P : Exchange → Prop}

theorem Store.SameCatalog.draft_eq (h : s.SameCatalog s') (id : EntryId) (e : TimeEntry) :
    Sync.draft s' id e = Sync.draft s id e := by rw [h]; rfl

theorem draft_describes (h : s.allowsEntry e = true) :
    (Sync.draft s id e).Describes s id e where
  day := rfl
  start := rfl
  minutes := rfl
  plain hnone := by simp [Sync.draft, hnone]
  withActivity a ha := by
    have hactivity : s.activities.contains a = true := by
      simp only [Store.allowsEntry, ha, Option.all_some, Bool.and_eq_true] at h
      exact h.2
    obtain ⟨activity, hrow⟩ := Option.isSome_iff_exists.mp hactivity
    have hfound : s.activity? a = some activity := hrow
    refine ⟨activity, hfound, ?_⟩
    simp [Sync.draft, ha, hfound, String.append_assoc]

theorem Stored.entryAt (h : Stored id e s) : s.entryAt id = .ok (some e) :=
  Store.entryAt_eq_some_iff.mpr ⟨_, h.row, e.read_stored⟩

theorem Sync.Accepted.stored {input : EntryInput} {target : Option EntryId}
    {r : EntryId × TimeEntry × Option TimeEntry} (h : Sync.Accepted s user input target r s') :
    Stored r.1 r.2.1 s' := by
  refine ⟨h.row, ?_⟩
  rw [h.sameCatalog.allowsEntry_eq]
  cases h with
  | new allowed => exact allowed
  | edited _ _ _ allowed => exact allowed

theorem Stored.onlyStale (h : Stored id e s) (hs : s.OnlyStale s') : Stored id e s' :=
  ⟨by rw [hs.entries_eq]; exact h.row, by rw [hs.sameCatalog.allowsEntry_eq]; exact h.allowed⟩

theorem Stored.saved (h : Stored id e s) (he : s.allowsEntry e' = s.allowsEntry e)
    (hs : s.saveEntry id e' = .ok s') : Stored id e' s' := by
  have hcontains : s.entries.contains id = true := (s.entries.contains_iff).mpr ⟨_, h.row⟩
  rw [Store.saveEntry_ok hs]
  exact ⟨(s.entries.mem_put hcontains).mpr (.inl rfl), he.trans h.allowed⟩

theorem Stored.saveClass {changed : EntryId} {kind : EntryClass} (h : Stored id e s)
    (hs : s.saveClass changed kind = .ok s') : ∃ kind', Stored id (e.withKind kind') s' := by
  rw [Store.saveClass_ok hs]
  by_cases hid : id = changed
  · refine ⟨kind, (s.entries.mem_modify).mpr ⟨e.stored, h.row, ?_⟩, h.allowed⟩
    rw [if_pos hid]
    rfl
  · refine ⟨e.kind, (s.entries.mem_modify).mpr ⟨e.stored, h.row, ?_⟩, h.allowed⟩
    rw [if_neg hid]
    rfl

theorem Unwritten.saved (h : Unwritten start id e w)
    (he : w.store.allowsEntry e' = w.store.allowsEntry e)
    (hs : w.store.saveEntry id e' = .ok s) : Unwritten start id e' (w.put s) :=
  ⟨h.stored.saved he hs, h.sent.put s⟩

theorem Unwritten.note {x : Exchange} (h : Unwritten start id e w) (remote : σ)
    (hx : ¬ x.request.WritesWorklog) : Unwritten start id e (w.note x remote) :=
  ⟨h.stored, h.sent.note remote hx⟩

theorem Unwritten.onlyStale (h : Unwritten start id e w) (hs : w.store.OnlyStale s) :
    Unwritten start id e (w.put s) := ⟨h.stored.onlyStale hs, h.sent.put s⟩

theorem Unwritten.mirrored (h : Unwritten start id e w)
    (hno : w.store.bookingRoute? e.project = none ∨ e.ticket = "") :
    Mirrored tracker start id e w where
  booked r hr ht := by
    rcases hno with hno | hno
    · simp [hno] at hr
    · exact absurd hno ht
  unbooked _ := h.sent

theorem SentOnly.wrote {x : Exchange} {c : Connection} {ticket worklog : String}
    {content : WorklogDraft} {remote : σ} (h : SentOnly P start w)
    (hx : x.Writes c ticket worklog content)
    (hanswered : tracker x.connection x.request w.remote = (x.reply, remote)) :
    Wrote tracker start c ticket worklog content (w.note x remote) := by
  obtain ⟨sent, hjournal, -⟩ := h
  refine ⟨sent, x, w.remote, ?_, hx, hanswered⟩
  rw [World.note_journal, hjournal, List.append_assoc]

theorem Mirrored.withKind (h : Mirrored tracker start id e w) (hcatalog : w.store.SameCatalog s)
    (kind : EntryClass) : Mirrored tracker start id (e.withKind kind) (w.put s) where
  booked r hr ht := by
    obtain ⟨worklog, token, hw, htoken, hwrote⟩ :=
      h.booked r ((hcatalog.bookingRoute?_eq _).symm.trans hr) ht
    refine ⟨worklog, token, hw, (hcatalog.token?_eq _ _).trans htoken, ?_⟩
    rw [World.put_store, hcatalog.draft_eq]
    exact hwrote
  unbooked hno := by
    rw [World.put_store, hcatalog.bookingRoute?_eq] at hno
    exact h.unbooked hno

theorem Wrote.mirrored {r : Route} {token : AccessToken} {worklog : String}
    (h : Wrote tracker start ⟨r.id, r.system, token⟩ e.ticket worklog (Sync.draft s id e) w)
    (hcatalog : s.SameCatalog w.store) (htoken : s.token? e.user r.id = some token)
    (hw : e.worklog = some worklog) (hr : s.bookingRoute? e.project = some r)
    (ht : e.ticket ≠ "") : Mirrored tracker start id e w where
  booked r' hr' _ := by
    rw [hcatalog.bookingRoute?_eq] at hr'
    obtain rfl : r' = r := Option.some.inj (hr'.symm.trans hr)
    refine ⟨worklog, token, hw, (hcatalog.token?_eq _ _).trans htoken, ?_⟩
    rw [hcatalog.draft_eq]
    exact h
  unbooked hno := by
    rcases hno with hno | hno
    · rw [hcatalog.bookingRoute?_eq, hr] at hno
      cases hno
    · exact absurd hno ht

namespace Sync

theorem unwritten_bearsRetry : BearsRetry user (Unwritten (σ := σ) start id e) where
  connect remote h := h.note remote not_false
  refused remote h _ _ _ := h.note remote not_false
  confirmed remote h _ _ _ := Unwritten.onlyStale (w := World.note _ _ remote)
    (h.note remote not_false) (Store.onlyStale_forget _)
  unreachable h _ _ := h.onlyStale (Store.onlyStale_forget _)

theorem not_writesWorklog_of_looksUp {r : Request} (h : r.LooksUp) : ¬ r.WritesWorklog := by
  cases r <;> first | exact not_false | exact h.elim

theorem resolveInternal_unwritten {r : Route} {key : String} (h : Unwritten start id e w) :
    (resolveInternal tracker id r key).Leads (fun _ e' w' => Unwritten start id e' w')
      (fun _ _ _ => True) e w := by
  rw [leads_resolveInternal]
  split
  · exact h
  · apply Leads.connect
    · intro token remote
      have hconnected := h.note (x := ⟨⟨r.id, r.system, token⟩, .connect, .ok (), w.store⟩) remote
        not_false
      refine (internalIssue_keeps (I := Unwritten start id e) hconnected ?_).mono ?_
        (fun _ _ _ => trivial)
      · intro w' x remote' h' _ hx _
        exact h'.note remote' (not_writesWorklog_of_looksUp hx)
      · rintro ticket w₂ ⟨hfound, -⟩
        cases hs : w₂.store.saveEntry id (e.retitled (identifier e) ticket) with
        | error err => trivial
        | ok s => exact hfound.saved rfl hs
    · exact fun _ _ _ => trivial
    · exact fun _ => trivial

theorem settle_unwritten (h : Unwritten start id e w) :
    (settle tracker id).Leads (fun _ e' w' => Unwritten start id e' w')
      (fun _ _ _ => True) e w :=
  settle_stages
    ((retryPending_keeps unwritten_bearsRetry h).mono (fun _ _ h => h.1) (fun _ _ _ => trivial))
    (fun _ _ => trivial) (fun h _ _ _ => h) (fun h _ _ _ _ => resolveInternal_unwritten h)

theorem leaveTicket_unwritten (h : Unwritten start id e w) :
    (leaveTicket tracker id p).Leads (fun _ e' w' => Unwritten start id e' w')
      (fun _ _ _ => True) e w := by
  rw [leads_leaveTicket]
  split
  · refine (removeWorklog_keeps unwritten_bearsRetry (fun _ => h) ?_ (fun _ _ _ _ => h)).mono ?_ ?_
    · intro _ _ _ _ _ _ hs
      exact h.onlyStale (Store.recordStale_onlyStale hs)
    · rintro - w₁ ⟨hremoved, -⟩
      unfold Cleared
      split
      · cases hs : w₁.store.saveEntry id (e.withWorklog none) with
        | error err => trivial
        | ok s => exact hremoved.saved rfl hs
      · exact hremoved
    · intro err w₁ _
      unfold Cleared
      split
      · split <;> trivial
      · trivial
  · exact h

theorem leads_send_ok {c : Connection} {r : Request} {Q : r.Answer → World σ → Prop}
    (ok : ∀ answer remote, tracker c r w.remote = (.ok answer, remote) →
      Q answer (w.note ⟨c, r, .ok answer, w.store⟩ remote)) :
    (send tracker c r).Leads Q (fun _ _ => True) w := by
  rw [leads_send]
  cases hreply : (tracker c r w.remote).1 with
  | error err => trivial
  | ok answer => exact ok answer _ (Prod.ext hreply rfl)

theorem createWorklog_wrote {c : Connection} {ticket : String} {content : WorklogDraft}
    (hsent : SentOnly P start w) :
    (send tracker c (.createWorklog ticket content)).Leads
      (fun worklog w' => Wrote tracker start c ticket worklog content w' ∧ w'.store = w.store)
      (fun _ _ => True) w := by
  apply leads_send_ok
  intro worklog remote hanswered
  exact ⟨hsent.wrote (.created w.store) hanswered, rfl⟩

theorem writeWorklog_wrote {c : Connection} {content : WorklogDraft} (hsent : SentOnly P start w) :
    (writeWorklog tracker c e content).Leads
      (fun worklog w' => Wrote tracker start c e.ticket worklog content w' ∧ w'.store = w.store)
      (fun _ _ => True) w := by
  rw [leads_writeWorklog]
  cases e.worklog with
  | none => exact createWorklog_wrote hsent
  | some worklog =>
      dsimp only
      rw [leads_ask]
      rcases hanswered : tracker c (.updateWorklog e.ticket worklog content) w.remote with
        ⟨(detail | what | ⟨text, causes⟩) | _, remote⟩
      · trivial
      · exact createWorklog_wrote (hsent.anything.note remote trivial)
      · trivial
      · exact ⟨hsent.wrote (.updated w.store) hanswered, rfl⟩

theorem book_mirrored {r : Route} (h : Unwritten start id e w)
    (hr : w.store.bookingRoute? e.project = some r) :
    (book tracker id r).Leads
      (fun _ e' w' => Stored id e' w'.store ∧ Mirrored tracker start id e' w' ∧
        e'.user = e.user ∧ e'.project = e.project ∧ w'.store.stale = w.store.stale)
      (fun _ _ _ => True) e w := by
  rw [leads_book]
  split
  · next hticket => exact ⟨h.stored, h.mirrored (.inr hticket), rfl, rfl, rfl⟩
  · next hticket =>
      rw [leads_connect]
      cases htoken : w.store.token? e.user r.id with
      | none => trivial
      | some token =>
          apply leads_send_ok
          intro _ remote _
          have hconnected := h.note (x := ⟨⟨r.id, r.system, token⟩, .connect, .ok (), w.store⟩)
            remote not_false
          refine (writeWorklog_wrote hconnected.sent).mono ?_ (fun _ _ _ => trivial)
          rintro worklog w₂ ⟨hwrote, hstore⟩
          have hstore : w₂.store = w.store := hstore
          have hstored : Stored id e w₂.store := hstore ▸ h.stored
          have hcatalog : w.store.SameCatalog w₂.store := hstore ▸ .refl _
          split
          · cases hs : w₂.store.saveEntry id (e.withWorklog (some worklog)) with
            | error err => trivial
            | ok s =>
                have hcatalog' := hcatalog.trans (Store.saveEntry_sameCatalog hs)
                refine ⟨hstored.saved rfl hs, ?_, rfl, rfl, ?_⟩
                · exact Wrote.mirrored (e := e.withWorklog (some worklog)) (w := w₂.put s) hwrote
                    hcatalog' htoken rfl hr hticket
                · rw [World.put_store, Store.saveEntry_ok hs, ← hstore]
          · next hsame =>
              have hw : e.worklog = some worklog := by simpa using hsame
              exact ⟨hstored, hwrote.mirrored hcatalog htoken hw hr hticket, rfl, rfl,
                by rw [hstore]⟩

/-- The copy is stored and mirrored, has this owner and this project, and none of the owner's
deletions is pending. -/
structure Shown (tracker : Tracker σ) (start : List Exchange) (id : EntryId) (owner : UserId)
    (home : ProjectId) (e : TimeEntry) (w : World σ) : Prop where
  stored : Stored id e w.store
  mirrored : Mirrored tracker start id e w
  user : e.user = owner
  project : e.project = home
  pending : w.store.pendingOf owner = []

theorem reconcile_shows {previous : Option TimeEntry} (h : Unwritten start id e w)
    (huser : ∀ p ∈ previous, p.user = e.user) :
    (reconcile tracker id previous).Leads
      (fun _ e' w' => Shown tracker start id e.user e.project e' w') (fun _ _ _ => True) e w := by
  refine reconcile_stages huser (settle_unwritten h) (fun _ _ _ h₁ => h₁)
    (fun _ _ _ _ h₁ _ _ => leaveTicket_unwritten h₁) ?_
  intro e₁ w₁ h₁ hsame hpending
  cases hr : w₁.store.bookingRoute? e₁.project with
  | none => exact ⟨h₁.stored, h₁.mirrored (.inl hr), hsame.user, hsame.project, hpending⟩
  | some r =>
      refine (book_mirrored h₁ hr).mono ?_ (fun _ _ _ h => h)
      rintro - e₂ w₂ ⟨hstored, hmirrored, huser₂, hproject₂, hstale⟩
      refine ⟨hstored, hmirrored, huser₂.trans hsame.user, hproject₂.trans hsame.project, ?_⟩
      rw [Store.pendingOf, hstale]
      exact hpending

theorem shown_bearsClasses {home : ProjectId} :
    BearsClasses fun w => ∃ e, Shown tracker start id user home e w := by
  rintro w s changed kind ⟨e, hshown⟩ hs
  have hstale : s.stale = w.store.stale := by rw [Store.saveClass_ok hs]
  obtain ⟨kind', hstored⟩ := hshown.stored.saveClass hs
  refine ⟨e.withKind kind', hstored, ?_, hshown.user, hshown.project, ?_⟩
  · exact hshown.mirrored.withKind (Store.saveClass_sameCatalog hs) kind'
  · rw [World.put_store, Store.pendingOf, hstale]
    exact hshown.pending

theorem followUp_shows {previous : Option TimeEntry} (h : Unwritten start id e w)
    (huser : ∀ p ∈ previous, p.user = e.user) :
    (followUp tracker user id e previous).Leads
      (fun saved w' => saved.alert = none →
        Shown tracker start saved.id e.user e.project saved.entry w')
      (fun _ _ => True) w := by
  refine (followUp_unalerted (reconcile_shows h huser) shown_bearsClasses
    (fun hshown => hshown.stored.entryAt)).mono ?_ (fun _ _ h => h)
  intro saved w' hsaved quiet
  obtain ⟨rfl, hshown⟩ := hsaved quiet
  exact hshown

theorem save_shows {target : Option EntryId} {input : EntryInput} :
    (save tracker user target input).Leads
      (fun saved w' => saved.alert = none →
        Shown tracker w.journal saved.id user input.project saved.entry w')
      (fun _ _ => True) w := by
  unfold save
  rw [leads_bind]
  refine accept_stores.mono ?_ (fun _ _ _ => trivial)
  rintro r _ ⟨s, haccepted, rfl⟩
  have hunwritten : Unwritten w.journal r.1 r.2.1 (w.put s) := ⟨haccepted.stored, .refl w⟩
  rw [← haccepted.user_eq, ← haccepted.project_eq]
  exact followUp_shows hunwritten haccepted.previous_user

end Sync

def quietOffice : World InMemory := { store := office, journal := [], remote := InMemory.empty }

deriving instance DecidableEq for Saved

def onOtherTicket : EntryInput :=
  { project := ⟨1⟩, customer := none, activity := none, ticket := "A-2", description := "moved"
    day := ⟨2025, .june, 7, by decide, by decide, by decide, by decide⟩
    start := .midnight, finish := .midnight }

def quietMove : Except SyncError Saved × World InMemory :=
  Sync.outcome (Sync.save InMemory.tracker ⟨1⟩ (some ⟨1⟩) onOtherTicket)
    (quietOffice.next (.call (saveOnTicket none "A-1")))

def movedQuietly : Saved :=
  { id := ⟨1⟩, alert := none
    entry := { onOtherTicket.newEntry ⟨1⟩ with worklog := some "wl-2" } }

end Timesheet
