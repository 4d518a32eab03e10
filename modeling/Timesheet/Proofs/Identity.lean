import Mathlib.Data.List.DropRight
import Timesheet.Proofs.Alerts

/-!
The ticket by which an entry is known is the one that its user typed last, whatever the internal
tracker makes of the ticket on the way. So every search for the internal ticket starts from what was
typed, and never from a key that came of an earlier search.
-/
namespace Timesheet

theorem Text.trim_trim (s : String) : trim (trim s) = trim s := by
  have hfront : ∀ l : List Char, ((l.dropWhile isBlank).rdropWhile isBlank).dropWhile isBlank =
      (l.dropWhile isBlank).rdropWhile isBlank := by
    intro l
    refine List.dropWhile_eq_self_iff.mpr fun hl => ?_
    have hinitial := List.rdropWhile_prefix isBlank (l.dropWhile isBlank)
    rw [hinitial.getElem hl]
    exact List.dropWhile_get_zero_not isBlank l _
  have hblank : ∀ l : List Char, trimBlank (trimBlank l) = trimBlank l := by
    intro l
    show List.rdropWhile isBlank (((l.dropWhile isBlank).rdropWhile isBlank).dropWhile isBlank) = _
    rw [hfront, List.rdropWhile_idempotent]
    rfl
  simp only [trim, String.toList_ofList, hblank]

/-- The keys of issues that were answered. -/
def Exchange.keys : Exchange → List String
  | ⟨_, .search .., .ok issues, _⟩ => issues.map (·.key)
  | ⟨_, .createIssue .., .ok key, _⟩ => [key]
  | _ => []

/-- No key that was answered has white space around it. -/
def KeysTrimmed (journal : List Exchange) : Prop :=
  ∀ x ∈ journal, ∀ key ∈ x.keys, Text.trim key = key

instance (journal : List Exchange) : Decidable (KeysTrimmed journal) :=
  inferInstanceAs (Decidable (∀ x ∈ journal, ∀ key ∈ x.keys, Text.trim key = key))

/-- The second text is the first one with a backslash before each quotation mark. -/
inductive Escapes : List Char → List Char → Prop
  | nil : Escapes [] []
  | mark {text escaped} : Escapes text escaped → Escapes ('"' :: text) ('\\' :: '"' :: escaped)
  | other {c text escaped} : c ≠ '"' → Escapes text escaped → Escapes (c :: text) (c :: escaped)

theorem escapes_flatMap (text : List Char) :
    Escapes text (text.flatMap fun c => if c = '"' then ['\\', '"'] else [c]) := by
  induction text with
  | nil => exact .nil
  | cons c rest ih =>
      rw [List.flatMap_cons]
      split
      · next hmark => exact hmark ▸ .mark ih
      · next hother => exact .other hother ih

/-- If the request looks for an issue of the internal tracker or opens one, it is that for
`summary`, which the query of a search quotes. -/
def Request.IsFor (summary : String) : Request → Prop
  | .search query _ _ => ∃ project escaped, Escapes summary.toList escaped ∧
      query = "project = " ++ project ++ " AND summary ~ \"" ++ String.ofList escaped ++ "\""
  | .createIssue _ draft => draft.summary = summary
  | _ => True

theorem Request.isFor_search {project summary : String} {fields : List String} {limit : Nat} :
    (Request.search (Sync.internalQuery project summary) fields limit).IsFor summary :=
  ⟨project, _, escapes_flatMap summary.toList, rfl⟩

theorem KeysTrimmed.of_prefix {journal later : List Exchange} (h : KeysTrimmed later)
    (hj : journal <+: later) : KeysTrimmed journal := fun x hx => h x (hj.subset hx)

/-- The ticket of the input is that of the entry, or the one that was typed for it. -/
def EntryInput.Repeats (i : EntryInput) (p : TimeEntry) : Prop :=
  Text.trim i.ticket = p.ticket ∨ p.typed = some (Text.trim i.ticket)

instance (i : EntryInput) (p : TimeEntry) : Decidable (i.Repeats p) :=
  inferInstanceAs (Decidable (_ ∨ _))

/-- The ticket by which an entry is known once the input is saved in place of `previous`. -/
def EntryInput.identity (i : EntryInput) : Option TimeEntry → String
  | none => Text.trim i.ticket
  | some p => if i.Repeats p then Sync.identifier p else Text.trim i.ticket

/-- The entry is known by `summary`. Its ticket has white space around it only if a key with white
space was answered. -/
structure Entry.KnownBy {κ : Type} (e : Entry κ) (summary : String) (journal : List Exchange) :
    Prop where
  typed : e.typed ≠ some ""
  name : e.typed.getD e.ticket = summary
  trimmed : KeysTrimmed journal → Text.trim e.ticket = e.ticket

section KnownBy
variable {κ μ : Type} {e : Entry κ} {summary ticket : String} {journal later : List Exchange}

theorem Entry.KnownBy.withKind (h : e.KnownBy summary journal) (kind : μ) :
    (e.withKind kind).KnownBy summary journal := ⟨h.typed, h.name, h.trimmed⟩

theorem Entry.KnownBy.mono (h : e.KnownBy summary journal) (hj : journal <+: later) :
    e.KnownBy summary later := ⟨h.typed, h.name, fun ht => h.trimmed (ht.of_prefix hj)⟩

theorem Sync.identifier_eq_getD {e : TimeEntry} (h : e.typed ≠ some "") :
    Sync.identifier e = e.typed.getD e.ticket := by
  unfold Sync.identifier
  rcases htyped : e.typed with _ | typed
  · rfl
  · have hne : typed ≠ "" := fun heq => h (by rw [htyped, heq])
    simp [Option.filter, hne]

theorem Entry.KnownBy.identifier_eq {e : TimeEntry} (h : e.KnownBy summary journal) :
    Sync.identifier e = summary := (Sync.identifier_eq_getD h.typed).trans h.name

theorem Entry.KnownBy.retitled {e : TimeEntry} (hne : summary ≠ "")
    (hticket : KeysTrimmed journal → Text.trim ticket = ticket) :
    (e.retitled summary ticket).KnownBy summary journal :=
  ⟨by simpa [Entry.retitled] using hne, rfl, hticket⟩

theorem EntryInput.typed_applyTo (i : EntryInput) (p : TimeEntry) :
    (i.applyTo p).typed = if i.Repeats p then p.typed else none := by
  simp only [applyTo, Entry.normalize, Repeats, ne_eq, ← not_or, ite_not]
  congr

theorem EntryInput.knownBy_applyTo (i : EntryInput) {p : TimeEntry} (h : p.typed ≠ some "") :
    (i.applyTo p).KnownBy (i.identity (some p)) journal := by
  have hticket : (i.applyTo p).ticket = Text.trim i.ticket := rfl
  refine ⟨?_, ?_, fun _ => by rw [hticket, Text.trim_trim]⟩
  · rw [i.typed_applyTo]
    split
    · exact h
    · exact nofun
  · rw [i.typed_applyTo, hticket, identity, Sync.identifier_eq_getD h]
    split
    · next hrepeats =>
        rcases hrepeats with heq | heq
        · rw [heq]
        · rw [heq]
          rfl
    · rfl

theorem EntryInput.knownBy_newEntry (i : EntryInput) (user : UserId) :
    (i.newEntry user).KnownBy (i.identity none) journal :=
  ⟨nofun, rfl, fun _ => Text.trim_trim i.ticket⟩

end KnownBy

theorem Entry.KnownBy.withWorklog {e : TimeEntry} {summary : String} {journal : List Exchange}
    (h : e.KnownBy summary journal) (worklog : Option String) :
    (e.withWorklog worklog).KnownBy summary journal := ⟨h.typed, h.name, h.trimmed⟩

variable {σ : Type} {w : World σ} {id : EntryId} {e e' p : TimeEntry} {summary : String}
  {start : List Exchange} {s : Store}

/-- The entry `id` is there and known by `summary`. -/
def World.Knows (w : World σ) (id : EntryId) (summary : String) : Prop :=
  ∃ row, (id, row) ∈ w.store.entries.rows ∧ row.KnownBy summary w.journal

theorem World.Knows.entry (h : w.Knows id summary) (he : w.store.entryAt id = .ok (some e)) :
    e.KnownBy summary w.journal := by
  obtain ⟨row, hrow, hknown⟩ := h
  obtain ⟨row', kind, hrow', rfl⟩ := Store.row_of_entryAt he
  rw [w.store.entries.row_unique hrow' hrow]
  exact hknown.withKind kind

/-- The copy and the entry `id` are known by `summary`. So is every issue of the internal tracker
that was asked for since `start`. -/
structure Knowing (start : List Exchange) (id : EntryId) (summary : String) (e : TimeEntry)
    (w : World σ) : Prop where
  copy : e.KnownBy summary w.journal
  stored : w.Knows id summary
  sent : SentOnly (fun x => x.request.IsFor summary) start w

theorem Knowing.note {x : Exchange} (h : Knowing start id summary e w) (remote : σ)
    (hx : x.request.IsFor summary) : Knowing start id summary e (w.note x remote) := by
  have hj : w.journal <+: (w.note x remote).journal := List.prefix_append _ _
  obtain ⟨row, hrow, hknown⟩ := h.stored
  exact ⟨h.copy.mono hj, ⟨row, hrow, hknown.mono hj⟩, h.sent.note remote hx⟩

theorem Knowing.onlyStale (h : Knowing start id summary e w) (hs : w.store.OnlyStale s) :
    Knowing start id summary e (w.put s) := by
  obtain ⟨row, hrow, hknown⟩ := h.stored
  refine ⟨h.copy, ⟨row, ?_, hknown⟩, h.sent.put s⟩
  rw [World.put_store, hs.entries_eq]
  exact hrow

theorem Knowing.saved (h : Knowing start id summary e w) (he : e'.KnownBy summary w.journal)
    (hs : w.store.saveEntry id e' = .ok s) : Knowing start id summary e' (w.put s) := by
  obtain ⟨row, hrow, -⟩ := h.stored
  have hcontains : w.store.entries.contains id = true :=
    (w.store.entries.contains_iff).mpr ⟨row, hrow⟩
  refine ⟨he, ⟨e'.stored, ?_, he.withKind _⟩, h.sent.put s⟩
  rw [Store.saveEntry_ok hs]
  exact (w.store.entries.mem_put hcontains).mpr (.inl rfl)

theorem Knowing.copied (h : Knowing start id summary e w) (he : e'.KnownBy summary w.journal) :
    Knowing start id summary e' w := ⟨he, h.stored, h.sent⟩

namespace Sync

variable {tracker : Tracker σ} {user : UserId}

theorem knowing_bearsRetry : BearsRetry user (Knowing (σ := σ) start id summary e) where
  connect remote h := h.note remote trivial
  refused remote h _ _ _ := h.note remote trivial
  confirmed remote h _ _ _ := Knowing.onlyStale (w := World.note _ _ remote)
    (h.note remote trivial) (Store.onlyStale_forget _)
  unreachable h _ _ := h.onlyStale (Store.onlyStale_forget _)

theorem internalIssue_knows {c : Connection} {key description : String}
    (h : Knowing start id summary e w) :
    (internalIssue tracker c key ⟨summary, description⟩).Leads
      (fun ticket w' => Knowing start id summary e w' ∧
        (KeysTrimmed w'.journal → Text.trim ticket = ticket))
      (fun _ => Knowing start id summary e) w := by
  unfold internalIssue
  rw [leads_bind]
  apply Leads.send
  · intro found remote
    have hsearched := h.note (x := ⟨c, .search (internalQuery key summary) ["key", "summary"]
      internalSearchLimit, .ok found, w.store⟩) remote Request.isFor_search
    cases hissue : issueOf summary found with
    | some issue =>
        refine ⟨hsearched, fun htrimmed => ?_⟩
        exact htrimmed _ (List.mem_append_right _ (List.mem_singleton_self _)) issue.key
          (List.mem_map_of_mem (List.mem_of_find?_eq_some hissue))
    | none =>
        apply Leads.send
        · intro ticket remote'
          refine ⟨hsearched.note remote' rfl, fun htrimmed => ?_⟩
          exact htrimmed _ (List.mem_append_right _ (List.mem_singleton_self _)) ticket
            (List.mem_singleton_self _)
        · exact fun err remote' => hsearched.note remote' rfl
  · exact fun err remote => h.note remote Request.isFor_search

theorem resolveInternal_knows {r : Route} {key : String} (h : Knowing start id summary e w) :
    (resolveInternal tracker id r key).Leads (fun _ => Knowing start id summary)
      (fun _ => Knowing start id summary) e w := by
  rw [leads_resolveInternal, h.copy.identifier_eq]
  split
  · exact h
  · next hne =>
      apply Leads.connect
      · intro token remote
        have hconnected := h.note (x := ⟨⟨r.id, r.system, token⟩, .connect, .ok (), w.store⟩)
          remote trivial
        refine (internalIssue_knows hconnected).mono ?_ (fun _ _ h => h)
        rintro ticket w₂ ⟨hfound, hticket⟩
        have hcopy : (e.retitled summary ticket).KnownBy summary w₂.journal :=
          .retitled hne hticket
        cases hsave : w₂.store.saveEntry id (e.retitled summary ticket) with
        | error err => exact hfound.copied hcopy
        | ok s => exact hfound.saved hcopy hsave
      · exact fun token err remote => h.note remote trivial
      · exact fun _ => h

theorem settle_knows (h : Knowing start id summary e w) :
    (settle tracker id).Leads (fun _ => Knowing start id summary)
      (fun _ => Knowing start id summary) e w :=
  settle_stages
    ((retryPending_keeps knowing_bearsRetry h).mono (fun _ _ h => h.1) (fun _ _ h => h.1))
    (fun h _ => h) (fun h _ _ _ => h) (fun h _ _ _ _ => resolveInternal_knows h)

theorem knowing_bearsLeaving :
    BearsLeaving (σ := σ) id p (Knowing start id summary) (Knowing start id summary)
      (Knowing start id summary) where
  stays h _ := h
  skipped h _ _ := h
  recorded h _ _ _ _ hs := h.onlyStale (Store.recordStale_onlyStale hs)
  refused h _ _ _ _ _ := h
  retry _ := knowing_bearsRetry
  cleared h hs := h.saved (h.copy.withWorklog none) hs
  uncleared h _ := h.copied (h.copy.withWorklog none)
  none h _ := h

theorem knowing_bearsBooking : BearsBooking id (Knowing (σ := σ) start id summary) where
  connect remote h := h.note remote trivial
  update remote h _ _ _ _ := h.note remote trivial
  createFails remote h _ := h.note remote trivial
  create {e w c r draft worklog s} remote h _ _ _ _ _ hs := by
    have hcreated := h.note (x := ⟨c, .createWorklog e.ticket draft, .ok worklog, w.store⟩) remote
      trivial
    exact hcreated.saved (hcreated.copy.withWorklog _) hs
  createSame remote h _ _ := h.note remote trivial
  createUnsaved {e w c draft worklog err} remote h _ _ := by
    have hcreated := h.note (x := ⟨c, .createWorklog e.ticket draft, .ok worklog, w.store⟩) remote
      trivial
    exact hcreated.copied (hcreated.copy.withWorklog _)

theorem reconcile_knows {previous : Option TimeEntry} (huser : ∀ p ∈ previous, p.user = e.user)
    (h : Knowing start id summary e w) :
    (reconcile tracker id previous).Leads (fun _ => Knowing start id summary)
      (fun _ => Knowing start id summary) e w := by
  refine reconcile_keeps (((settle_knows h).and settle_sameWork).mono (fun _ _ _ h => h)
    (fun _ _ _ h => h.1)) (fun _ _ _ h => h) (fun p hp => ⟨huser p hp, knowing_bearsLeaving⟩)
    knowing_bearsBooking

theorem knows_bearsClasses :
    BearsClasses fun w : World σ => w.Knows id summary ∧
      SentOnly (fun x => x.request.IsFor summary) start w := by
  rintro w s changed kind ⟨⟨row, hrow, hknown⟩, hsent⟩ hs
  rw [Store.saveClass_ok hs]
  refine ⟨⟨if id = changed then row.withKind kind.code else row, ?_, ?_⟩, hsent.put _⟩
  · exact (w.store.entries.mem_modify).mpr ⟨row, hrow, rfl⟩
  · split
    · exact hknown.withKind _
    · exact hknown

theorem Accepted.knowing {input : EntryInput} {target : Option EntryId}
    {r : EntryId × TimeEntry × Option TimeEntry} (h : Accepted w.store user input target r s)
    (htyped : ∀ p, w.store.replaced? target = some p → p.typed ≠ some "") :
    Knowing w.journal r.1 (input.identity (w.store.replaced? target)) r.2.1 (w.put s) := by
  have hcopy : r.2.1.KnownBy (input.identity (w.store.replaced? target)) w.journal := by
    have hreplaced := h.replaced?_eq
    cases h with
    | new => exact input.knownBy_newEntry user
    | edited row =>
        rw [hreplaced] at htyped ⊢
        exact input.knownBy_applyTo (htyped _ rfl)
  exact ⟨hcopy, ⟨_, h.row, hcopy.withKind _⟩, .refl w⟩

/-- Whatever the tracker does, the saved entry is known by the ticket that the input makes its
own. -/
theorem save_knows {target : Option EntryId} {input : EntryInput}
    (htyped : ∀ p, w.store.replaced? target = some p → p.typed ≠ some "") :
    (save tracker user target input).Leads
      (fun saved w' =>
        (∀ id, target = some id → saved.id = id ∧ ∃ p, w.store.entryAt id = .ok (some p)) ∧
        w'.store.entryAt saved.id = .ok (some saved.entry) ∧
        w'.Knows saved.id (input.identity (w.store.replaced? target)) ∧
        SentOnly (fun x => x.request.IsFor (input.identity (w.store.replaced? target))) w.journal
          w')
      (fun _ w' => w' = w) w := by
  refine Leads.mono (Leads.and (E := fun _ _ => True) ?_ save_spares) (fun _ _ h => h.1)
    (fun _ _ h => h.2)
  unfold save
  rw [leads_bind]
  refine accept_stores.mono ?_ (fun _ _ _ => trivial)
  rintro r _ ⟨s, haccepted, rfl⟩
  have htarget : ∀ id, target = some id → r.1 = id ∧ ∃ p, w.store.entryAt id = .ok (some p) := by
    cases haccepted with
    | new => exact nofun
    | edited row =>
        rintro _ ⟨⟩
        exact ⟨rfl, _, row⟩
  have hknowing := haccepted.knowing htyped
  refine (followUp_keeps ((reconcile_knows haccepted.previous_user hknowing).mono
    (fun _ _ _ h => ⟨h.stored, h.sent⟩) (fun _ _ _ h => ⟨h.stored, h.sent⟩))
    knows_bearsClasses).mono ?_ (fun _ _ _ => trivial)
  rintro saved w' ⟨hknown, hid, hentry⟩
  rw [hid]
  exact ⟨htarget, hentry, hknown⟩

theorem save_knowsAgain {input : EntryInput} (h : w.Knows id summary) (ht : KeysTrimmed w.journal)
    (hsame : ∀ p, w.store.entryAt id = .ok (some p) →
      Text.trim input.ticket = Text.trim p.ticket ∨ p.typed = some (Text.trim input.ticket)) :
    (save tracker user (some id) input).Leads
      (fun _ w' => w'.Knows id summary ∧
        SentOnly (fun x => x.request.IsFor summary) w.journal w')
      (fun _ w' => w'.Knows id summary ∧
        SentOnly (fun x => x.request.IsFor summary) w.journal w') w := by
  have htyped : ∀ p, w.store.replaced? (some id) = some p → p.typed ≠ some "" :=
    fun p hp => (h.entry (Store.replaced?_eq_some.mp hp)).typed
  refine (save_knows htyped).mono ?_ (fun _ _ hw => by rw [hw]; exact ⟨h, .refl w⟩)
  rintro saved w' ⟨htarget, -, hknown⟩
  obtain ⟨rfl, p, hentry⟩ := htarget id rfl
  have hp : p.KnownBy summary w.journal := h.entry hentry
  have hrepeats : input.Repeats p := by
    rw [EntryInput.Repeats, ← hp.trimmed ht]
    exact hsame p hentry
  rw [Store.replaced?_eq_some.mpr hentry, EntryInput.identity, if_pos hrepeats,
    hp.identifier_eq] at hknown
  exact hknown

/-- A call that is about another entry changes at most the class of this one. -/
theorem work_knows {c : Call σ} (h : w.Knows id summary) (hne : c.action.subject? ≠ some id) :
    c.work.Leads (fun _ w' => w'.Knows id summary) (fun _ w' => w'.Knows id summary) w := by
  obtain ⟨row, hrow, hknown⟩ := h
  have hkept : ∀ {w' : World σ}, Spared c.user c.action.subject? (c.action.days w.store)
      w.store.entries w'.store.entries ∧ w.journal <+: w'.journal → w'.Knows id summary := by
    rintro w' ⟨hspared, hj⟩
    obtain ⟨kind, hrow', -⟩ := hspared.kept _ hrow hne
    exact ⟨row.withKind kind, hrow', (hknown.mono hj).withKind kind⟩
  exact ((work_spares c).and (work_bears prefix_bearsCall List.prefix_rfl)).mono
    (fun _ _ => hkept) (fun _ _ => hkept)

theorem knows_bearsCatalog : BearsCatalog fun w : World σ => w.Knows id summary where
  note := by
    rintro w x remote ⟨row, hrow, hknown⟩ - -
    exact ⟨row, hrow, hknown.mono (prefix_note List.prefix_rfl remote)⟩
  catalog := by
    rintro w s ⟨row, hrow, hknown⟩ hs
    exact ⟨row, by rwa [World.put_store, hs.entries], hknown⟩

end Sync

/-- The event does not delete the entry `id`. If it saves the entry, it sends the ticket that is
there, or the one that was typed for it. -/
def Event.LeavesTicket (id : EntryId) : Event σ → World σ → Prop
  | .call ⟨_, _, .save target input⟩, w => target = some id →
    ∀ p, w.store.entryAt id = .ok (some p) →
      Text.trim input.ticket = Text.trim p.ticket ∨ p.typed = some (Text.trim input.ticket)
  | .call ⟨_, _, .delete target⟩, _ => target ≠ id
  | _, _ => True

/-- If the event saves the entry `id`, the internal tracker is asked for `summary` only. -/
def Event.AsksFor (id : EntryId) (summary : String) (event : Event σ) (w : World σ) : Prop :=
  ∀ tracker user input, event = .call ⟨tracker, user, .save (some id) input⟩ →
    SentOnly (fun x => x.request.IsFor summary) w.journal (w.next event)

namespace Sync

theorem next_knows {event : Event σ} (h : w.Knows id summary) (ht : KeysTrimmed w.journal)
    (hleaves : event.LeavesTicket id w) :
    (w.next event).Knows id summary ∧ event.AsksFor id summary w := by
  constructor
  · refine next_keeps knows_bearsCatalog event ?_ h
    rintro ⟨tracker, user, action⟩ rfl
    by_cases hsubject : action.subject? = some id
    · cases action with
      | save target input =>
          obtain rfl : target = some id := hsubject
          exact leads_discard.mpr ((save_knowsAgain h ht (hleaves rfl)).mono (fun _ _ h => h.1)
            (fun _ _ h => h.1))
      | delete target => exact absurd (Option.some.inj hsubject) hleaves
      | bulk template range => cases hsubject
    · exact work_knows h hsubject
  · rintro tracker user input rfl
    have hsaved : (save tracker user (some id) input).Leads
        (fun _ => SentOnly (fun x => x.request.IsFor summary) w.journal)
        (fun _ => SentOnly (fun x => x.request.IsFor summary) w.journal) w :=
      (save_knowsAgain h ht (hleaves rfl)).mono (fun _ _ h => h.2) (fun _ _ h => h.2)
    exact Leads.always (leads_discard.mpr hsaved)

theorem after_knows {events : List (Event σ)} (h : w.Knows id summary)
    (ht : KeysTrimmed (w.after events).journal)
    (hleaves : EachEvent (Event.LeavesTicket id) w events) :
    (w.after events).Knows id summary ∧ EachEvent (Event.AsksFor id summary) w events := by
  induction events generalizing w with
  | nil => exact ⟨h, trivial⟩
  | cons event rest ih =>
      obtain ⟨hfirst, hrest⟩ := hleaves
      have hj : w.journal <+: (w.after (event :: rest)).journal := journal_prefix_after w _
      obtain ⟨hnext, hasks⟩ := next_knows h (ht.of_prefix hj) hfirst
      obtain ⟨hafter, heach⟩ := ih hnext ht hrest
      exact ⟨hafter, hasks, heach⟩

end Sync

/-- After a save the entry is known by the ticket that it was known by before, if the input repeats
the ticket of the entry or the one that was typed for it, and otherwise, as after the creation of
an entry, by the ticket of the input. This holds for every project and whatever the tracker does.

If no key with white space around it is ever answered, this does not change until another ticket is
typed, and each save of the entry asks the internal tracker for this ticket only. -/
theorem identity_outlives_rewriting {tracker : Tracker σ} {user : UserId} {w w' : World σ}
    {target : Option EntryId} {input : EntryInput} {saved : Saved}
    (hrun : Sync.outcome (Sync.save tracker user target input) w = (.ok saved, w'))
    (htyped : ∀ p, w.store.replaced? target = some p → p.typed ≠ some "") :
    w'.store.entryAt saved.id = .ok (some saved.entry) ∧
      Sync.identifier saved.entry = input.identity (w.store.replaced? target) ∧
      SentOnly (fun x => x.request.IsFor (Sync.identifier saved.entry)) w.journal w' ∧
      ∀ events, KeysTrimmed (w'.after events).journal →
        EachEvent (Event.LeavesTicket saved.id) w' events →
        EachEvent (Event.AsksFor saved.id (Sync.identifier saved.entry)) w' events ∧
          ∀ p, (w'.after events).store.entryAt saved.id = .ok (some p) →
            Sync.identifier p = Sync.identifier saved.entry := by
  obtain ⟨-, hentry, hknows, hsent⟩ := (Sync.save_knows htyped).of_ok hrun
  have hidentifier : Sync.identifier saved.entry = input.identity (w.store.replaced? target) :=
    (hknows.entry hentry).identifier_eq
  refine ⟨hentry, hidentifier, hidentifier ▸ hsent, fun events htrimmed hleaves => ?_⟩
  rw [hidentifier]
  obtain ⟨hafter, hasks⟩ := Sync.after_knows hknows htrimmed hleaves
  exact ⟨hasks, fun p hp => (hafter.entry hp).identifier_eq⟩

/-- The office, with an internal tracker in charge of its project. -/
def internalOffice : World InMemory :=
  { quietOffice with store := { office with
      projects := Table.empty.push { Project.blank "project" with
        system := some ⟨1⟩, internalKey := some "INT", internalSystem := some ⟨1⟩ } } }

/-- An entry was created there, and its ticket was replaced by that of the internal tracker. -/
def retitledOffice : World InMemory := internalOffice.next
  (.call { tracker := InMemory.tracker, user := ⟨1⟩, action := .save none onOtherTicket })

def onInternalTicket : EntryInput := { onOtherTicket with ticket := "INT-1" }

def repeatedSave : Except SyncError Saved × World InMemory :=
  Sync.outcome (Sync.save InMemory.tracker ⟨1⟩ (some ⟨1⟩) onInternalTicket) retitledOffice

def savedAgain : Saved :=
  { id := ⟨1⟩, alert := none
    entry := { onInternalTicket.newEntry ⟨1⟩ with typed := some "A-2", worklog := some "wl-2" } }

def saveRepeatedly : List (Event InMemory) := List.replicate 2
  (.call { tracker := InMemory.tracker, user := ⟨1⟩, action := .save (some ⟨1⟩) onInternalTicket })

def Exchange.query? : Exchange → Option String
  | ⟨_, .search query _ _, _, _⟩ => some query
  | _ => none

/-- However often the entry is saved with the internal ticket, the typed one is searched for. -/
theorem identity_outlives_rewriting_internalOffice :
    repeatedSave.1 = .ok savedAgain ∧
      EachEvent (Event.AsksFor ⟨1⟩ "A-2") repeatedSave.2 saveRepeatedly ∧
      (repeatedSave.2.after saveRepeatedly).journal.filterMap Exchange.query? =
        List.replicate 4 "project = INT AND summary ~ \"A-2\"" := by
  have hrun : repeatedSave.1 = .ok savedAgain := by decide +kernel
  have hbefore : retitledOffice.store.entryAt ⟨1⟩ = .ok (some savedAgain.entry) := by
    decide +kernel
  have hsame : ∀ (w : World InMemory) p, w.store.entryAt ⟨1⟩ = .ok (some savedAgain.entry) →
      w.store.entryAt ⟨1⟩ = .ok (some p) → Text.trim "INT-1" = Text.trim p.ticket := by
    intro w p hsaved hp
    cases hsaved.symm.trans hp
    rfl
  have hsave : Sync.outcome (Sync.save InMemory.tracker ⟨1⟩ (some ⟨1⟩) onInternalTicket)
      retitledOffice = (.ok savedAgain, repeatedSave.2) := Prod.ext hrun rfl
  have hall := identity_outlives_rewriting hsave ?_
  · refine ⟨hrun, (hall.2.2.2 saveRepeatedly (by decide +kernel) ⟨?_, ?_, trivial⟩).1,
      by decide +kernel⟩
    · exact fun _ p hp => .inl (hsame _ p (by decide +kernel) hp)
    · exact fun _ p hp => .inl (hsame _ p (by decide +kernel) hp)
  · intro p hp
    cases (Store.replaced?_eq_some.mp hp).symm.trans hbefore
    decide

end Timesheet
