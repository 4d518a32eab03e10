import Timesheet.Proofs.Identity
import Timesheet.Proofs.Removals
import Timesheet.Proofs.Stripping

/-!
How an entry gets its ticket in the internal tracker. The search there finds whatever resembles the
identifier of the entry, so of what it gives only an issue that has the identifier for its summary
will do, and the first of these is taken. An issue is opened only where there is none.
-/
namespace Timesheet

/-- The summary of the issue is `name`, white space around it and the case of the letters A to Z
aside. -/
def Issue.IsNamed (i : Issue) (name : String) : Prop :=
  ∃ summary bare, i.summary = some summary ∧ Text.Stripped summary bare ∧
    bare.toList.map Char.toLower = name.toList.map Char.toLower

theorem Issue.isNamed_iff {i : Issue} {name : String} :
    i.IsNamed name ↔ i.summary.any (fun s => Text.sameLetters (Text.trim s) name) = true := by
  simp only [IsNamed, Text.stripped_iff, Text.sameLetters]
  cases i.summary <;> simp

namespace Sync

variable {name : String} {issue : Issue} {issues : List Issue}

theorem issueOf_eq_some_iff :
    issueOf name issues = some issue ↔ ∃ before after, issues = before ++ issue :: after ∧
      issue.IsNamed name ∧ ∀ i ∈ before, ¬ i.IsNamed name := by
  simp only [issueOf, List.find?_eq_some_iff_append, ← Issue.isNamed_iff, Bool.not_eq_true',
    ← Bool.not_eq_true]
  constructor
  · rintro ⟨hnamed, before, after, hissues, hbefore⟩
    exact ⟨before, after, hissues, hnamed, hbefore⟩
  · rintro ⟨before, after, hissues, hnamed, hbefore⟩
    exact ⟨hnamed, before, after, hissues, hbefore⟩

theorem issueOf_eq_none_iff : issueOf name issues = none ↔ ∀ i ∈ issues, ¬ i.IsNamed name := by
  simp only [issueOf, List.find?_eq_none, ← Issue.isNamed_iff]

end Sync

namespace Exchange

variable (s : Store) (c : Connection) (key : String) (e : TimeEntry)

def connecting (reply : Except TrackerError Unit) : Exchange := ⟨c, .connect, reply, s⟩

def searching (reply : Except TrackerError (List Issue)) : Exchange :=
  ⟨c, .search (Sync.internalQuery key (Sync.identifier e)) ["key", "summary"]
    Sync.internalSearchLimit, reply, s⟩

def opening (reply : Except TrackerError String) : Exchange :=
  ⟨c, .createIssue key ⟨Sync.identifier e, e.description⟩, reply, s⟩

end Exchange

/-- What is sent to look up the ticket of an entry, and the ticket that comes of it. -/
inductive LookUp (s : Store) (r : Route) (key : String) (e : TimeEntry) :
    Option String → List Exchange → Prop
  | noToken (missing : s.token? e.user r.id = none) : LookUp s r key e none []
  | unconnected {token : AccessToken} {err : TrackerError}
    (held : s.token? e.user r.id = some token) :
    LookUp s r key e none [.connecting s ⟨r.id, r.system, token⟩ (.error err)]
  | unanswered {token : AccessToken} {err : TrackerError}
    (held : s.token? e.user r.id = some token) :
    LookUp s r key e none [.connecting s ⟨r.id, r.system, token⟩ (.ok ()),
      .searching s ⟨r.id, r.system, token⟩ key e (.error err)]
  | found {token : AccessToken} {before after : List Issue} {issue : Issue}
    (held : s.token? e.user r.id = some token) (named : issue.IsNamed (Sync.identifier e))
    (first : ∀ i ∈ before, ¬ i.IsNamed (Sync.identifier e)) :
    LookUp s r key e (some issue.key) [.connecting s ⟨r.id, r.system, token⟩ (.ok ()),
      .searching s ⟨r.id, r.system, token⟩ key e (.ok (before ++ issue :: after))]
  | opened {token : AccessToken} {issues : List Issue} {ticket : String}
    (held : s.token? e.user r.id = some token)
    (unnamed : ∀ i ∈ issues, ¬ i.IsNamed (Sync.identifier e)) :
    LookUp s r key e (some ticket) [.connecting s ⟨r.id, r.system, token⟩ (.ok ()),
      .searching s ⟨r.id, r.system, token⟩ key e (.ok issues),
      .opening s ⟨r.id, r.system, token⟩ key e (.ok ticket)]
  | unopened {token : AccessToken} {issues : List Issue} {err : TrackerError}
    (held : s.token? e.user r.id = some token)
    (unnamed : ∀ i ∈ issues, ¬ i.IsNamed (Sync.identifier e)) :
    LookUp s r key e none [.connecting s ⟨r.id, r.system, token⟩ (.ok ()),
      .searching s ⟨r.id, r.system, token⟩ key e (.ok issues),
      .opening s ⟨r.id, r.system, token⟩ key e (.error err)]

theorem LookUp.eq_none_iff {s : Store} {r : Route} {key : String} {e : TimeEntry}
    {ticket : Option String} {sent : List Exchange} (h : LookUp s r key e ticket sent) :
    ticket = none ↔ s.token? e.user r.id = none ∨ ∃ x ∈ sent, x.failure? ≠ none := by
  cases h with
  | noToken missing => simp [missing]
  | unconnected | unanswered | unopened =>
      simp [Exchange.connecting, Exchange.searching, Exchange.opening, Exchange.failure?]
  | found held | opened held =>
      simp [held, Exchange.connecting, Exchange.searching, Exchange.opening, Exchange.failure?]

namespace Sync

variable {σ : Type} {tracker : Tracker σ} {id : EntryId} {e e' : TimeEntry} {w w' : World σ}
  {r : Route} {key : String}

theorem internalIssue_looksUp {token : AccessToken}
    (held : w.store.token? e.user r.id = some token) :
    (internalIssue tracker ⟨r.id, r.system, token⟩ key ⟨identifier e, e.description⟩).Leads
      (fun ticket w' => Adds (fun sent => LookUp w.store r key e (some ticket)
          (.connecting w.store ⟨r.id, r.system, token⟩ (.ok ()) :: sent)) w.journal w'.journal ∧
        w'.store = w.store)
      (fun _ w' => Adds (fun sent => LookUp w.store r key e none
          (.connecting w.store ⟨r.id, r.system, token⟩ (.ok ()) :: sent)) w.journal w'.journal ∧
        w'.store = w.store) w := by
  unfold internalIssue
  rw [leads_bind]
  apply Leads.send
  · intro issues remote
    cases hissue : issueOf (identifier e) issues with
    | some issue =>
        obtain ⟨before, after, rfl, hnamed, hfirst⟩ := issueOf_eq_some_iff.mp hissue
        exact ⟨.one (.found held hnamed hfirst), rfl⟩
    | none =>
        have hunnamed := issueOf_eq_none_iff.mp hissue
        apply Leads.send
        · exact fun ticket remote' => ⟨.two (.opened held hunnamed), rfl⟩
        · exact fun err remote' => ⟨.two (.unopened held hunnamed), rfl⟩
  · exact fun err remote => ⟨.one (.unanswered held), rfl⟩

/-- Where a ticket comes of the look-up, the entry gets it, unless it cannot be stored. Where none
does, everything stays as it is. -/
theorem resolveInternal_looksUp (named : identifier e ≠ "") :
    (resolveInternal tracker id r key).Leads
      (fun _ e' w' => ∃ ticket, Adds (LookUp w.store r key e (some ticket)) w.journal w'.journal ∧
        e' = e.retitled (identifier e) ticket ∧
        (w.store.entries.contains id = true → w'.store.entryAt id = .ok (some e')))
      (fun _ e' w' =>
        Adds (LookUp w.store r key e none) w.journal w'.journal ∧ e' = e ∧ w'.store = w.store ∨
        (∃ ticket, Adds (LookUp w.store r key e (some ticket)) w.journal w'.journal) ∧
          ¬ (w.store.frozen = false ∧ w.store.allowsEntry e = true)) e w := by
  rw [leads_resolveInternal, if_neg named, leads_connect]
  cases held : w.store.token? e.user r.id with
  | none => exact .inl ⟨.nothing (.noToken held), rfl, rfl⟩
  | some token =>
      apply Leads.send
      · intro _ remote
        refine (internalIssue_looksUp (w := w.note _ remote) held).mono ?_ ?_
        · rintro ticket w₂ ⟨hsent, hstore⟩
          have hlooked := hsent.after fun _ h => h
          rw [hstore, World.note_store]
          cases hsave : w.store.saveEntry id (e.retitled (identifier e) ticket) with
          | ok s =>
              refine ⟨ticket, hlooked, rfl, fun stored => ?_⟩
              refine Store.entryAt_eq_some_iff.mpr ⟨_, ?_, Entry.read_stored _⟩
              rw [World.put_store, Store.saveEntry_ok hsave]
              exact (w.store.entries.mem_put stored).mpr (.inl rfl)
          | error err =>
              refine .inr ⟨⟨ticket, hlooked⟩, ?_⟩
              rintro ⟨hthawed, hallowed⟩
              have hretitled : w.store.allowsEntry (e.retitled (identifier e) ticket) = true :=
                hallowed
              cases hrow : w.store.entries.contains id <;>
                simp [Store.saveEntry, hrow, hthawed, hretitled] at hsave
        · rintro err w₂ ⟨hsent, hstore⟩
          exact .inl ⟨hsent.after fun _ h => h, rfl, hstore⟩
      · exact fun err remote => .inl ⟨.one (.unconnected held), rfl, rfl⟩

/-- For an entry with an identifier one search is sent. If the work succeeds, the entry has the
identifier as what was typed, and as its ticket the first issue found that has the identifier for
its summary; then none is opened. Only where no issue found has it, one is opened, and its key is the
ticket. If there is no token or a request fails, the work fails, and the entry stays as it is, in
memory and in the store. In all other cases the work succeeds, if the entry can be stored. -/
theorem internal_ticket_exact {result : Except SyncError Unit} (named : identifier e ≠ "")
    (hrun : (resolveInternal tracker id r key).outcome e w = (result, e', w')) :
    ∃ sent, w'.journal = w.journal ++ sent ∧
      (result = .ok () → ∃ ticket, LookUp w.store r key e (some ticket) sent ∧
        e' = e.retitled (identifier e) ticket ∧
        (w.store.entries.contains id = true → w'.store.entryAt id = .ok (some e'))) ∧
      (w.store.token? e.user r.id = none ∨ (∃ x ∈ sent, x.failure? ≠ none) →
        (∃ err, result = .error err) ∧ e' = e ∧ w'.store = w.store) ∧
      (w.store.token? e.user r.id ≠ none → (∀ x ∈ sent, x.failure? = none) →
        w.store.frozen = false → w.store.allowsEntry e = true → result = .ok ()) := by
  have hlooked : (resolveInternal tracker id r key).Leads _ _ e w :=
    resolveInternal_looksUp named
  rcases result with err | ⟨⟩
  · rcases (Working.leads_of_error hrun).mp hlooked with
      ⟨⟨sent, hjournal, hsent⟩, hentry, hstore⟩ | ⟨⟨ticket, sent, hjournal, hsent⟩, hrefused⟩
    · have hnone := hsent.eq_none_iff.mp rfl
      refine ⟨sent, hjournal, nofun, fun _ => ⟨⟨err, rfl⟩, hentry, hstore⟩, ?_⟩
      intro htoken hall
      rcases hnone with hmissing | ⟨x, hx, hfailed⟩
      · exact absurd hmissing htoken
      · exact absurd (hall x hx) hfailed
    · refine ⟨sent, hjournal, nofun, fun hfailed => ?_, fun _ _ hthawed hallowed => ?_⟩
      · cases hsent.eq_none_iff.mpr hfailed
      · exact absurd ⟨hthawed, hallowed⟩ hrefused
  · obtain ⟨ticket, ⟨sent, hjournal, hsent⟩, hentry, hat⟩ := (Working.leads_of_ok hrun).mp hlooked
    refine ⟨sent, hjournal, fun _ => ⟨ticket, hsent, hentry, hat⟩, fun hfailed => ?_,
      fun _ _ _ _ => rfl⟩
    cases hsent.eq_none_iff.mpr hfailed

/-- An entry with the ticket `A-2`, in a project of the internal tracker, which has four issues that
resemble it. -/
def lookedUpEntry : TimeEntry := onOtherTicket.newEntry ⟨1⟩

def resemblingOffice : World InMemory :=
  { internalOffice with
    store := { internalOffice.store with entries := Table.empty.push lookedUpEntry.stored }
    remote := { InMemory.empty with issues :=
      [⟨"INT-5", some "A-22"⟩, ⟨"INT-6", none⟩, ⟨"INT-7", some " a-2\t"⟩, ⟨"INT-8", some "A-2"⟩] } }

def internalRoute : Route := { officeRoute with internalKey := some "INT" }

def ticketOfResembling : Except SyncError Unit × TimeEntry × World InMemory :=
  (resolveInternal InMemory.tracker ⟨1⟩ internalRoute "INT").outcome lookedUpEntry resemblingOffice

/-- The first issue that has the ticket for its summary is the third. -/
theorem internal_ticket_exact_resemblingOffice :
    ticketOfResembling.2.2.store.entryAt ⟨1⟩ = .ok (some (lookedUpEntry.retitled "A-2" "INT-7")) ∧
      ∃ sent, ticketOfResembling.2.2.journal = resemblingOffice.journal ++ sent ∧
        LookUp resemblingOffice.store internalRoute "INT" lookedUpEntry (some "INT-7") sent := by
  have hresult : ticketOfResembling.1 = .ok () := by decide +kernel
  have hentry : ticketOfResembling.2.1 = lookedUpEntry.retitled "A-2" "INT-7" := by decide +kernel
  have hrun : (resolveInternal InMemory.tracker ⟨1⟩ internalRoute "INT").outcome lookedUpEntry
      resemblingOffice =
      (.ok (), lookedUpEntry.retitled "A-2" "INT-7", ticketOfResembling.2.2) :=
    Prod.ext hresult (Prod.ext hentry rfl)
  obtain ⟨sent, hjournal, hfound, -⟩ := internal_ticket_exact (by decide) hrun
  obtain ⟨ticket, hlooked, hretitled, hat⟩ := hfound rfl
  obtain rfl : "INT-7" = ticket := congrArg Entry.ticket hretitled
  exact ⟨hat (by decide), sent, hjournal, hlooked⟩

end Sync

end Timesheet
