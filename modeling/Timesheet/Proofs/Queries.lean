import Timesheet.Proofs.Identity
import Timesheet.Proofs.Upkeep

/-!
What the internal tracker is asked for. A search quotes the ticket by which an entry is known, and
this ticket was typed by a user and has passed the check of its form, so there is nothing in it that
could end the quotation. What trackers answer is stored unchecked, as tickets and never as typed
tickets.
-/
namespace Timesheet

namespace Sync

theorem internalQuery_of_notMem {project summary : String} (h : '"' ∉ summary.toList) :
    internalQuery project summary =
      "project = " ++ project ++ " AND summary ~ \"" ++ summary ++ "\"" := by
  have hkept : ∀ c ∈ summary.toList, (if c = '"' then ['\\', '"'] else [c]) = [c] := by
    intro c hc
    rw [if_neg]
    rintro rfl
    exact h hc
  have hescaped : (summary.toList.flatMap fun c => if c = '"' then ['\\', '"'] else [c]) =
      summary.toList := by
    rw [List.flatMap_congr hkept, List.flatMap_singleton']
  simp only [internalQuery, hescaped, String.ofList_toList]

end Sync

/-- The ticket by which the entry is known is empty or well-formed. -/
structure Entry.Identified {κ : Type} (e : Entry κ) : Prop where
  typed : ∀ ticket, e.typed = some ticket → TicketKey.WellFormed ticket
  untyped : e.typed = none → e.ticket = "" ∨ TicketKey.WellFormed e.ticket

/-- If the request looks for an issue of the internal tracker or opens one, it stays within the
project `key` and is about a well-formed ticket, which a query shows as it is. -/
def Request.KeepsTo (key : Option String) : Request → Prop
  | .search query _ _ => ∃ project ticket, key = some project ∧ TicketKey.WellFormed ticket ∧
      '"' ∉ ticket.toList ∧ '\\' ∉ ticket.toList ∧
      query = "project = " ++ project ++ " AND summary ~ \"" ++ ticket ++ "\""
  | .createIssue project draft => key = some project ∧ TicketKey.WellFormed draft.summary
  | _ => True

theorem Request.keepsTo_of_not_looksUp {r : Request} {key : Option String} (h : ¬ r.LooksUp) :
    r.KeepsTo key := by
  cases r with
  | search query fields limit => exact absurd trivial h
  | createIssue project draft => exact absurd trivial h
  | _ => trivial

theorem Request.keepsTo_search {project ticket : String} {fields : List String} {limit : Nat}
    (h : TicketKey.WellFormed ticket) :
    (Request.search (Sync.internalQuery project ticket) fields limit).KeepsTo (some project) := by
  have hquote : '"' ∉ ticket.toList := h.notMem (by decide) (by decide) (by decide)
  have hbackslash : '\\' ∉ ticket.toList := h.notMem (by decide) (by decide) (by decide)
  exact ⟨project, ticket, rfl, h, hquote, hbackslash, Sync.internalQuery_of_notMem hquote⟩

theorem Entry.identified_withKind {κ μ : Type} {e : Entry κ} {kind : μ} :
    (e.withKind kind).Identified ↔ e.Identified :=
  ⟨fun h => ⟨h.typed, h.untyped⟩, fun h => ⟨h.typed, h.untyped⟩⟩

theorem Entry.Identified.wellFormed {e : TimeEntry} (h : e.Identified)
    (hne : Sync.identifier e ≠ "") : TicketKey.WellFormed (Sync.identifier e) := by
  rcases htyped : e.typed with _ | ticket
  · have hidentifier : Sync.identifier e = e.ticket := by simp [Sync.identifier, htyped]
    rw [hidentifier] at hne ⊢
    exact (h.untyped htyped).resolve_left hne
  · have hticket := h.typed ticket htyped
    have hidentifier : Sync.identifier e = ticket := by
      simp [Sync.identifier, htyped, Option.filter, hticket.ne_empty]
    rw [hidentifier]
    exact hticket

theorem identified_outlasts (key : Option String) :
    Outlasts (fun _ e => e.Identified) (Request.KeepsTo key) key where
  kind _ h := Entry.identified_withKind.mpr h
  worklog _ h := ⟨h.typed, h.untyped⟩
  retitled ticket _ h hne := by
    refine ⟨?_, nofun⟩
    rintro _ ⟨⟩
    exact (Entry.identified_withKind.mp h).wellFormed hne
  search hkey h hne :=
    hkey ▸ Request.keepsTo_search ((Entry.identified_withKind.mp h).wellFormed hne)
  opened hkey h hne := ⟨hkey, (Entry.identified_withKind.mp h).wellFormed hne⟩
  others := Request.keepsTo_of_not_looksUp

theorem identified_admitted : Admitted fun _ e => e.Identified where
  created hcheck := ⟨nofun, fun _ => EntryInput.wellFormed_of_check hcheck⟩
  edited {id p s input} hcheck h := by
    refine ⟨fun ticket htyped => ?_, fun _ => EntryInput.wellFormed_of_check hcheck⟩
    have hkept : (if input.Repeats p then p.typed else none) = some ticket :=
      input.typed_applyTo p ▸ htyped
    split at hkept
    · exact h.typed ticket hkept
    · cases hkept

/-- Whatever keys and summaries trackers answer, and however the catalog changes in between, each
search of a save looks for one well-formed ticket in the internal project of the entry's project,
and each issue that is opened there is for such a ticket. -/
theorem searches_stay_quoted {σ : Type} (w : World σ) (hempty : w.store.entries = ∅)
    (events : List (Event σ)) :
    EachEvent (fun event w => SentOnly (fun x => x.request.KeepsTo (event.internalKey? w.store))
      w.journal (w.next event)) w events := by
  refine (upheld_after identified_outlasts identified_admitted events ?_).2
  rw [hempty]
  rintro row ⟨⟩

/-- An internal tracker that has an issue for the ticket `A-2`, under a key that would end the
quotation of a query. -/
def hostileOffice : World InMemory :=
  { internalOffice with
    remote := { InMemory.empty with issues := [⟨"INT-1\" OR \"\" = \"", some "A-2"⟩] } }

/-- The entry gets that key for its ticket, and both searches are for the ticket that was typed. -/
theorem searches_stay_quoted_hostileOffice :
    let events := [none, some ⟨1⟩].map fun target =>
      Event.call (Call.mk InMemory.tracker ⟨1⟩ (.save target onOtherTicket))
    ((hostileOffice.after events).store.entries.rows.map fun row => (row.2.ticket, row.2.typed)) =
        [("INT-1\" OR \"\" = \"", some "A-2")] ∧
      (hostileOffice.after events).journal.countP (·.request.operation == .search) = 2 ∧
      EachEvent (fun event w => SentOnly (fun x => x.request.KeepsTo (event.internalKey? w.store))
        w.journal (w.next event)) hostileOffice events :=
  ⟨by decide +kernel, by decide +kernel, searches_stay_quoted hostileOffice rfl _⟩

end Timesheet
