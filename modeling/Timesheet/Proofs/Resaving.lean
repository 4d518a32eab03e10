import Timesheet.Proofs.Rest
import Timesheet.Proofs.Spans

/-!
Saving again. A save that gives no alert brings the entry to rest, so that the same save once more,
with the values that are stored now, changes nothing.
-/
namespace Timesheet

/-- The route of the project can be told. Where tickets are looked up, what the entry is known by
counts as typed, and elsewhere the entry has this ticket. -/
structure Settled (ticket : String) (e : TimeEntry) (s : Store) : Prop where
  routed : ∃ p route, s.project? e.project = some p ∧ Route.ofProject s p = .ok route
  identified : s.searchedKey? e.project ≠ none → Sync.identifier e ≠ "" →
    e.typed = some (Sync.identifier e)
  kept : s.searchedKey? e.project = none → e.ticket = ticket

variable {σ : Type} {tracker : Tracker σ} {user : UserId} {id : EntryId} {e p : TimeEntry}
  {w : World σ} {s s' : Store} {ticket : String}

theorem Store.SameCatalog.searchedKey?_eq (h : s.SameCatalog s') (id : ProjectId) :
    s'.searchedKey? id = s.searchedKey? id := by
  rw [Store.searchedKey?, h.bookingRoute?_eq, Store.searchedKey?]

theorem Store.internalProjectKey_of_searched {id : ProjectId} {p : Project} {key : String}
    (hp : s.project? id = some p) (h : s.searchedKey? id = some key) :
    p.internalProjectKey = some key := by
  obtain ⟨r, hr, hkey⟩ := Option.bind_eq_some_iff.mp h
  cases hroute : Route.ofProject s p with
  | error err =>
      rw [Sync.bookingRoute?_of_error hp hroute] at hr
      cases hr
  | ok route =>
      rw [Sync.bookingRoute?_of_ok hp hroute] at hr
      obtain rfl : route = some r := (Option.filter_eq_some_iff.mp hr).1
      exact (Route.internalKey_of_ofProject hroute).symm.trans hkey

section Settled
variable (h : Settled ticket e s)
include h

theorem Settled.sameCatalog (hs : s.SameCatalog s') : Settled ticket e s' := by
  refine ⟨?_, ?_, ?_⟩
  · simp only [hs.project?_eq, hs.ofProject_eq]
    exact h.routed
  · rw [hs.searchedKey?_eq]
    exact h.identified
  · rw [hs.searchedKey?_eq]
    exact h.kept

theorem Settled.withWorklog (worklog : Option String) : Settled ticket (e.withWorklog worklog) s :=
  ⟨h.routed, h.identified, h.kept⟩

theorem Settled.withKind (kind : EntryClass) : Settled ticket (e.withKind kind) s :=
  ⟨h.routed, h.identified, h.kept⟩

end Settled

theorem Sync.ticket_eq_of_identifier (h : identifier e = "") : e.ticket = "" := by
  rcases htyped : e.typed with _ | typed
  · simpa [identifier, htyped] using h
  · by_cases hempty : typed = ""
    · simpa [identifier, htyped, hempty, Option.filter] using h
    · simp [identifier, htyped, hempty, Option.filter] at h

namespace Sync

theorem resolveInternal_settles {r : Route} {key : String}
    (routed : ∃ p route, w.store.project? e.project = some p ∧
      Route.ofProject w.store p = .ok route)
    (searched : w.store.searchedKey? e.project ≠ none) (pending : w.store.pendingOf e.user = []) :
    (resolveInternal tracker id r key).Leads (fun _ e' w' => Settled ticket e' w'.store)
      (fun _ _ _ => True) e w := by
  have hkept : (resolveInternal tracker id r key).Leads (fun _ => SameWork e w)
      (fun _ _ _ => True) e w :=
    (resolveInternal_keeps (I := fun _ _ => True) .const trivial pending).mono
      (fun _ _ _ h => h.2.1) (fun _ _ _ _ => trivial)
  have hidentified : (resolveInternal tracker id r key).Leads
      (fun _ e' _ => identifier e' ≠ "" → e'.typed = some (identifier e')) (fun _ _ _ => True)
      e w := by
    by_cases hname : identifier e = ""
    · rw [leads_resolveInternal, if_pos hname]
      exact fun hne => absurd hname hne
    · refine (resolveInternal_looksUp hname).mono ?_ (fun _ _ _ _ => trivial)
      rintro - _ w' ⟨ticket, -, rfl, -⟩ -
      rw [identifier_retitled hname]
      rfl
  refine (hkept.and hidentified).mono ?_ (fun _ _ _ _ => trivial)
  rintro - e' w' ⟨hsame, htyped⟩
  refine ⟨?_, fun _ => htyped, fun hno => ?_⟩
  · simp only [hsame.project, hsame.catalog.project?_eq, hsame.catalog.ofProject_eq]
    exact routed
  · rw [hsame.project, hsame.catalog.searchedKey?_eq] at hno
    exact absurd hno searched

theorem settle_settles :
    (settle tracker id).Leads (fun _ e' w' => Settled e.ticket e' w'.store) (fun _ _ _ => True)
      e w := by
  refine settle_stages ((retryPending_keeps (I := fun _ => True) .const trivial).mono
    (fun _ _ h => h.2.2) (fun _ _ _ => trivial)) (fun _ _ => trivial) ?_ ?_
  · intro w₁ p route _ hproject hroute hno
    exact ⟨⟨p, route, hproject, hroute⟩, fun hsearched => absurd hno hsearched, fun _ => rfl⟩
  · intro w₁ p route r key hpending hproject hroute hr hkey
    have hsearched : w₁.store.searchedKey? e.project ≠ none := by
      simp [Store.searchedKey?, hr, hkey]
    exact resolveInternal_settles ⟨p, route, hproject, hroute⟩ hsearched hpending

theorem settled_bearsClasses :
    BearsClasses fun w : World σ =>
      ∃ e, InStep id e w.store ∧ Settled ticket e w.store := by
  rintro w s changed kind ⟨e, hstep, hsettled⟩ hs
  have hcatalog := Store.saveClass_sameCatalog hs
  obtain ⟨kind', hstored⟩ := Stored.saveClass ⟨hstep.row, hstep.allowed⟩ hs
  refine ⟨e.withKind kind', ⟨hstored.row, ?_, hstored.allowed⟩, ?_⟩
  · exact hcatalog.frozen_eq.trans hstep.thawed
  · exact (hsettled.sameCatalog hcatalog).withKind kind'

theorem reconcile_settles {previous : Option TimeEntry} (step : InStep id e w.store)
    (users : ∀ p ∈ previous, p.user = e.user) :
    (reconcile tracker id previous).Leads
      (fun _ e' w' => InStep id e' w'.store ∧ Settled e.ticket e' w'.store) (fun _ _ _ => True)
      e w := by
  have hsettle : (settle tracker id).Leads
      (fun _ e' w' => InStep id e' w'.store ∧ Settled e.ticket e' w'.store) (fun _ _ _ => True)
      e w :=
    ((settle_ready step).and settle_settles).mono (fun _ _ _ h => ⟨h.1.1, h.2⟩)
      (fun _ _ _ _ => trivial)
  refine reconcile_stages users hsettle (fun _ _ _ h => h) ?_ ?_
  · intro p hp e₁ w₁ hsettled hsame _
    refine (leaveTicket_keeps (inStep_bearsLeaving (P := Settled e.ticket) Settled.sameCatalog
      fun worklog h => h.withWorklog worklog) hsettled ((users p hp).trans hsame.user.symm)).mono
      (fun _ _ _ h => h.1) (fun _ _ _ _ => trivial)
  · intro e₁ w₁ hsettled hsame hpending
    cases hr : w₁.store.bookingRoute? e₁.project with
    | none => exact hsettled
    | some r =>
        refine (book_keeps (inStep_bearsBooking (P := Settled e.ticket) Settled.sameCatalog
          fun worklog h => h.withWorklog worklog) hsettled hr (hsame.user ▸ hpending)).mono
          (fun _ _ _ h => h) (fun _ _ _ _ => trivial)

theorem rightClasses_of_unalerted {day : Date}
    (h : classAlert (s.reclassifyDay user day).1 = none) :
    Store.RightClasses ((s.reclassifyDay user day).2.dayRows user day) := by
  rcases hrun : s.reclassifyDay user day with ⟨err | n, s'⟩
  · rw [hrun] at h
    cases h
  · exact Store.reclassifyDay_right hrun

theorem rightClasses_kept {day day' : Date} (hright : Store.RightClasses (s.dayRows user day))
    (hother : day' ≠ day) (h : classAlert (s.reclassifyDay user day').1 = none) :
    Store.RightClasses ((s.reclassifyDay user day').2.dayRows user day) := by
  rcases hrun : s.reclassifyDay user day' with ⟨err | n, s'⟩
  · rw [hrun] at h
    cases h
  · rw [Store.reclassifyDay_other hrun (by simp [hother.symm])]
    exact hright

theorem alertingReclassifyDays_right {previous : Option TimeEntry} {earlier : Option Alert} :
    (alertingReclassifyDays user e previous earlier).Leads
      (fun alert w' => alert = none → Store.RightClasses (w'.store.dayRows user e.day))
      (fun _ _ => False) w := by
  have hnone : ∀ {first later : Option Alert}, (first <|> later) = none →
      first = none ∧ later = none := by
    intro first later h
    cases first with
    | none => exact ⟨rfl, h⟩
    | some a => cases h
  unfold alertingReclassifyDays
  rw [leads_bind, leads_alertingReclassify_iff]
  rcases previous with _ | p
  · exact fun quiet => rightClasses_of_unalerted (hnone quiet).2
  · dsimp only
    split
    · exact fun quiet => rightClasses_of_unalerted (hnone quiet).2
    · next hother =>
        rw [leads_alertingReclassify_iff]
        intro quiet
        obtain ⟨hfirst, hsecond⟩ := hnone quiet
        exact rightClasses_kept (rightClasses_of_unalerted (hnone hfirst).2) hother hsecond

theorem followUp_classifies {previous : Option TimeEntry} :
    (followUp tracker user id e previous).Leads
      (fun saved w' => saved.alert = none → Store.RightClasses (w'.store.dayRows user e.day))
      (fun _ _ => True) w := by
  unfold followUp
  rw [leads_bind]
  refine Leads.anyway fun w₁ => ⟨fun alert => ?_, fun _ => trivial⟩
  rw [leads_bind]
  refine alertingReclassifyDays_right.mono ?_ (fun _ _ h => h.elim)
  intro alert' w₂ hright
  rw [leads_reload]
  split
  · trivial
  · trivial
  · exact hright

theorem followUp_settles {previous : Option TimeEntry} (step : InStep id e w.store)
    (users : ∀ p ∈ previous, p.user = e.user) :
    (followUp tracker user id e previous).Leads
      (fun saved w' => saved.alert = none →
        InStep saved.id saved.entry w'.store ∧ Settled e.ticket saved.entry w'.store ∧
        Store.RightClasses (w'.store.dayRows user e.day))
      (fun _ _ => True) w := by
  have hsettled : (followUp tracker user id e previous).Leads _ _ w :=
    followUp_unalerted (reconcile_settles step users) settled_bearsClasses fun h => h.1.entryAt
  refine (hsettled.and followUp_classifies).mono ?_ (fun _ _ _ => trivial)
  rintro saved w' ⟨hsaved, hright⟩ quiet
  obtain ⟨rfl, hstep, hticket⟩ := hsaved quiet
  exact ⟨hstep, hticket, hright quiet⟩

theorem save_settles {target : Option EntryId} {input : EntryInput}
    (thawed : w.store.frozen = false) :
    (save tracker user target input).Leads
      (fun saved w' => input.check w.store = .ok () ∧ (saved.alert = none →
        InStep saved.id saved.entry w'.store ∧
        Settled (Text.trim input.ticket) saved.entry w'.store ∧
        Store.RightClasses (w'.store.dayRows user input.day)))
      (fun _ _ => True) w := by
  unfold save
  rw [leads_bind]
  refine (accept_stores.and accept_checks).mono ?_ (fun _ _ _ => trivial)
  rintro r _ ⟨⟨s, haccepted, rfl⟩, hcheck⟩
  have hstep : InStep r.1 r.2.1 s :=
    ⟨haccepted.row, haccepted.sameCatalog.frozen_eq.trans thawed, haccepted.stored.allowed⟩
  have hday : r.2.1.day = input.day := congrArg Values.day haccepted.values_eq
  have hsettled : (followUp tracker user r.1 r.2.1 r.2.2).Leads _ _ (w.put s) :=
    followUp_settles hstep haccepted.previous_user
  refine hsettled.mono ?_ (fun _ _ h => h)
  intro saved w' h
  rw [haccepted.ticket_eq, hday] at h
  exact ⟨hcheck, h⟩

end Sync

theorem Entry.Normal.of_values {e e' : TimeEntry} (h : e'.Normal) (hvalues : e.values = e'.values) :
    e.Normal := by
  have hstart : e.start = e'.start := congrArg Values.start hvalues
  have hfinish : e.finish = e'.finish := congrArg Values.finish hvalues
  have hminutes : e.minutes = e'.minutes := congrArg Values.minutes hvalues
  unfold Entry.Normal
  rw [hstart, hfinish, hminutes]
  exact h

theorem Settled.taken {input : EntryInput} {project : Project}
    (h : Settled (Text.trim input.ticket) e s)
    (hproject : s.project? e.project = some project)
    (hcheck : checkTicket project (Text.trim input.ticket) = .ok ())
    (keyed : s.searchedKey? e.project ≠ none → Sync.identifier e ≠ "" →
      TicketKey.WellFormed e.ticket) :
    Text.trim e.ticket = e.ticket ∧ checkTicket project e.ticket = .ok () := by
  cases hkey : s.searchedKey? e.project with
  | none =>
      rw [h.kept hkey, Text.trim_trim]
      exact ⟨rfl, hcheck⟩
  | some key =>
      by_cases hname : Sync.identifier e = ""
      · rw [Sync.ticket_eq_of_identifier hname]
        exact ⟨by decide, rfl⟩
      · have hform := keyed (by simp [hkey]) hname
        refine ⟨Text.trim_of_not_blank fun _ hc => hform.not_blank hc, ?_⟩
        refine checkTicket_ok_iff.mpr (.inr ⟨hform, ?_⟩)
        simp [Project.takes, Store.internalProjectKey_of_searched hproject hkey]

/-- A save that gives no alert brings the entry to rest. -/
theorem atRest_of_unalerted {target : Option EntryId} {input : EntryInput} {saved : Saved}
    {w' : World σ} (hrun : Sync.outcome (Sync.save tracker user target input) w = (.ok saved, w'))
    (quiet : saved.alert = none) (thawed : w.store.frozen = false)
    (keyed : w'.store.searchedKey? saved.entry.project ≠ none → Sync.identifier saved.entry ≠ "" →
      TicketKey.WellFormed saved.entry.ticket) :
    AtRest saved.id saved.entry w'.store ∧ saved.entry.user = user := by
  obtain ⟨hcheck, hends⟩ := (Sync.save_settles thawed).of_ok hrun
  obtain ⟨hstep, hsettled, hclasses⟩ := hends quiet
  have hcatalog : w.store.SameCatalog w'.store := Sync.save_refuses.of_ok hrun
  have hshown := Sync.save_shows.of_ok hrun quiet
  obtain ⟨-, -, hvalues, -⟩ := Sync.save_enters.of_ok hrun
  rw [← hcatalog.check_eq] at hcheck
  obtain ⟨project, hproject, hactive, hcustomer, hactivity, hticket⟩ :=
    EntryInput.check_ok_iff.mp hcheck
  rw [← hshown.project] at hproject
  obtain ⟨htrimmed, htaken⟩ := hsettled.taken hproject hticket keyed
  have hcustomers : saved.entry.customer = input.customer := congrArg Values.customer hvalues
  have hactivities : saved.entry.activity = input.activity := congrArg Values.activity hvalues
  have hday : saved.entry.day = input.day := congrArg Values.day hvalues
  refine ⟨{ hstep with
    accepted := ?_
    normal := ?_
    trimmed := htrimmed
    pending := ?_
    routed := hsettled.routed
    identified := fun hkey hname => ⟨hsettled.identified hkey hname, (keyed hkey hname).ne_empty⟩
    booked := ?_
    classes := ?_ }, hshown.user⟩
  · rw [← hcustomers] at hcustomer
    rw [← hactivities] at hactivity
    rw [← htrimmed] at htaken
    exact EntryInput.check_ok_iff.mpr ⟨project, hproject, hactive, hcustomer, hactivity, htaken⟩
  · have hnew : (input.newEntry user).Normal := Entry.normalize_normal _
    exact hnew.of_values (hvalues.trans (input.values_newEntry user).symm)
  · rw [hshown.user]
    exact hshown.pending
  · intro r hr ht
    obtain ⟨worklog, token, hw, htoken, -⟩ := hshown.mirrored.booked r hr ht
    exact ⟨worklog, token, hw, htoken⟩
  · rw [hshown.user, hday]
    exact hclasses

/-- The first save in the internal office, which opens an issue there. -/
def firstSave : Except SyncError Saved × World InMemory :=
  Sync.outcome (Sync.save InMemory.tracker ⟨1⟩ none onOtherTicket) internalOffice

def secondSave : Except SyncError Saved × World InMemory :=
  Sync.outcome (Sync.save InMemory.tracker ⟨1⟩ (some ⟨1⟩) (.ofEntry savedAgain.entry)) firstSave.2

end Timesheet
