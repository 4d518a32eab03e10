import Timesheet.Proofs.Isolation
import Timesheet.Proofs.Passes

/-!
The deletion of an entry. Its work-log is accounted for: the tracker confirmed that it is gone, or
its deletion is pending. The other entries of the day are left, with the classes of the day without
the entry.
-/
namespace Timesheet

namespace Store

variable {s t : Store} {user : UserId} {day : Date} {id : EntryId}
  {entries : List (EntryId × TimeEntry)}

/-- The entries of a day, each with the class that `classify` gives for it. -/
def classified (entries : List (EntryId × TimeEntry)) : List (EntryId × TimeEntry) :=
  (entries.zip (classify (entries.map fun r => span r.2))).map fun (r, kind) =>
    (r.1, r.2.withKind kind)

theorem dayEntries_congr (h : s.entries = t.entries) :
    s.dayEntries user day = t.dayEntries user day := by
  unfold dayEntries dayRows
  rw [h]

theorem map_reclassed_stored (hids : (entries.map (·.1)).Nodup) :
    (entries.map storedRow).map (fun r => (r.1, reclassed (classChanges entries) r.1 r.2)) =
      (classified entries).map storedRow := by
  have hzip := map_fst_zip_classify entries
  calc (entries.map storedRow).map (fun r => (r.1, reclassed (classChanges entries) r.1 r.2))
      = ((entries.zip (classify (entries.map fun r => span r.2))).map (·.1)).map
          fun r => (r.1, reclassed (classChanges entries) r.1 r.2.stored) := by
        rw [hzip, List.map_map]
        rfl
    _ = (classified entries).map storedRow := by
        rw [classified, List.map_map, List.map_map]
        refine List.map_congr_left fun pair hpair => ?_
        obtain ⟨r, kind⟩ := pair
        have hkind := reclassed_kind hids hpair
        simp only [Function.comp_apply]
        rw [reclassed_eq_withKind, hkind]
        rfl

theorem reclassifyDay_classified {n : Nat} (h : s.reclassifyDay user day = (.ok n, t)) :
    ∃ entries, s.dayEntries user day = .ok entries ∧
      t.dayEntries user day = .ok (classified entries) := by
  obtain ⟨entries, hrows, rfl⟩ := reclassifyDay_ok h
  refine ⟨entries, mapM_readRow_eq_ok_iff.mpr hrows, mapM_readRow_eq_ok_iff.mpr ?_⟩
  rw [dayRows_reclassed, hrows]
  exact map_reclassed_stored (dayIds_nodup hrows)

end Store

/-- Among these exchanges the deletion of the work-log was sent, and the reply says that it is
gone. -/
def ConfirmedGone (sent : List Exchange) (g : Worklog) : Prop :=
  ∃ x ∈ sent, x.deletion? = some g ∧ x.gone? = some g

/-- Nothing is searched, created or updated. -/
def OnlyDeletes (sent : List Exchange) : Prop :=
  ∀ x ∈ sent, x.request = .connect ∨ ∃ ticket worklog, x.request = .deleteWorklog ticket worklog

/-- Since the journal was `journal`, only deletions were sent. The work-log is gone by one of them,
or its deletion is pending. -/
def Accounted {σ : Type} (journal : List Exchange) (g : Worklog) (w : World σ) : Prop :=
  ∃ sent, w.journal = journal ++ sent ∧ OnlyDeletes sent ∧
    (ConfirmedGone sent g ∨ ∃ d ∈ w.store.stale.rows, d.2.target = g)

variable {σ : Type} {tracker : Tracker σ} {user : UserId} {id : EntryId} {e p : TimeEntry}
  {w : World σ} {r : Route} {worklog : String}

theorem Pass.onlyDeletes {s s' : Store} {trials : List Trial} {journal later : List Exchange}
    (h : Pass tracker s user trials journal later s') :
    OnlyDeletes (trials.flatMap Trial.sent) := by
  intro x hx
  obtain ⟨t, ht, hsent⟩ := List.mem_flatMap.mp hx
  rcases (h.fair t ht).requests x hsent with hconnect | hdelete
  · exact .inl hconnect
  · exact .inr ⟨_, _, hdelete⟩

namespace Sync

theorem removeWorklog_accounts (hworklog : p.worklog = some worklog) (hticket : p.ticket ≠ "")
    (hr : w.store.bookingRoute? p.project = some r)
    (huser : w.store.users.contains p.user = true) :
    (removeWorklog tracker p).Leads (fun _ => Accounted w.journal ⟨r.id, p.ticket, worklog⟩)
      (fun _ => Accounted w.journal ⟨r.id, p.ticket, worklog⟩) w := by
  rw [leads_removeWorklog_of_route hworklog hticket hr]
  cases hs : w.store.recordStale ⟨p.user, r.id, p.ticket, worklog⟩ with
  | error err => exact absurd hs (recordStale_ne_error huser hr)
  | ok s =>
      obtain ⟨row, hrow, hsystem, hrest⟩ := Store.recordStale_target hs
      have htarget : row.2.target = ⟨r.id, p.ticket, worklog⟩ := by
        rw [StaleWorklog.target, hsystem, hrest.1, hrest.2]
      have hcatalog := (Store.recordStale_onlyStale hs).sameCatalog
      have there : s.system? row.2.system ≠ none := by
        rw [hcatalog.system?_eq, hsystem, (Store.routeId?_of_bookingRoute? hr).2.1]
        exact Option.some_ne_none _
      refine retryPending_of_pass fun trials w' hpass => ?_
      refine ⟨_, hpass.sent, hpass.onlyDeletes, ?_⟩
      rcases hpass.confirmed_or_kept hrow there with hgone | hkept
      · rw [htarget] at hgone
        exact .inl hgone
      · exact .inr ⟨row, hkept, htarget⟩

theorem accounted_bearsClasses {journal : List Exchange} {g : Worklog} :
    BearsClasses fun w : World σ =>
      w.store.entries.contains id = false ∧ Accounted journal g w := by
  intro w s changed kind h hs
  obtain ⟨hgone, hsent⟩ := h
  have hwritten := Store.saveClass_ok hs
  subst hwritten
  refine ⟨?_, hsent⟩
  rw [World.put_store, Table.modify_eq_mapRows, Table.contains_mapRows]
  exact hgone

theorem delete_accounts (stored : w.store.entryAt id = .ok (some e))
    (hworklog : e.worklog = some worklog) (hticket : e.ticket ≠ "")
    (hr : w.store.bookingRoute? e.project = some r)
    (huser : w.store.users.contains e.user = true) :
    (delete tracker e.user id).Leads
      (fun _ w' => w'.store.entries.contains id = false ∧
        Accounted w.journal ⟨r.id, e.ticket, worklog⟩ w')
      (fun _ w' => w' = w) w := by
  refine delete_keeps ?_ accounted_bearsClasses
  intro e' stored' _
  rw [stored] at stored'
  cases stored'
  have hgone : ∀ s : Store, (s.eraseEntry id).entries.contains id = false := by
    intro s
    rw [← Bool.not_eq_true, Table.contains_iff]
    intro hcontains
    obtain ⟨a, ha⟩ := hcontains
    exact ((s.entries.mem_erase).mp ha).2 rfl
  exact (removeWorklog_accounts hworklog hticket hr huser).mono
    (fun _ w' h => ⟨hgone w'.store, h⟩) (fun _ w' h => ⟨hgone w'.store, h⟩)

theorem delete_leavesDay {n : Nat} {s : Store} (stored : w.store.entryAt id = .ok (some e))
    (hwritten : (w.store.eraseEntry id).reclassifyDay e.user e.day = (.ok n, s)) :
    (delete tracker e.user id).Leads
      (fun _ w' => ∃ rest, (w.store.eraseEntry id).dayEntries e.user e.day = .ok rest ∧
        w'.store.dayEntries e.user e.day = .ok (Store.classified rest))
      (fun _ _ => False) w := by
  have hown : w.store.ownEntry e.user id = .ok e := by simp [Store.ownEntry, stored]
  refine delete_local.mono ?_ ?_
  · intro _ w' hlocal
    obtain ⟨e', hown', hsame⟩ := hlocal
    rw [hown] at hown'
    cases hown'
    rw [hwritten] at hsame
    rw [← Store.dayEntries_congr hsame.entries_eq]
    exact Store.reclassifyDay_classified hwritten
  · intro err w' hrefused
    rw [hown] at hrefused
    cases hrefused.1

end Sync

def bookedHour (start finish : Clock) (kind : EntryClass) (ticket worklog : String) : TimeEntry :=
  { user := ⟨1⟩, project := ⟨1⟩, customer := none, activity := none, day := monday, start, finish
    minutes := 60, kind, ticket, typed := none, worklog := some worklog, description := "" }

def firstHour : TimeEntry :=
  bookedHour ⟨28800, by decide⟩ ⟨32400, by decide⟩ .dayStart "A-1" "wl-1"

def secondHour (kind : EntryClass) : TimeEntry :=
  bookedHour ⟨36000, by decide⟩ ⟨39600, by decide⟩ kind "A-2" "wl-2"

/-- Two hours of a day with a pause between them, and the deletion of a work-log that the tracker
goes on refusing. -/
def pausedDay : World InMemory :=
  { store := { office with
      entries := (Table.empty.push firstHour.stored).push (secondHour .pause).stored
      stale := Table.empty.push ⟨⟨1⟩, ⟨1⟩, "A-9", "wl-9"⟩ }
    remote := { InMemory.empty with
      rules := [⟨.deleteWorklog, some "A-9", none, .failed "refused" []⟩] }
    journal := [] }

def deletionOfHour : Except SyncError (Option Alert) × World InMemory :=
  Sync.outcome (Sync.delete InMemory.tracker ⟨1⟩ ⟨1⟩) pausedDay

end Timesheet
