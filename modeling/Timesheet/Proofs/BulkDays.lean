import Timesheet.Proofs.DateRanges
import Timesheet.Proofs.Isolation
import Timesheet.Proofs.Spans

/-!
A bulk creation adds one entry for each of its days. Classes aside, it leaves the entries that were
there before as they are, and the new ones come behind them in the order of their days.
-/
namespace Timesheet

def Store.unclassed (s : Store) : List (EntryId × Entry Unit) :=
  s.entries.rows.map fun r => (r.1, r.2.withKind ())

def Saved.unclassed (x : Saved) : EntryId × Entry Unit := (x.id, x.entry.withKind ())

/-- From `s` to `s'` the entries `saved` were added by a bulk creation of the user. -/
structure Sync.BulkRange.Fills (range : BulkRange) (user : UserId) (template : EntryInput)
    (s : Store) (saved : List Saved) (s' : Store) : Prop where
  ascending : (saved.map (·.entry.day)).Pairwise (· < ·)
  days : ∀ d, d ∈ saved.map (·.entry.day) ↔ (range.first ≤ d ∧ d ≤ range.last) ∧
    (range.skipWeekends = true → d.weekday ≠ .saturday ∧ d.weekday ≠ .sunday)
  values : ∀ x ∈ saved, x.entry.user = user ∧
    x.entry.values = { template with day := x.entry.day }.values
  stored : ∀ x ∈ saved, s'.entryAt x.id = .ok (some x.entry)
  rows : s'.unclassed = s.unclassed ++ saved.map Saved.unclassed

namespace Store

variable {s s' : Store} {user : UserId} {day : Date} {id : EntryId}

theorem unclassed_reclassed (changes : List (EntryId × EntryClass)) :
    { s with entries := s.entries.mapRows (reclassed changes) }.unclassed = s.unclassed := by
  simp only [unclassed, Table.mapRows, List.map_map]
  refine List.map_congr_left fun r _ => ?_
  simp only [Function.comp_apply]
  rw [reclassed_eq_withKind]
  rfl

theorem unclassed_reclassifyDay : (s.reclassifyDay user day).2.unclassed = s.unclassed := by
  unfold reclassifyDay
  cases s.dayEntries user day with
  | error err => rfl
  | ok entries =>
      obtain ⟨written, -, hwritten⟩ := writeAll_writes (classChanges entries) 0 s
      dsimp only
      rw [hwritten, unclassed_reclassed]

theorem unclassed_push (e : StoredEntry) :
    { s with entries := s.entries.push e }.unclassed =
      s.unclassed ++ [(s.entries.nextId, e.withKind ())] := by
  simp [unclassed, Table.push]

theorem SameLocal.unclassed_eq {front : List (EntryId × Entry Unit)} {e : Entry Unit}
    (h : s.SameLocal [id] s') (hs : s.unclassed = front ++ [(id, e)]) :
    ∃ e', s'.unclassed = front ++ [(id, e')] ∧ e'.user = e.user := by
  let blank := fun r : EntryId × Entry Unit => (r.1, blankRow [id] r.1 r.2)
  have hblank : ∀ t : Store, t.unclassed.map blank =
      (t.entries.mapRows (blankRow [id])).rows.map fun r => (r.1, r.2.withKind ()) := by
    intro t
    simp only [unclassed, Table.mapRows, List.map_map]
    refine List.map_congr_left fun r _ => ?_
    simp only [blank, blankRow, Function.comp_apply]
    split <;> rfl
  have hsame : s'.unclassed.map blank = front.map blank ++ [blank (id, e)] := by
    rw [hblank s', ← h.entries, ← hblank s, hs, List.map_append]
    rfl
  have hfront : ∀ r ∈ front, r.1 ≠ id := by
    have hincreasing : s.unclassed.Pairwise fun r r' => r.1.value < r'.1.value :=
      List.pairwise_map.mpr s.entries.increasing
    rw [hs] at hincreasing
    rintro r hr rfl
    exact absurd ((List.pairwise_append.mp hincreasing).2.2 r hr _ List.mem_cons_self)
      (Int.lt_irrefl _)
  have hkept : ∀ r : EntryId × Entry Unit, r.1 ≠ id → blank r = r := by
    intro r hr
    simp [blank, blankRow, hr]
  obtain ⟨front', back, hs', hfront', hback⟩ := List.map_eq_append_iff.mp hsame
  obtain ⟨⟨id', e'⟩, hrow, hpair⟩ := List.map_eq_singleton_iff.mp hback
  obtain ⟨rfl, he'⟩ := Prod.mk.inj hpair
  refine ⟨e', ?_, ?_⟩
  · have hids : ∀ r ∈ front', r.1 ≠ id' := by
      intro r hr
      obtain ⟨r', hr', heq⟩ := List.mem_map.mp (hfront' ▸ List.mem_map_of_mem hr)
      exact congrArg Prod.fst heq ▸ hfront r' hr'
    have hmap : ∀ l : List (EntryId × Entry Unit), (∀ r ∈ l, r.1 ≠ id') → l.map blank = l :=
      fun l hl => (List.map_congr_left fun r hr => hkept r (hl r hr)).trans (List.map_id l)
    rw [hs', hrow, ← hmap front' hids, hfront', hmap front hfront]
  · have huser := congrArg Entry.user he'
    simpa [blankRow, Entry.localPart] using huser

end Store

namespace Sync

variable {σ : Type} {tracker : Tracker σ} {user : UserId} {template input : EntryInput}
  {w : World σ}

theorem save_new_appends :
    (save tracker user none input).Leads
      (fun saved w' => saved.entry.user = user ∧
        w'.store.unclassed = w.store.unclassed ++ [saved.unclassed])
      (fun _ _ => True) w := by
  refine (save_local.and save_enters).mono ?_ (fun _ _ _ => trivial)
  rintro saved w' ⟨⟨s, hs, hsame⟩, -, hentry, -, -⟩
  have hlocal : s.unclassed =
      w.store.unclassed ++ [(saved.id, (input.newEntry user).stored.withKind ())] := by
    rw [Store.saveLocally_new] at hs
    cases hcheck : input.check w.store with
    | error err => simp [hcheck] at hs
    | ok _ =>
        simp only [hcheck] at hs
        split at hs
        · obtain ⟨hid, hs⟩ := Prod.mk.inj (Except.ok.inj hs)
          rw [← hid, ← hs, ← Store.unclassed_push]
          exact Store.unclassed_reclassifyDay
        · cases hs
  obtain ⟨e', hrows, huser⟩ := hsame.unclassed_eq hlocal
  obtain ⟨row, kind, hrow, hread⟩ := Store.row_of_entryAt hentry
  have hlast : (saved.id, e') ∈ w'.store.unclassed := by simp [hrows]
  obtain ⟨r, hr, hpair⟩ := List.mem_map.mp hlast
  obtain ⟨hid, rfl⟩ := Prod.mk.inj hpair
  obtain rfl : r = (saved.id, row) := w'.store.entries.eq_of_mem hr hrow hid
  have hsaved : saved.entry.withKind () = row.withKind () := by
    rw [hread]
    rfl
  refine ⟨?_, ?_⟩
  · rw [hread]
    exact huser
  · rw [hrows, Saved.unclassed, hsaved]

theorem saveDays_append (days : List Date) (h : days.Pairwise (· < ·)) :
    (days.mapM fun day => save tracker user none { template with day }).Leads
      (fun saved w' => saved.map (·.entry.day) = days ∧
        (∀ x ∈ saved, x.entry.user = user ∧
          x.entry.values = { template with day := x.entry.day }.values) ∧
        (∀ x ∈ saved, w'.store.entryAt x.id = .ok (some x.entry)) ∧
        w'.store.unclassed = w.store.unclassed ++ saved.map Saved.unclassed)
      (fun _ _ => True) w := by
  induction days generalizing w with
  | nil => exact ⟨rfl, by simp, by simp, by simp⟩
  | cons day rest ih =>
      obtain ⟨hlater, hrest⟩ := List.pairwise_cons.mp h
      rw [List.mapM_cons, leads_bind]
      refine (save_new_appends.and save_enters).mono ?_ (fun _ _ _ => trivial)
      rintro first w₁ ⟨⟨huser, hrows⟩, -, hentry, hvalues, -⟩
      rw [leads_bind]
      refine ((ih hrest).and (saveDays_spares rest)).mono ?_ (fun _ _ _ => trivial)
      rintro others w₂ ⟨⟨hdays, hothers, hstored, hrows'⟩, hspared⟩
      have hday : first.entry.day = day := congrArg Values.day hvalues
      refine ⟨?_, ?_, ?_, ?_⟩
      · rw [List.map_cons, hday, hdays]
      · exact List.forall_mem_cons.mpr ⟨⟨huser, hday ▸ hvalues⟩, hothers⟩
      · refine List.forall_mem_cons.mpr ⟨?_, hstored⟩
        -- The later days are others, so the class of this entry is not written again.
        obtain ⟨row, hrow, hread⟩ := Store.entryAt_eq_some_iff.mp hentry
        obtain ⟨kind, hrow₂, hsame⟩ := hspared.kept _ hrow nofun
        have hkind : kind = row.kind := by
          refine hsame.resolve_right fun hmem => ?_
          obtain ⟨read, hentry⟩ := Entry.read_ok hread
          have hrowDay : row.day = day := hday ▸ (congrArg Entry.day hentry).symm
          exact absurd (hlater _ (hrowDay ▸ hmem)) (Int.lt_irrefl _)
        rw [hkind] at hrow₂
        exact Store.entryAt_eq_some_iff.mpr ⟨row, hrow₂, hread⟩
      · rw [hrows', hrows, List.append_assoc]
        rfl

end Sync

def lastWeek : Sync.BulkRange :=
  { first := ⟨9999, .december, 25, by decide, by decide, by decide, by decide⟩
    last := ⟨9999, .december, 31, by decide, by decide, by decide, by decide⟩
    skipWeekends := true }

def bulkOfLastWeek : Except SyncError (List Saved) × World InMemory :=
  Sync.outcome (Sync.bulkCreate InMemory.tracker ⟨1⟩ onOtherTicket lastWeek) quietOffice

end Timesheet
