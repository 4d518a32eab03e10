import Timesheet.Proofs.BulkDays
import Timesheet.Proofs.Erasure

/-!
Classifying a day anew. The entries of the day get the classes that `classify` gives for them. No
row is written that has its class already, so a second time nothing is written at all.
-/
namespace Timesheet

namespace Store

variable {s s' : Store} {user : UserId} {day : Date} {n m : Nat}
  {changes : List (EntryId × EntryClass)} {entries : List (EntryId × TimeEntry)}

theorem rightClasses_of_noChanges (h : classChanges entries = []) :
    RightClasses (entries.map storedRow) := by
  have hkind : ∀ r kind, (r, kind) ∈ entries.zip (classify (entries.map fun r => span r.2)) →
      r.2.kind = kind := by
    intro r kind hr
    by_contra hne
    have hchange : (r.1, kind) ∈ classChanges entries := mem_classChanges.mpr ⟨r, hr, rfl, hne⟩
    rw [h] at hchange
    cases hchange
  apply rightClasses_iff.mpr
  refine List.ext_getElem (by simp) fun i hi hi' => ?_
  have hzip : i < (entries.zip (classify (entries.map fun r => span r.2))).length := by
    simpa using hi
  have hpair := List.getElem_mem hzip
  rw [List.getElem_zip] at hpair
  rw [List.getElem_map]
  exact hkind _ _ hpair

theorem writeAll_frozen {change : EntryId × EntryClass} (hf : s.frozen = true)
    (hid : s.entries.contains change.1 = true) :
    reclassifyDay.writeAll (change :: changes) n s = (.error .frozen, s) := by
  obtain ⟨id, kind⟩ := change
  simp [reclassifyDay.writeAll, saveClass, saveCode, hf, hid]

theorem contains_of_classChange {change : EntryId × EntryClass}
    (hrows : s.dayRows user day = entries.map storedRow) (h : change ∈ classChanges entries) :
    ∃ r ∈ entries, r.1 = change.1 ∧ r.2.kind ≠ change.2 ∧ storedRow r ∈ s.entries.rows := by
  obtain ⟨r, hr, hid, hne⟩ := mem_classChanges.mp h
  have hentry : r ∈ entries := (List.of_mem_zip hr).1
  have hrow : storedRow r ∈ s.dayRows user day := hrows ▸ List.mem_map_of_mem hentry
  exact ⟨r, hentry, hid, hne, ((dayRows_inOrder.mem_iff _).mp hrow).1⟩

/-- A day is classified anew exactly if its entries can be read and, where classes cannot be
written, have the right ones. -/
theorem reclassifyDay_succeeds_iff :
    (∃ n s', s.reclassifyDay user day = (.ok n, s')) ↔
      ∃ entries, s.dayEntries user day = .ok entries ∧
        (s.frozen = true →
          entries.map (·.2.kind) = classify (entries.map fun r => span r.2)) := by
  constructor
  · intro hsucceeds
    obtain ⟨n, s', h⟩ := hsucceeds
    obtain ⟨entries, hrows, -⟩ := reclassifyDay_ok h
    have hread : s.dayEntries user day = .ok entries := mapM_readRow_eq_ok_iff.mpr hrows
    refine ⟨entries, hread, fun hf => rightClasses_iff.mp (rightClasses_of_noChanges ?_)⟩
    cases hchanges : classChanges entries with
    | nil => rfl
    | cons change rest =>
        have hchange : change ∈ classChanges entries := by
          rw [hchanges]
          exact List.mem_cons_self
        obtain ⟨r, -, hid, -, hrow⟩ := contains_of_classChange hrows hchange
        have hcontains : s.entries.contains change.1 = true :=
          (s.entries.contains_iff).mpr ⟨r.2.stored, hid ▸ hrow⟩
        simp only [reclassifyDay, hread, hchanges, writeAll_frozen hf hcontains] at h
        cases h
  · intro hready
    obtain ⟨entries, hread, hright⟩ := hready
    cases hf : s.frozen with
    | false =>
        have hwritten : ∃ n, (reclassifyDay.writeAll (classChanges entries) 0 s).1 = .ok n :=
          writeAll_succeeds hf 0
        obtain ⟨n, hn⟩ := hwritten
        refine ⟨n, (reclassifyDay.writeAll (classChanges entries) 0 s).2, ?_⟩
        simp only [reclassifyDay, hread]
        exact Prod.ext hn rfl
    | true =>
        have hday : RightClasses (s.dayRows user day) :=
          mapM_readRow_eq_ok_iff.mp hread ▸ rightClasses_iff.mpr (hright hf)
        exact ⟨0, s, reclassifyDay_of_right hday⟩

theorem writeAll_counts (h : reclassifyDay.writeAll changes n s = (.ok m, s')) :
    m = n + changes.length := by
  induction changes generalizing s n with
  | nil =>
      cases h
      rfl
  | cons change rest ih =>
      obtain ⟨id, kind⟩ := change
      unfold reclassifyDay.writeAll at h
      cases hsave : s.saveClass id kind with
      | error err => simp [hsave] at h
      | ok s₁ =>
          simp only [hsave] at h
          rw [ih h, List.length_cons]
          omega

theorem reclassifyDay_counts (h : s.reclassifyDay user day = (.ok n, s'))
    (hread : s.dayEntries user day = .ok entries) : n = (classChanges entries).length := by
  simp only [reclassifyDay, hread] at h
  rw [writeAll_counts h, Nat.zero_add]

section Rows
variable (hrows : s.dayRows user day = entries.map storedRow)
include hrows

theorem notMem_reclassed_iff {r : EntryId × StoredEntry} (hr : r ∈ s.entries.rows) :
    r ∉ (s.entries.mapRows (reclassed (classChanges entries))).rows ↔
      r.1 ∈ (classChanges entries).map (·.1) := by
  rw [← not_iff_not, not_not]
  constructor
  · intro hkept hchanged
    obtain ⟨change, hchange, hid⟩ := List.mem_map.mp hchanged
    obtain ⟨e, -, hid', hne, he⟩ := contains_of_classChange hrows hchange
    obtain ⟨r', hr', heq⟩ := List.mem_map.mp hkept
    obtain ⟨hid'', hrow⟩ := Prod.mk.inj heq
    -- All three rows have one identifier, so they are one row.
    obtain rfl : storedRow e = r := s.entries.eq_of_mem he hr (hid'.trans hid)
    obtain rfl : r' = storedRow e := s.entries.eq_of_mem hr' hr hid''
    rw [← hid, reclassed_of_mem (classChanges_nodup (dayIds_nodup hrows)) hchange] at hrow
    exact hne (EntryClass.code_injective (congrArg Entry.kind hrow)).symm
  · intro hkept
    exact List.mem_map.mpr ⟨r, hr, by rw [reclassed_of_notMem hkept]⟩

theorem countP_reclassed :
    s.entries.rows.countP
        (fun r => r ∉ (s.entries.mapRows (reclassed (classChanges entries))).rows) =
      (classChanges entries).length := by
  have hids : ((s.entries.rows.filter fun r =>
      r ∉ (s.entries.mapRows (reclassed (classChanges entries))).rows).map (·.1)).Perm
      ((classChanges entries).map (·.1)) := by
    apply (List.perm_ext_iff_of_nodup (s.entries.nodup_ids List.filter_sublist)
      (classChanges_nodup (dayIds_nodup hrows))).mpr
    intro id
    constructor
    · intro hid
      obtain ⟨r, hr, rfl⟩ := List.mem_map.mp hid
      obtain ⟨hrow, hchanged⟩ := List.mem_filter.mp hr
      exact (notMem_reclassed_iff hrows hrow).mp (of_decide_eq_true hchanged)
    · intro hid
      obtain ⟨change, hchange, rfl⟩ := List.mem_map.mp hid
      obtain ⟨e, -, hid', -, he⟩ := contains_of_classChange hrows hchange
      have hchanged := (notMem_reclassed_iff hrows he).mpr (hid' ▸ hid)
      exact List.mem_map.mpr ⟨storedRow e, List.mem_filter.mpr ⟨he, decide_eq_true hchanged⟩, hid'⟩
  rw [List.countP_eq_length_filter, ← List.length_map (f := (·.1)), hids.length_eq, List.length_map]

end Rows

theorem reclassifyDay_others (h : s.reclassifyDay user day = (.ok n, s'))
    {r : EntryId × StoredEntry} (hother : (r.2.user, r.2.day) ≠ (user, day)) :
    r ∈ s'.entries.rows ↔ r ∈ s.entries.rows := by
  have hday : ∀ t : Store, r ∈ t.entries.rows ↔ r ∈ t.dayRows r.2.user r.2.day := by
    intro t
    simp [dayRows_inOrder.mem_iff]
  rw [hday s', hday s, reclassifyDay_other h hother]

end Store

/-- Three hours of a day. The first was added last; it and the third have a wrong class, and so has
an entry of another day. -/
def mixedUpDay : Store :=
  { office with
    entries := (((Table.empty.push (secondHour .dayStart).stored).push
        (bookedHour firstHour.finish (secondHour .plain).start .plain "A-3" "wl-3").stored).push
        { firstHour.stored with day := tuesday, kind := 8 }).push
      { firstHour.stored with kind := 1 } }

def mixedUpDayAnew : Except StorageError Nat × Store := mixedUpDay.reclassifyDay ⟨1⟩ monday

end Timesheet
