import Mathlib.Data.List.Nodup
import Timesheet.Proofs.LocalResult
import Timesheet.Proofs.Ownership

/-!
Stored classes. Through every history they are those that `classify` gives for the entries of the
day, whatever the trackers answer.

An action disturbs at most two days of its user. These are due until they are classified anew; the
classes of all other days stay right meanwhile.
-/
namespace Timesheet

theorem EntryClass.code_of_ofCode? {n : Int} {c : EntryClass} (h : EntryClass.ofCode? n = some c) :
    c.code = n := by
  have hfound := List.find?_some h
  simpa using hfound

theorem EntryClass.code_injective : Function.Injective EntryClass.code := by
  intro c c' h
  have hread := EntryClass.ofCode?_code c
  rw [h, EntryClass.ofCode?_code] at hread
  exact (Option.some.inj hread).symm

namespace Store

variable {s s' : Store} {user : UserId} {day : Date} {id : EntryId}

def storedRow (r : EntryId × TimeEntry) : EntryId × StoredEntry := (r.1, r.2.stored)

theorem readRow_eq_ok_iff {row : EntryId × StoredEntry} {r : EntryId × TimeEntry} :
    readRow row = .ok r ↔ row = storedRow r := by
  constructor
  · intro h
    unfold readRow Entry.read at h
    cases hkind : EntryClass.ofCode? row.2.kind with
    | none => simp [hkind, Except.map] at h
    | some c =>
        simp only [hkind, Except.map, Except.ok.injEq] at h
        have hcode := EntryClass.code_of_ofCode? hkind
        rw [← h]
        simp [storedRow, Entry.stored, Entry.withKind, hcode]
  · rintro rfl
    simp [readRow, storedRow, Except.map]

theorem mapM_readRow_eq_ok_iff {rows : List (EntryId × StoredEntry)}
    {entries : List (EntryId × TimeEntry)} :
    rows.mapM readRow = .ok entries ↔ rows = entries.map storedRow := by
  induction rows generalizing entries with
  | nil => cases entries <;> simp [pure, Except.pure]
  | cons row rest ih =>
      rw [List.mapM_cons]
      constructor
      · intro h
        cases hrow : readRow row with
        | error err => simp [hrow, bind, Except.bind] at h
        | ok r =>
            cases hrest : rest.mapM readRow with
            | error err => simp [hrow, hrest, bind, Except.bind] at h
            | ok others =>
                simp only [hrow, hrest, bind, Except.bind, pure, Except.pure,
                  Except.ok.injEq] at h
                rw [← h, List.map_cons, ← readRow_eq_ok_iff.mp hrow, ← ih.mp hrest]
      · intro h
        cases entries with
        | nil => cases h
        | cons r others =>
            obtain ⟨hrow, hrest⟩ := List.cons_eq_cons.mp h
            rw [readRow_eq_ok_iff.mpr hrow, ih.mpr hrest]
            rfl

/-- The entry under `id` with the class that it has after these changes. -/
def reclassed (changes : List (EntryId × EntryClass)) (id : EntryId) (e : StoredEntry) :
    StoredEntry :=
  changes.foldl (fun e change => if change.1 = id then e.withKind change.2.code else e) e

section Reclassed
variable {changes : List (EntryId × EntryClass)}

@[simp] theorem reclassed_cons (change : EntryId × EntryClass) (e : StoredEntry) :
    reclassed (change :: changes) id e =
      reclassed changes id (if change.1 = id then e.withKind change.2.code else e) := rfl

theorem reclassed_eq_withKind (changes : List (EntryId × EntryClass)) (id : EntryId)
    (e : StoredEntry) : reclassed changes id e = e.withKind (reclassed changes id e).kind := by
  induction changes generalizing e with
  | nil => rfl
  | cons change rest ih =>
      rw [reclassed_cons]
      split
      · exact ih (e.withKind change.2.code)
      · exact ih e

theorem reclassed_of_notMem {e : StoredEntry} (h : id ∉ changes.map (·.1)) :
    reclassed changes id e = e := by
  induction changes with
  | nil => rfl
  | cons change rest ih =>
      rw [List.map_cons, List.mem_cons, not_or] at h
      rw [reclassed_cons, if_neg (Ne.symm h.1)]
      exact ih h.2

theorem reclassed_of_mem {e : StoredEntry} {kind : EntryClass}
    (hids : (changes.map (·.1)).Nodup) (h : (id, kind) ∈ changes) :
    reclassed changes id e = e.withKind kind.code := by
  induction changes with
  | nil => cases h
  | cons change rest ih =>
      obtain ⟨hfresh, hrest⟩ := List.nodup_cons.mp hids
      rw [reclassed_cons]
      rcases List.mem_cons.mp h with rfl | h
      · rw [if_pos rfl]
        exact reclassed_of_notMem hfresh
      · have hne : change.1 ≠ id := by
          rintro rfl
          exact hfresh (List.mem_map.mpr ⟨_, h, rfl⟩)
        rw [if_neg hne]
        exact ih hrest h

theorem reclassed_hasClass {e : StoredEntry} (h : ∃ c : EntryClass, e.kind = c.code) :
    ∃ c : EntryClass, (reclassed changes id e).kind = c.code := by
  induction changes generalizing e with
  | nil => exact h
  | cons change rest ih =>
      rw [reclassed_cons]
      split
      · exact ih ⟨change.2, rfl⟩
      · exact ih h

theorem mapRows_reclassed_modify (id : EntryId) (kind : EntryClass)
    (t : Table .entry StoredEntry) :
    (t.modify id fun e => e.withKind kind.code).mapRows (reclassed changes) =
      t.mapRows (reclassed ((id, kind) :: changes)) := by
  rw [Table.modify_eq_mapRows, Table.mapRows_mapRows (h := reclassed ((id, kind) :: changes))]
  intro i e
  rw [reclassed_cons]
  simp only [eq_comm]

theorem writeAll_ok {n m : Nat}
    (h : reclassifyDay.writeAll changes n s = (.ok m, s')) :
    s' = { s with entries := s.entries.mapRows (reclassed changes) } := by
  induction changes generalizing s n with
  | nil =>
      cases h
      rw [Table.mapRows_eq_self _ (reclassed []) fun _ _ => rfl]
  | cons change rest ih =>
      obtain ⟨id, kind⟩ := change
      unfold reclassifyDay.writeAll at h
      cases hsave : s.saveClass id kind with
      | error err => simp [hsave] at h
      | ok s₁ =>
          simp only [hsave] at h
          rw [ih h, saveClass_ok hsave, mapRows_reclassed_modify]

theorem writeAll_succeeds (hf : s.frozen = false) (n : Nat) :
    ∃ m, (reclassifyDay.writeAll changes n s).1 = .ok m := by
  induction changes generalizing s n with
  | nil => exact ⟨n, rfl⟩
  | cons change rest ih =>
      obtain ⟨id, kind⟩ := change
      unfold reclassifyDay.writeAll
      cases hsave : s.saveClass id kind with
      | error err =>
          simp only [saveClass, saveCode, hf] at hsave
          split at hsave <;> cases hsave
      | ok s₁ =>
          have hcatalog := saveClass_sameCatalog hsave
          exact ih (hcatalog.frozen_eq.trans hf) (n + 1)

end Reclassed

/-- The classes stored with the rows of a day are those of the day. -/
def RightClasses (rows : List (EntryId × StoredEntry)) : Prop :=
  rows.map (·.2.kind) = (classify (rows.map fun r => span r.2)).map EntryClass.code

theorem rightClasses_iff {entries : List (EntryId × TimeEntry)} :
    RightClasses (entries.map storedRow) ↔
      entries.map (·.2.kind) = classify (entries.map fun r => span r.2) := by
  have hcodes : (entries.map storedRow).map (·.2.kind) =
      (entries.map (·.2.kind)).map EntryClass.code := by
    rw [List.map_map, List.map_map]
    rfl
  have hspans : (entries.map storedRow).map (fun r => span r.2) =
      entries.map fun r => span r.2 := by
    rw [List.map_map]
    rfl
  rw [RightClasses, hcodes, hspans]
  exact (List.map_injective_iff.mpr EntryClass.code_injective).eq_iff

theorem mem_classChanges {entries : List (EntryId × TimeEntry)} {change : EntryId × EntryClass} :
    change ∈ classChanges entries ↔
      ∃ r, (r, change.2) ∈ entries.zip (classify (entries.map fun r => span r.2)) ∧
        r.1 = change.1 ∧ r.2.kind ≠ change.2 := by
  obtain ⟨id, kind⟩ := change
  unfold classChanges
  simp only [List.mem_map, List.mem_filter, decide_eq_true_eq]
  constructor
  · rintro ⟨⟨r, kind'⟩, ⟨hr, hne⟩, heq⟩
    cases heq
    exact ⟨r, hr, rfl, hne⟩
  · rintro ⟨r, hr, rfl, hne⟩
    exact ⟨(r, kind), ⟨hr, hne⟩, rfl⟩

theorem classChanges_eq_nil {entries : List (EntryId × TimeEntry)}
    (h : RightClasses (entries.map storedRow)) : classChanges entries = [] := by
  have hkinds := rightClasses_iff.mp h
  have hzip : entries.zip (entries.map (·.2.kind)) = entries.map fun r => (r, r.2.kind) := by
    simpa using List.zip_map' (f := id) (g := fun r : EntryId × TimeEntry => r.2.kind)
      (l := entries)
  refine List.eq_nil_iff_forall_not_mem.mpr fun change hchange => ?_
  obtain ⟨r, hr, -, hne⟩ := mem_classChanges.mp hchange
  rw [← hkinds, hzip] at hr
  obtain ⟨r', -, heq⟩ := List.mem_map.mp hr
  obtain ⟨rfl, hkind⟩ := Prod.mk.inj heq
  exact hne hkind

theorem map_fst_zip_classify (entries : List (EntryId × TimeEntry)) :
    (entries.zip (classify (entries.map fun r => span r.2))).map (·.1) = entries :=
  List.map_fst_zip (by simp)

section Changes
variable {entries : List (EntryId × TimeEntry)} (hids : (entries.map (·.1)).Nodup)
include hids

theorem classChanges_nodup : ((classChanges entries).map (·.1)).Nodup := by
  have hsub : ((classChanges entries).map (·.1)).Sublist (entries.map (·.1)) := by
    conv_rhs => rw [← map_fst_zip_classify entries]
    unfold classChanges
    rw [List.map_map, List.map_map]
    exact List.filter_sublist.map _
  exact hids.sublist hsub

theorem reclassed_kind {r : EntryId × TimeEntry} {kind : EntryClass}
    (h : (r, kind) ∈ entries.zip (classify (entries.map fun r => span r.2))) :
    (reclassed (classChanges entries) r.1 r.2.stored).kind = kind.code := by
  by_cases hsame : r.2.kind = kind
  · have hkept : r.1 ∉ (classChanges entries).map (·.1) := by
      intro hchanged
      obtain ⟨change, hchange, hid⟩ := List.mem_map.mp hchanged
      obtain ⟨r', hr', hid', hne⟩ := mem_classChanges.mp hchange
      -- A change under the same identifier would be one of this very entry.
      rw [← map_fst_zip_classify entries, List.map_map] at hids
      have heq := List.inj_on_of_nodup_map hids hr' h (hid'.trans hid)
      cases heq
      exact hne hsame
    rw [reclassed_of_notMem hkept]
    exact congrArg EntryClass.code hsame
  · have hchanged : (r.1, kind) ∈ classChanges entries :=
      mem_classChanges.mpr ⟨r, h, rfl, hsame⟩
    rw [reclassed_of_mem (classChanges_nodup hids) hchanged]
    rfl

theorem map_reclassed_kind :
    entries.map (fun r => (reclassed (classChanges entries) r.1 r.2.stored).kind) =
      (classify (entries.map fun r => span r.2)).map EntryClass.code := by
  refine List.ext_getElem (by simp) fun i hi hi' => ?_
  have hzip : i < (entries.zip (classify (entries.map fun r => span r.2))).length := by
    simpa using hi
  have hpair := List.getElem_mem hzip
  rw [List.getElem_zip] at hpair
  rw [List.getElem_map, List.getElem_map]
  exact reclassed_kind hids hpair

end Changes

theorem reclassifyDay_ok {n : Nat} (h : s.reclassifyDay user day = (.ok n, s')) :
    ∃ entries, s.dayRows user day = entries.map storedRow ∧
      s' = { s with entries := s.entries.mapRows (reclassed (classChanges entries)) } := by
  unfold reclassifyDay dayEntries at h
  cases hread : (s.dayRows user day).mapM readRow with
  | error err => simp [hread] at h
  | ok entries =>
      simp only [hread] at h
      exact ⟨entries, mapM_readRow_eq_ok_iff.mp hread, writeAll_ok h⟩

theorem dayRows_reclassed {changes : List (EntryId × EntryClass)} :
    { s with entries := s.entries.mapRows (reclassed changes) }.dayRows user day =
      (s.dayRows user day).map fun r => (r.1, reclassed changes r.1 r.2) := by
  refine dayRows_mapRows fun id e => ?_
  rw [reclassed_eq_withKind]
  exact ⟨rfl, rfl, rfl⟩

theorem dayIds_nodup {entries : List (EntryId × TimeEntry)}
    (h : s.dayRows user day = entries.map storedRow) : (entries.map (·.1)).Nodup := by
  have hnodup : ((s.dayRows user day).map (·.1)).Nodup := dayRows_nodup
  rw [h, List.map_map] at hnodup
  exact hnodup

theorem reclassifyDay_right {n : Nat} (h : s.reclassifyDay user day = (.ok n, s')) :
    RightClasses (s'.dayRows user day) := by
  obtain ⟨entries, hrows, rfl⟩ := reclassifyDay_ok h
  have hspan : ∀ r : EntryId × TimeEntry,
      span (reclassed (classChanges entries) r.1 r.2.stored) = span r.2 := by
    intro r
    rw [reclassed_eq_withKind]
    rfl
  unfold RightClasses
  rw [dayRows_reclassed, hrows]
  simp only [List.map_map, Function.comp_def, storedRow, hspan]
  exact map_reclassed_kind (dayIds_nodup hrows)

/-- No other day changes, and no other user's. -/
theorem reclassifyDay_other {n : Nat} (h : s.reclassifyDay user day = (.ok n, s')) {user' : UserId}
    {day' : Date} (hother : (user', day') ≠ (user, day)) :
    s'.dayRows user' day' = s.dayRows user' day' := by
  obtain ⟨entries, hrows, rfl⟩ := reclassifyDay_ok h
  rw [dayRows_reclassed]
  refine (List.map_congr_left fun r hr => ?_).trans (List.map_id _)
  have hkept : r.1 ∉ (classChanges entries).map (·.1) := by
    intro hchanged
    obtain ⟨change, hchange, hid⟩ := List.mem_map.mp hchanged
    obtain ⟨e, he, hid', -⟩ := mem_classChanges.mp hchange
    have hday : storedRow e ∈ s.dayRows user day :=
      hrows ▸ List.mem_map_of_mem (List.of_mem_zip he).1
    obtain ⟨hrow, huser, hdate⟩ := (dayRows_inOrder.mem_iff _).mp hday
    obtain ⟨hrow', rfl, rfl⟩ := (dayRows_inOrder.mem_iff r).mp hr
    -- An identifier names one row, and this has one user and one day.
    have hsame := s.entries.eq_of_mem hrow hrow' (hid'.trans hid)
    rw [hsame] at huser hdate
    exact hother (by rw [huser, hdate])
  rw [reclassed_of_notMem hkept]
  rfl

/-- Classes can be written, each one that is stored has a meaning, and those of the days that are
not `due` are right. -/
structure Classed (due : List (UserId × Date)) (s : Store) : Prop where
  thawed : s.frozen = false
  readable : ∀ r ∈ s.entries.rows, ∃ c : EntryClass, r.2.kind = c.code
  right : ∀ user day, (user, day) ∉ due → RightClasses (s.dayRows user day)

variable {due due' : List (UserId × Date)}

theorem Classed.mono (h : s.Classed due) (hsub : due ⊆ due') : s.Classed due' :=
  ⟨h.thawed, h.readable, fun user day hdue => h.right user day fun hmem => hdue (hsub hmem)⟩

theorem exists_storedRows {rows : List (EntryId × StoredEntry)}
    (h : ∀ r ∈ rows, ∃ c : EntryClass, r.2.kind = c.code) :
    ∃ entries : List (EntryId × TimeEntry), rows = entries.map storedRow := by
  induction rows with
  | nil => exact ⟨[], rfl⟩
  | cons row rest ih =>
      obtain ⟨⟨c, hc⟩, hrest⟩ := List.forall_mem_cons.mp h
      obtain ⟨entries, rfl⟩ := ih hrest
      refine ⟨(row.1, row.2.withKind c) :: entries, ?_⟩
      rw [List.map_cons]
      simp [storedRow, Entry.stored, Entry.withKind, ← hc]

theorem reclassifyDay_of_right (h : RightClasses (s.dayRows user day)) :
    s.reclassifyDay user day = (.ok 0, s) := by
  have hreadable : ∀ r ∈ s.dayRows user day, ∃ c : EntryClass, r.2.kind = c.code := by
    intro r hr
    have hkind : r.2.kind ∈ (s.dayRows user day).map (·.2.kind) := List.mem_map_of_mem hr
    rw [h] at hkind
    obtain ⟨c, -, hc⟩ := List.mem_map.mp hkind
    exact ⟨c, hc.symm⟩
  obtain ⟨entries, hrows⟩ := exists_storedRows hreadable
  have hread : s.dayEntries user day = .ok entries := mapM_readRow_eq_ok_iff.mpr hrows
  simp only [reclassifyDay, hread, classChanges_eq_nil (hrows ▸ h), reclassifyDay.writeAll]

theorem Classed.dayEntries (h : s.Classed due) (user : UserId) (day : Date) :
    ∃ entries, s.dayEntries user day = .ok entries := by
  have hreadable : ∀ r ∈ s.dayRows user day, ∃ c : EntryClass, r.2.kind = c.code :=
    fun r hr => h.readable r ((dayRows_inOrder.mem_iff r).mp hr).1
  obtain ⟨entries, hrows⟩ := exists_storedRows hreadable
  exact ⟨entries, mapM_readRow_eq_ok_iff.mpr hrows⟩

/-- Classifying a day anew settles what is due of it. -/
theorem Classed.reclassifyDay (h : s.Classed ((user, day) :: due)) :
    (s.reclassifyDay user day).2.Classed due := by
  have hsucceeds : ∃ n, (s.reclassifyDay user day).1 = .ok n := by
    obtain ⟨entries, hread⟩ := h.dayEntries user day
    unfold Store.reclassifyDay
    simp only [hread]
    exact writeAll_succeeds h.thawed 0
  obtain ⟨n, hn⟩ := hsucceeds
  have hrun : s.reclassifyDay user day = (.ok n, (s.reclassifyDay user day).2) := Prod.ext hn rfl
  generalize (s.reclassifyDay user day).2 = s' at hrun
  obtain ⟨entries, -, hs'⟩ := reclassifyDay_ok hrun
  refine ⟨?_, ?_, ?_⟩
  · rw [hs']
    exact h.thawed
  · rw [hs']
    intro r hr
    obtain ⟨r', hr', rfl⟩ := List.mem_map.mp hr
    exact reclassed_hasClass (h.readable r' hr')
  · intro user' day' hdue
    by_cases hsame : (user', day') = (user, day)
    · cases hsame
      exact reclassifyDay_right hrun
    · rw [reclassifyDay_other hrun hsame]
      exact h.right user' day' (by simp [hsame, hdue])

/-- The days of which the classes have to be settled after a save of `e`, which was `previous`. -/
def disturbed (user : UserId) (e : TimeEntry) (previous : Option TimeEntry) :
    List (UserId × Date) :=
  (user, e.day) :: (previous.map fun p => (user, p.day)).toList

theorem Classed.reclassifyDays {e : TimeEntry} {previous : Option TimeEntry}
    (h : s.Classed (disturbed user e previous)) :
    (s.reclassifyDays user e previous).Classed [] := by
  unfold Store.reclassifyDays
  rcases previous with _ | p
  · exact h.reclassifyDay
  · dsimp only
    split
    · next hday =>
        -- The entry stays on its day, so only one day is due.
        have hone : disturbed user e (some p) ⊆ [(user, e.day)] := by simp [disturbed, hday]
        exact (h.mono hone).reclassifyDay
    · exact h.reclassifyDay.reclassifyDay

/-- Where only rows of days that are due now have changed, the other days keep their classes. -/
theorem Classed.of_rows (h : s.Classed []) (hf : s'.frozen = s.frozen)
    (hreadable : ∀ r ∈ s'.entries.rows, r ∈ s.entries.rows ∨ ∃ c : EntryClass, r.2.kind = c.code)
    (hrows : ∀ r, (r.2.user, r.2.day) ∉ due → (r ∈ s'.entries.rows ↔ r ∈ s.entries.rows)) :
    s'.Classed due := by
  refine ⟨hf.trans h.thawed, fun r hr => ?_, fun user day hdue => ?_⟩
  · rcases hreadable r hr with hr | hclass
    · exact h.readable r hr
    · exact hclass
  · have hday : s'.dayRows user day = s.dayRows user day := by
      refine dayRows_eq ?_
      rintro r rfl rfl
      exact hrows r hdue
    rw [hday]
    exact h.right user day List.not_mem_nil

theorem Classed.erase {e : TimeEntry} (h : s.Classed []) (hrow : s.entryAt id = .ok (some e)) :
    (s.eraseEntry id).Classed [(e.user, e.day)] := by
  obtain ⟨row, kind, hmem, rfl⟩ := row_of_entryAt hrow
  refine h.of_rows rfl (fun r hr => .inl ((s.entries.mem_erase).mp hr).1) fun r hdue => ?_
  unfold eraseEntry
  rw [Table.mem_erase, and_iff_left_iff_imp]
  rintro hr rfl
  have hsame : r = (r.1, row) := s.entries.eq_of_mem hr hmem rfl
  rw [hsame] at hdue
  exact hdue (List.mem_singleton.mpr rfl)

theorem SameLocal.classed {saved : List EntryId} (h : s.SameLocal saved s') (hs : s.Classed due) :
    s'.Classed due := by
  refine ⟨h.sameCatalog.frozen_eq.trans hs.thawed, fun r hr => ?_, fun user day hdue => ?_⟩
  · have hblank : (r.1, blankRow saved r.1 r.2) ∈
        (s.entries.mapRows (blankRow saved)).rows := by
      rw [h.entries]
      exact List.mem_map_of_mem hr
    obtain ⟨r', hr', heq⟩ := List.mem_map.mp hblank
    obtain ⟨c, hc⟩ := hs.readable r' hr'
    refine ⟨c, ?_⟩
    have hentry := congrArg (fun row => row.2.kind) heq
    simpa only [blankRow_kind, hc] using hentry.symm
  · have hday : blankRows saved (s.dayRows user day) = blankRows saved (s'.dayRows user day) := by
      rw [← dayRows_localPart, ← dayRows_localPart, h]
    have hkinds := congrArg (List.map fun r => r.2.kind) hday
    have hspans := congrArg (List.map fun r => span r.2) hday
    simp only [blankRows, List.map_map, Function.comp_def, blankRow_kind, span_blankRow]
      at hkinds hspans
    have hright := hs.right user day hdue
    unfold RightClasses at hright ⊢
    rw [← hkinds, ← hspans]
    exact hright

end Store

namespace Sync

variable {σ : Type} {tracker : Tracker σ} {user : UserId} {id : EntryId} {w : World σ}

theorem Accepted.classed {s s' : Store} {input : EntryInput} {target : Option EntryId}
    {r : EntryId × TimeEntry × Option TimeEntry} (h : Accepted s user input target r s')
    (hs : s.Classed []) : s'.Classed (Store.disturbed user r.2.1 r.2.2) := by
  have huser := h.user_eq
  cases h with
  | new =>
      refine hs.of_rows rfl (fun r hr => ?_) fun r hdue => ?_
      · rcases (s.entries.mem_push).mp hr with hr | rfl
        · exact .inl hr
        · exact .inr ⟨.dayStart, rfl⟩
      · rw [Table.mem_push, or_iff_left_iff_imp]
        rintro rfl
        exact absurd List.mem_cons_self hdue
  | edited row own =>
      have hcontains := Store.contains_of_entryAt row
      obtain ⟨old, kind, hold, rfl⟩ := Store.row_of_entryAt row
      refine hs.of_rows rfl (fun r hr => ?_) fun r hdue => ?_
      · rcases (s.entries.mem_put hcontains).mp hr with rfl | ⟨hr, -⟩
        · exact .inr ⟨kind, rfl⟩
        · exact .inl hr
      · rw [s.entries.mem_put hcontains]
        constructor
        · rintro (rfl | ⟨hr, -⟩)
          · refine absurd ?_ hdue
            rw [← huser]
            exact List.mem_cons_self
          · exact hr
        · refine fun hr => .inr ⟨hr, ?_⟩
          rintro rfl
          have hsame : r = (r.1, old) := s.entries.eq_of_mem hr hold rfl
          refine hdue ?_
          rw [hsame, ← own]
          exact List.mem_cons_of_mem _ List.mem_cons_self

theorem save_classed {target : Option EntryId} {input : EntryInput} (h : w.store.Classed []) :
    (save tracker user target input).Leads (fun _ w' => w'.store.Classed [])
      (fun _ w' => w'.store.Classed []) w := by
  unfold save
  rw [leads_bind]
  refine accept_stores.mono ?_ (fun _ w' hw => hw ▸ h)
  rintro r _ ⟨s, haccepted, rfl⟩
  refine (followUp_local haccepted).mono ?_ (fun _ _ h => h.elim)
  rintro saved w' ⟨-, hsame⟩
  exact hsame.classed (haccepted.classed h).reclassifyDays

theorem delete_classed (h : w.store.Classed []) :
    (delete tracker user id).Leads (fun _ w' => w'.store.Classed [])
      (fun _ w' => w'.store.Classed []) w := by
  refine delete_local.mono ?_ ?_
  · rintro _ w' ⟨e, he, hsame⟩
    obtain ⟨hrow, rfl⟩ := Store.ownEntry_ok he
    exact hsame.classed (h.erase hrow).reclassifyDay
  · rintro err w' ⟨-, rfl⟩
    exact h

theorem work_classed (c : Call σ) (h : w.store.Classed []) :
    c.work.Leads (fun _ w' => w'.store.Classed []) (fun _ w' => w'.store.Classed []) w :=
  work_keeps h (fun _ _ h => save_classed h) (fun _ _ _ => save_classed h)
    (fun _ _ => delete_classed h)

theorem classed_bearsCatalog : BearsCatalog fun w : World σ => w.store.Classed [] where
  note _ h _ _ := h
  catalog h hs := by
    refine h.of_rows hs.frozen (fun r hr => .inl (hs.entries ▸ hr)) fun r _ => ?_
    rw [World.put_store, hs.entries]

end Sync

/-- The class of the entry tells how its start compares with `before`, the end of another one. -/
def Entry.Follows (e : TimeEntry) (before : Clock) : Prop :=
  (e.kind = .plain ∧ e.start = before) ∨ (e.kind = .pause ∧ before < e.start) ∨
    (e.kind = .overlap ∧ e.start < before)

theorem Clock.eq_of_not_lt {t t' : Clock} (h : ¬ t < t') (h' : ¬ t' < t) : t = t' := by
  have hseconds : t.seconds = t'.seconds := Nat.le_antisymm (Nat.not_lt.mp h') (Nat.not_lt.mp h)
  cases t
  cases t'
  simpa using hseconds

theorem Entry.follows_of_classAfter {e : TimeEntry} {before : Clock}
    (h : e.kind = classAfter before e.start) : e.Follows before := by
  unfold classAfter at h
  split at h
  · next hlater => exact .inr (.inl ⟨h, hlater⟩)
  · next hlater =>
      split at h
      · next hearlier => exact .inr (.inr ⟨h, hearlier⟩)
      · next hearlier => exact .inl ⟨h, Clock.eq_of_not_lt hearlier hlater⟩

theorem follows_of_classesAfter {p : EntryId × TimeEntry} {rest : List (EntryId × TimeEntry)}
    (h : rest.map (·.2.kind) = classesAfter p.2.finish (rest.map fun r => Store.span r.2)) :
    (p :: rest).IsChain fun p r => r.2.Follows p.2.finish := by
  induction rest generalizing p with
  | nil => exact .singleton p
  | cons r rest ih =>
      obtain ⟨hfirst, hrest⟩ := List.cons_eq_cons.mp h
      exact .cons_cons (Entry.follows_of_classAfter hfirst) (ih hrest)

/-- Of the entries of a day the first one starts the day, and each later one is told by the end of
the one directly before it. -/
theorem follows_of_classify {day : List (EntryId × TimeEntry)}
    (h : day.map (·.2.kind) = classify (day.map fun r => Store.span r.2)) :
    (∀ r ∈ day.head?, r.2.kind = .dayStart) ∧
      day.IsChain fun p r => r.2.Follows p.2.finish := by
  cases day with
  | nil => exact ⟨by simp, .nil⟩
  | cons first rest =>
      obtain ⟨hfirst, hrest⟩ := List.cons_eq_cons.mp h
      refine ⟨?_, follows_of_classesAfter hrest⟩
      rintro _ ⟨⟩
      exact hfirst

/-- In every state of a history that begins without entries, the entries of a user's day can be
read, and their classes are those that `classify` gives for them in their order: the first one
starts the day, and each later one is plain, a pause or an overlap as its start is equal to, after
or before the end of the one directly before it. -/
theorem classes_right {σ : Type} {w : World σ} (thawed : w.store.frozen = false)
    (empty : w.store.entries.rows = []) (events : List (Event σ)) (user : UserId) (day : Date) :
    ∃ entries, (w.after events).store.dayEntries user day = .ok entries ∧
      (w.after events).store.InOrder user day (entries.map Store.storedRow) ∧
      entries.map (·.2.kind) = classify (entries.map fun r => Store.span r.2) ∧
      (∀ r ∈ entries.head?, r.2.kind = .dayStart) ∧
      entries.IsChain fun p r => r.2.Follows p.2.finish := by
  have hstart : w.store.Classed [] := by
    refine ⟨thawed, by simp [empty], fun user day _ => ?_⟩
    have hday : w.store.dayRows user day = [] := by
      simp [Store.dayRows, Table.filter, empty]
    rw [hday]
    rfl
  have hclassed : (w.after events).store.Classed [] :=
    Sync.after_keeps Sync.classed_bearsCatalog (fun c _ => Sync.work_classed c) events hstart
  generalize (w.after events).store = s at hclassed
  obtain ⟨entries, hread⟩ := hclassed.dayEntries user day
  have hrows := Store.mapM_readRow_eq_ok_iff.mp hread
  have hkinds : entries.map (·.2.kind) = classify (entries.map fun r => Store.span r.2) := by
    refine Store.rightClasses_iff.mp ?_
    rw [← hrows]
    exact hclassed.right user day List.not_mem_nil
  exact ⟨entries, hread, hrows ▸ Store.dayRows_inOrder, hkinds, follows_of_classify hkinds⟩

def monday : Date := ⟨2027, .march, 22, by decide, by decide, by decide, by decide⟩

def tuesday : Date := ⟨2027, .march, 23, by decide, by decide, by decide, by decide⟩

def saveHour (id : Option EntryId) (ticket : String) (day : Date) (hour : Fin 23) :
    Event InMemory :=
  .call
    { tracker := InMemory.tracker
      user := ⟨1⟩
      action := .save id
        { project := ⟨1⟩, customer := none, activity := none, ticket, description := "", day
          start := ⟨hour * 3600, by omega⟩, finish := ⟨(hour + 1) * 3600, by omega⟩ } }

/-- Four hours of a day. Then the first is moved to the next day and to another ticket, where its
old work-log cannot be deleted. -/
def moveOfHour : List (Event InMemory) :=
  [saveHour none "A-1" monday 8, saveHour none "A-2" monday 9, saveHour none "A-4" monday 11,
    saveHour none "A-5" monday 11, saveHour (some ⟨1⟩) "A-3" tuesday 8]

/-- On the first day the later hours are plain, a pause and an overlap. After the move the second
hour starts the day, and the others are what they were. -/
theorem classes_right_moveOfHour :
    ((stubbornOffice.after (moveOfHour.take 4)).store.dayEntries ⟨1⟩ monday).map
        (List.map (·.2.kind)) = .ok [.dayStart, .plain, .pause, .overlap] ∧
      ((stubbornOffice.after moveOfHour).store.dayEntries ⟨1⟩ monday).map
        (List.map (·.2.kind)) = .ok [.dayStart, .pause, .overlap] ∧
      ∃ entries, (stubbornOffice.after moveOfHour).store.dayEntries ⟨1⟩ monday = .ok entries ∧
        (stubbornOffice.after moveOfHour).store.InOrder ⟨1⟩ monday
          (entries.map Store.storedRow) ∧
        entries.map (·.2.kind) = classify (entries.map fun r => Store.span r.2) ∧
        (∀ r ∈ entries.head?, r.2.kind = .dayStart) ∧
        entries.IsChain fun p r => r.2.Follows p.2.finish :=
  ⟨by decide +kernel, by decide +kernel, classes_right rfl rfl moveOfHour ⟨1⟩ monday⟩

end Timesheet
