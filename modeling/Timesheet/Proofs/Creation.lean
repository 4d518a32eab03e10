import Timesheet.Proofs.Erasure
import Timesheet.Proofs.Events

/-!
The order in which rows were added. An identifier is given out again once the last row of its table
is gone, and yet, of two rows that are there, the one with the smaller identifier was added earlier:
an identifier comes again only while no larger one is in use.

Histories are runs of single statements here, in any order.
-/
namespace Timesheet

/-- What holds at the end and not at the start holds ever since some step. -/
theorem exists_since {P : ℕ → Prop} {n : ℕ} (hstart : ¬ P 0) (hend : P n) :
    ∃ i < n, ¬ P i ∧ ∀ j, i < j → j ≤ n → P j := by
  induction n with
  | zero => exact absurd hend hstart
  | succ n ih =>
      by_cases hn : P n
      · obtain ⟨i, hi, habsent, hsince⟩ := ih hn
        refine ⟨i, Nat.lt_succ_of_lt hi, habsent, fun j hij hj => ?_⟩
        rcases Nat.lt_or_eq_of_le hj with hj | rfl
        · exact hsince j hij (Nat.le_of_lt_succ hj)
        · exact hend
      · refine ⟨n, Nat.lt_succ_self n, hn, fun j hnj hj => ?_⟩
        obtain rfl : j = n + 1 := Nat.le_antisymm hj hnj
        exact hend

namespace Table

variable {kind : RowKind} {α : Type} {t : ℕ → Table kind α} {n i j : ℕ} {id id' : Id kind}

/-- Step `i`, one of the first `n`, gave out the identifier, which is in use ever since. -/
structure CameAt (t : ℕ → Table kind α) (n i : ℕ) (id : Id kind) : Prop where
  before : i < n
  next : id = (t i).nextId
  since : ∀ j, i < j → j ≤ n → (t j).contains id = true

theorem CameAt.value_lt (h : CameAt t n i id) (h' : CameAt t n j id') (hij : i < j) :
    id.value < id'.value := by
  obtain ⟨a, ha⟩ := (Table.contains_iff _).mp (h.since j hij (Nat.le_of_lt h'.before))
  rw [h'.next]
  exact (t j).lt_nextId ha

theorem CameAt.lt_of_value_lt (h : CameAt t n i id) (h' : CameAt t n j id')
    (hid : id.value < id'.value) : i < j := by
  rcases Nat.lt_trichotomy i j with hij | rfl | hij
  · exact hij
  · rw [h.next, h'.next] at hid
    exact absurd hid (Int.lt_irrefl _)
  · exact absurd (h'.value_lt h hij) (Int.not_lt.mpr (Int.le_of_lt hid))

theorem CameAt.unique (h : CameAt t n i id) (h' : CameAt t n j id) : i = j := by
  rcases Nat.lt_trichotomy i j with hij | hij | hij
  · exact absurd (h.value_lt h' hij) (Int.lt_irrefl _)
  · exact hij
  · exact absurd (h'.value_lt h hij) (Int.lt_irrefl _)

end Table

namespace Store

/-- What a statement leaves. One that is refused leaves the store as it is. -/
def unlessRefused {ε : Type} (s : Store) : Except ε Store → Store
  | .ok s' => s'
  | .error _ => s

end Store

inductive Statement where
  | insert (e : TimeEntry)
  /-- Writes all columns of an entry, its day among them. -/
  | save (id : EntryId) (e : TimeEntry)
  | saveClass (id : EntryId) (kind : EntryClass)
  | erase (id : EntryId)
  | record (w : StaleWorklog)
  | forget (id : StaleId)
  | catalog (change : CatalogChange)

def Statement.apply (s : Store) : Statement → Store
  | insert e => s.unlessRefused ((s.insertEntry e).map (·.2))
  | save id e => s.unlessRefused (s.saveEntry id e)
  | saveClass id kind => s.unlessRefused (s.saveClass id kind)
  | erase id => s.eraseEntry id
  | record w => s.unlessRefused (s.recordStale w)
  | forget id => s.forgetStale id
  | catalog change => change.apply s

namespace Store

variable {s : Store} {st : Statement} {run : List Statement} {id : EntryId} {i j : ℕ}

def after (s : Store) (run : List Statement) : Store := run.foldl Statement.apply s

theorem after_take_succ (h : run[i]? = some st) :
    s.after (run.take (i + 1)) = st.apply (s.after (run.take i)) := by
  rw [List.take_add_one, h, after, List.foldl_append]
  rfl

theorem exists_statement_since {P : Store → Prop} (hstart : ¬ P s) (hend : P (s.after run)) :
    ∃ i st, run[i]? = some st ∧ ¬ P (s.after (run.take i)) ∧
      P (st.apply (s.after (run.take i))) ∧
      ∀ j, i < j → j ≤ run.length → P (s.after (run.take j)) := by
  have hlast : P (s.after (run.take run.length)) := by rwa [List.take_length]
  obtain ⟨i, hi, habsent, hsince⟩ :=
    exists_since (P := fun k => P (s.after (run.take k))) hstart hlast
  have hrun : run[i]? = some run[i] := List.getElem?_eq_getElem hi
  refine ⟨i, run[i], hrun, habsent, ?_, hsince⟩
  rw [← after_take_succ hrun]
  exact hsince (i + 1) (Nat.lt_succ_self i) hi

theorem after_keeps {P : Store → Prop} (step : ∀ (st : Statement) {s}, P s → P (st.apply s))
    (h : P s) (run : List Statement) : P (s.after run) := by
  induction run generalizing s with
  | nil => exact h
  | cons st rest ih => exact ih (step st h)

/-- Each class that is stored has a meaning. -/
def Meaningful (s : Store) : Prop := ∀ r ∈ s.entries.rows, ∃ c : EntryClass, r.2.kind = c.code

/-- The entries after a statement: all are rewritten in place, or one comes, or one goes. -/
inductive EntriesAfter (s : Store) : Statement → Table .entry StoredEntry → Prop where
  | rewritten (st : Statement) (f : EntryId → StoredEntry → StoredEntry)
      (meaningful : ∀ id e, (∃ c : EntryClass, e.kind = c.code) →
        ∃ c : EntryClass, (f id e).kind = c.code) : EntriesAfter s st (s.entries.mapRows f)
  | inserted (e : TimeEntry) (allowed : s.allowsEntry e = true) :
      EntriesAfter s (.insert e) (s.entries.push e.stored)
  | erased (id : EntryId) : EntriesAfter s (.erase id) (s.entries.erase id)

theorem EntriesAfter.same (st : Statement) : s.EntriesAfter st s.entries := by
  have h := EntriesAfter.rewritten (s := s) st (fun _ e => e) fun _ _ he => he
  rwa [Table.mapRows_eq_self _ _ fun _ _ => rfl] at h

theorem EntriesAfter.unlessRefused {ε : Type} {result : Except ε Store}
    (h : ∀ s', result = .ok s' → s.EntriesAfter st s'.entries) :
    s.EntriesAfter st (s.unlessRefused result).entries := by
  cases result with
  | error err => exact .same st
  | ok s' => exact h s' rfl

theorem EntriesAfter.modified (st : Statement) (id : EntryId) {f : StoredEntry → StoredEntry}
    (kind : EntryClass) (h : ∀ e, (f e).kind = kind.code) :
    s.EntriesAfter st (s.entries.modify id f) := by
  rw [Table.modify_eq_mapRows]
  refine .rewritten _ _ fun i e he => ?_
  split
  · exact ⟨kind, h e⟩
  · exact he

theorem entriesAfter_apply (st : Statement) (s : Store) :
    s.EntriesAfter st (st.apply s).entries := by
  cases st with
  | insert e =>
      refine EntriesAfter.unlessRefused fun s' h => ?_
      unfold insertEntry at h
      split at h <;> cases h
      exact .inserted e ‹_›
  | save id e =>
      refine EntriesAfter.unlessRefused fun s' h => ?_
      rw [saveEntry_ok h]
      dsimp only
      exact .modified _ id e.kind fun _ => rfl
  | saveClass id kind =>
      refine EntriesAfter.unlessRefused fun s' h => ?_
      rw [saveClass_ok h]
      dsimp only
      exact .modified _ id kind fun _ => rfl
  | erase id => exact .erased id
  | record w =>
      refine EntriesAfter.unlessRefused fun s' h => ?_
      rw [(recordStale_onlyStale h).entries_eq]
      exact .same _
  | forget id => exact .same _
  | catalog change =>
      have h : ((Statement.catalog change).apply s).entries = s.entries :=
        (change.apply_sameEntries s).entries
      rw [h]
      exact .same _

theorem contains_apply (h : (st.apply s).entries.contains id = true) :
    s.entries.contains id = true ∨
      ∃ e, st = .insert e ∧ s.insertEntry e = .ok (id, st.apply s) := by
  have hafter := entriesAfter_apply st s
  generalize ht : (st.apply s).entries = t at h hafter
  cases hafter with
  | rewritten st f meaningful =>
      rw [Table.contains_mapRows] at h
      exact .inl h
  | inserted e allowed =>
      obtain ⟨row, hrow⟩ := (Table.contains_iff _).mp h
      rcases (s.entries.mem_push).mp hrow with hold | hnew
      · exact .inl ((Table.contains_iff _).mpr ⟨row, hold⟩)
      · obtain rfl : id = s.entries.nextId := congrArg Prod.fst hnew
        refine .inr ⟨e, rfl, ?_⟩
        simp [Statement.apply, insertEntry, allowed, Except.map, unlessRefused]
  | erased id' =>
      obtain ⟨row, hrow⟩ := (Table.contains_iff _).mp h
      exact .inl ((Table.contains_iff _).mpr ⟨row, ((s.entries.mem_erase).mp hrow).1⟩)

theorem Meaningful.apply (st : Statement) (h : s.Meaningful) : (st.apply s).Meaningful := by
  have hafter := entriesAfter_apply st s
  intro r hr
  generalize ht : (st.apply s).entries = t at hr hafter
  cases hafter with
  | rewritten st f meaningful =>
      obtain ⟨row, hrow, rfl⟩ := List.mem_map.mp hr
      exact meaningful row.1 row.2 (h row hrow)
  | inserted e allowed =>
      rcases (s.entries.mem_push).mp hr with hold | rfl
      · exact h r hold
      · exact ⟨e.kind, rfl⟩
  | erased id => exact h r ((s.entries.mem_erase).mp hr).1

theorem Meaningful.dayEntries (h : s.Meaningful) (user : UserId) (day : Date) :
    ∃ entries, s.dayEntries user day = .ok entries ∧
      (∀ id e, (id, e) ∈ entries ↔
        s.entryAt id = .ok (some e) ∧ e.user = user ∧ e.day = day) ∧
      entries.Pairwise Earlier := by
  have hday : s.InOrder user day (s.dayRows user day) := dayRows_inOrder
  have hmeaningful : ∀ r ∈ s.dayRows user day, ∃ c : EntryClass, r.2.kind = c.code :=
    fun r hr => h r ((hday.mem_iff r).mp hr).1
  obtain ⟨entries, hrows⟩ := exists_storedRows hmeaningful
  rw [hrows] at hday
  have hordered : entries.Pairwise Earlier := by
    have hstored := hday.ordered
    rwa [List.pairwise_map] at hstored
  refine ⟨entries, mapM_readRow_eq_ok_iff.mpr hrows, fun id e => ?_, hordered⟩
  have hmem := hday.mem_iff (storedRow (id, e))
  constructor
  · intro he
    obtain ⟨hrow, huser, hdate⟩ := hmem.mp (List.mem_map_of_mem he)
    exact ⟨entryAt_eq_some_iff.mpr ⟨e.stored, hrow, e.read_stored⟩, huser, hdate⟩
  · rintro ⟨he, huser, hdate⟩
    obtain ⟨row, hrow, hread⟩ := entryAt_eq_some_iff.mp he
    have hstored : (id, row) = storedRow (id, e) :=
      readRow_eq_ok_iff.mp (by simp [readRow, hread, Except.map])
    obtain ⟨r, hr, hre⟩ := List.mem_map.mp (hmem.mpr ⟨hstored ▸ hrow, huser, hdate⟩)
    obtain rfl : r = (id, e) := by
      have hread' : readRow (storedRow r) = .ok (id, e) := hre ▸ readRow_eq_ok_iff.mpr rfl
      rw [readRow_eq_ok_iff.mpr rfl] at hread'
      exact Except.ok.inj hread'
    exact hr

/-- No work-log is to be deleted twice. -/
def Single (s : Store) : Prop := s.stale.rows.Pairwise fun r r' => r.2.target ≠ r'.2.target

/-- The pending deletions after a statement: one comes, of a work-log that was not to be deleted
before, or one goes, or nothing changes. -/
inductive StaleAfter (s : Store) : Statement → Table .stale StaleWorklog → Prop where
  | same (st : Statement) : StaleAfter s st s.stale
  | recorded (w : StaleWorklog) (new : ∀ r ∈ s.stale.rows, r.2.target ≠ w.target) :
      StaleAfter s (.record w) (s.stale.push w)
  | forgotten (id : StaleId) : StaleAfter s (.forget id) (s.stale.erase id)

theorem StaleAfter.unlessRefused {ε : Type} {result : Except ε Store}
    (h : ∀ s', result = .ok s' → s.StaleAfter st s'.stale) :
    s.StaleAfter st (s.unlessRefused result).stale := by
  cases result with
  | error err => exact .same st
  | ok s' => exact h s' rfl

theorem recordStale_of_mem {w : StaleWorklog} (h : ∃ r ∈ s.stale.rows, r.2.target = w.target) :
    s.recordStale w = .ok s := if_pos (any_sameTarget_iff.mpr h)

theorem staleAfter_apply (st : Statement) (s : Store) : s.StaleAfter st (st.apply s).stale := by
  cases st with
  | insert e =>
      refine StaleAfter.unlessRefused fun s' h => ?_
      unfold insertEntry at h
      split at h <;> cases h
      exact .same _
  | save id e =>
      refine StaleAfter.unlessRefused fun s' h => ?_
      rw [saveEntry_ok h]
      exact .same _
  | saveClass id kind =>
      refine StaleAfter.unlessRefused fun s' h => ?_
      rw [saveClass_ok h]
      exact .same _
  | erase id => exact .same _
  | record w =>
      refine StaleAfter.unlessRefused fun s' h => ?_
      by_cases hthere : ∃ r ∈ s.stale.rows, r.2.target = w.target
      · rw [recordStale_of_mem hthere] at h
        cases h
        exact .same _
      · rcases recordStale_ok h with ⟨rfl, -⟩ | ⟨rfl, -⟩
        · exact .same _
        · exact .recorded w fun r hr htarget => hthere ⟨r, hr, htarget⟩
  | forget id => exact .forgotten id
  | catalog change =>
      have h : ((Statement.catalog change).apply s).stale = s.stale :=
        (change.apply_sameEntries s).stale
      rw [h]
      exact .same _

theorem mem_stale_apply {r : StaleId × StaleWorklog} (h : r ∈ (st.apply s).stale.rows) :
    r ∈ s.stale.rows ∨ st = .record r.2 ∧ r.1 = s.stale.nextId := by
  have hafter := staleAfter_apply st s
  generalize ht : (st.apply s).stale = t at h hafter
  cases hafter with
  | same st => exact .inl h
  | recorded w new =>
      rcases (s.stale.mem_push).mp h with hold | rfl
      · exact .inl hold
      · exact .inr ⟨rfl, rfl⟩
  | forgotten id => exact .inl ((s.stale.mem_erase).mp h).1

theorem Single.apply (st : Statement) (h : s.Single) : (st.apply s).Single := by
  have hafter := staleAfter_apply st s
  unfold Single
  generalize ht : (st.apply s).stale = t at hafter
  cases hafter with
  | same st => exact h
  | recorded w new =>
      refine List.pairwise_append.mpr ⟨h, List.pairwise_singleton _ _, fun r hr r' hr' => ?_⟩
      rw [List.mem_singleton.mp hr']
      exact new r hr
  | forgotten id => exact h.sublist List.filter_sublist

/-- Statement `i` of the run inserted the entry `id`, which is there ever since. -/
structure InsertedAt (s : Store) (run : List Statement) (id : EntryId) (i : ℕ) : Prop where
  inserts : ∃ e, run[i]? = some (.insert e) ∧
    (s.after (run.take i)).insertEntry e = .ok (id, s.after (run.take (i + 1)))
  since : ∀ j, i < j → j ≤ run.length → (s.after (run.take j)).entries.contains id = true

/-- Statement `i` of the run recorded the pending deletion, which is there ever since. -/
structure RecordedAt (s : Store) (run : List Statement) (r : StaleId × StaleWorklog) (i : ℕ) :
    Prop where
  records : run[i]? = some (.record r.2)
  absent : r ∉ (s.after (run.take i)).stale.rows
  since : ∀ j, i < j → j ≤ run.length → r ∈ (s.after (run.take j)).stale.rows

theorem InsertedAt.cameAt (h : s.InsertedAt run id i) :
    Table.CameAt (fun k => (s.after (run.take k)).entries) run.length i id where
  before := by
    obtain ⟨e, hrun, -⟩ := h.inserts
    exact (List.getElem?_eq_some_iff.mp hrun).1
  next := by
    obtain ⟨e, -, hinsert⟩ := h.inserts
    unfold insertEntry at hinsert
    split at hinsert
    · exact (congrArg Prod.fst (Except.ok.inj hinsert)).symm
    · cases hinsert
  since := h.since

theorem RecordedAt.cameAt {r : StaleId × StaleWorklog} (h : s.RecordedAt run r i) :
    Table.CameAt (fun k => (s.after (run.take k)).stale) run.length i r.1 := by
  have hlt : i < run.length := (List.getElem?_eq_some_iff.mp h.records).1
  refine ⟨hlt, ?_, fun j hij hj => (Table.contains_iff _).mpr ⟨r.2, h.since j hij hj⟩⟩
  have hthere := h.since (i + 1) (Nat.lt_succ_self i) hlt
  rw [after_take_succ h.records] at hthere
  exact ((mem_stale_apply hthere).resolve_left h.absent).2

theorem exists_insertedAt (hempty : s.entries.rows = [])
    (h : (s.after run).entries.contains id = true) : ∃ i, s.InsertedAt run id i := by
  have hstart : ¬ s.entries.contains id = true := by
    intro hthere
    obtain ⟨row, hrow⟩ := (Table.contains_iff _).mp hthere
    rw [hempty] at hrow
    cases hrow
  obtain ⟨i, st, hrun, habsent, hthere, hsince⟩ :=
    exists_statement_since (P := fun t => t.entries.contains id = true) hstart h
  obtain ⟨e, rfl, hinsert⟩ := (contains_apply hthere).resolve_left habsent
  refine ⟨i, ⟨e, hrun, ?_⟩, hsince⟩
  rw [hinsert, after_take_succ hrun]

theorem exists_recordedAt (hempty : s.stale.rows = []) {r : StaleId × StaleWorklog}
    (h : r ∈ (s.after run).stale.rows) : ∃ i, s.RecordedAt run r i := by
  have hstart : r ∉ s.stale.rows := by
    rw [hempty]
    exact List.not_mem_nil
  obtain ⟨i, st, hrun, habsent, hthere, hsince⟩ :=
    exists_statement_since (P := fun t => r ∈ t.stale.rows) hstart h
  obtain ⟨rfl, -⟩ := (mem_stale_apply hthere).resolve_left habsent
  exact ⟨i, hrun, habsent, hsince⟩

end Store

/-- A history of entries and pending deletions, both of which start empty. Each day of a user can be
read; it has the entries stored for it, by their starts, and those that start together in the order
of their insertions. The pending deletions of a user come in the order in which they were recorded.
No work-log is to be deleted twice, and recording it again changes nothing. -/
theorem creation_order {s : Store} (entries : s.entries.rows = []) (stale : s.stale.rows = [])
    (run : List Statement) :
    (∀ user day, ∃ rows, (s.after run).dayEntries user day = .ok rows ∧
      (∀ id e, (id, e) ∈ rows ↔
        (s.after run).entryAt id = .ok (some e) ∧ e.user = user ∧ e.day = day) ∧
      (∀ r ∈ rows, ∃! i, s.InsertedAt run r.1 i) ∧
      rows.Pairwise fun r r' => r.2.start < r'.2.start ∨
        r.2.start = r'.2.start ∧
          ∃ i j, s.InsertedAt run r.1 i ∧ s.InsertedAt run r'.1 j ∧ i < j) ∧
    (∀ user,
      (∀ r, r ∈ (s.after run).pendingOf user ↔
        r ∈ (s.after run).stale.rows ∧ r.2.user = user) ∧
      (∀ r ∈ (s.after run).pendingOf user, ∃! i, s.RecordedAt run r i) ∧
      ((s.after run).pendingOf user).Pairwise fun r r' =>
        ∃ i j, s.RecordedAt run r i ∧ s.RecordedAt run r' j ∧ i < j) ∧
    (s.after run).Single ∧
    ∀ w, (∃ r ∈ (s.after run).stale.rows, r.2.target = w.target) →
      (s.after run).recordStale w = .ok (s.after run) := by
  have hmeaningful : (s.after run).Meaningful :=
    Store.after_keeps (fun st _ h => h.apply st) (by simp [Store.Meaningful, entries]) run
  have hsingle : (s.after run).Single :=
    Store.after_keeps (fun st _ h => h.apply st) (by simp [Store.Single, stale]) run
  refine ⟨fun user day => ?_, fun user => ⟨fun r => Store.mem_pendingOf, fun r hr => ?_, ?_⟩,
    hsingle, fun w => Store.recordStale_of_mem⟩
  · obtain ⟨rows, hread, hmem, hordered⟩ := hmeaningful.dayEntries user day
    have hinserted : ∀ r ∈ rows, ∃ i, s.InsertedAt run r.1 i := by
      intro r hr
      have hthere := ((hmem r.1 r.2).mp hr).1
      exact Store.exists_insertedAt entries (Store.contains_of_entryAt hthere)
    refine ⟨rows, hread, hmem, fun r hr => ?_, hordered.imp_of_mem fun hr hr' h => ?_⟩
    · obtain ⟨i, hi⟩ := hinserted r hr
      exact ⟨i, hi, fun j hj => hj.cameAt.unique hi.cameAt⟩
    · rcases h with hstart | ⟨hstart, hid⟩
      · exact .inl hstart
      · obtain ⟨i, hi⟩ := hinserted _ hr
        obtain ⟨j, hj⟩ := hinserted _ hr'
        exact .inr ⟨hstart, i, j, hi, hj, hi.cameAt.lt_of_value_lt hj.cameAt hid⟩
  · obtain ⟨i, hi⟩ := Store.exists_recordedAt stale (Store.mem_pendingOf.mp hr).1
    exact ⟨i, hi, fun j hj => hj.cameAt.unique hi.cameAt⟩
  · refine Store.pendingOf_increasing.imp_of_mem fun hr hr' hid => ?_
    obtain ⟨i, hi⟩ := Store.exists_recordedAt stale (Store.mem_pendingOf.mp hr).1
    obtain ⟨j, hj⟩ := Store.exists_recordedAt stale (Store.mem_pendingOf.mp hr').1
    exact ⟨i, j, hi, hj, hi.cameAt.lt_of_value_lt hj.cameAt hid⟩

def meetingHour : TimeEntry := { firstHour with ticket := "A-3" }

def staleHour (worklog : String) : StaleWorklog := ⟨⟨1⟩, ⟨1⟩, "A-9", worklog⟩

/-- The meeting takes the identifier of an entry that is gone, and comes from another day. The first
deletion to be recorded is forgotten and recorded again. -/
def againUsed : List Statement :=
  [.insert firstHour, .insert (secondHour .pause), .erase ⟨2⟩,
    .insert { meetingHour with day := tuesday }, .save ⟨2⟩ meetingHour,
    .record (staleHour "wl-8"), .forget ⟨1⟩, .record (staleHour "wl-9"),
    .record (staleHour "wl-8"), .record (staleHour "wl-9")]

theorem creation_order_againUsed :
    (office.after againUsed).dayEntries ⟨1⟩ monday =
        .ok [(⟨1⟩, firstHour), (⟨2⟩, meetingHour)] ∧
      (∃ i j, office.InsertedAt againUsed ⟨1⟩ i ∧ office.InsertedAt againUsed ⟨2⟩ j ∧ i < j) ∧
      (office.after againUsed).pendingOf ⟨1⟩ =
        [(⟨1⟩, staleHour "wl-9"), (⟨2⟩, staleHour "wl-8")] ∧
      (∃ i j, office.RecordedAt againUsed (⟨1⟩, staleHour "wl-9") i ∧
        office.RecordedAt againUsed (⟨2⟩, staleHour "wl-8") j ∧ i < j) ∧
      (office.after againUsed).recordStale (staleHour "wl-8") = .ok (office.after againUsed) := by
  have hday : (office.after againUsed).dayEntries ⟨1⟩ monday =
      .ok [(⟨1⟩, firstHour), (⟨2⟩, meetingHour)] := by decide +kernel
  have hpending : (office.after againUsed).pendingOf ⟨1⟩ =
      [(⟨1⟩, staleHour "wl-9"), (⟨2⟩, staleHour "wl-8")] := by decide +kernel
  have hentries : office.entries.rows = [] := rfl
  have hstale : office.stale.rows = [] := rfl
  obtain ⟨hdays, hpendings, -, hagain⟩ := creation_order hentries hstale againUsed
  obtain ⟨rows, hread, -, -, hinserted⟩ := hdays ⟨1⟩ monday
  obtain rfl : rows = [(⟨1⟩, firstHour), (⟨2⟩, meetingHour)] :=
    Except.ok.inj (hread.symm.trans hday)
  obtain ⟨hmem, -, hrecorded⟩ := hpendings ⟨1⟩
  rw [hpending] at hrecorded
  have hthere : (⟨2⟩, staleHour "wl-8") ∈ (office.after againUsed).stale.rows :=
    ((hmem _).mp (by rw [hpending]; decide +kernel)).1
  refine ⟨hday, ?_, hpending, ?_, hagain _ ⟨_, hthere, rfl⟩⟩
  · rcases List.rel_of_pairwise_cons hinserted List.mem_cons_self with hearlier | ⟨-, h⟩
    · exact absurd hearlier (by decide +kernel)
    · exact h
  · exact List.rel_of_pairwise_cons hrecorded List.mem_cons_self

end Timesheet
