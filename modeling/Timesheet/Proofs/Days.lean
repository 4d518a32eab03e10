import Timesheet.Proofs.Table
import Timesheet.Store.Entries

/-!
The entries of a user's day, in order. Which they are and how they follow each other is settled by
the rows that are stored for that day alone.
-/
namespace Timesheet

/-- The first entry starts before the other, or together with it after being added before it. -/
def Earlier {κ : Type} (r r' : EntryId × Entry κ) : Prop :=
  r.2.start < r'.2.start ∨ r.2.start = r'.2.start ∧ r.1.value < r'.1.value

namespace Earlier

variable {κ : Type} {r r' r'' : EntryId × Entry κ}

theorem start_le (h : Earlier r r') : r.2.start ≤ r'.2.start := by
  rcases h with h | ⟨h, -⟩
  · exact Nat.le_of_lt h
  · exact h ▸ Nat.le_refl _

theorem of_start_le (hstart : r.2.start ≤ r'.2.start) (hid : r.1.value < r'.1.value) :
    Earlier r r' := by
  rcases Nat.lt_or_eq_of_le hstart with h | h
  · exact .inl h
  · refine .inr ⟨?_, hid⟩
    cases hr : r.2.start
    cases hr' : r'.2.start
    simpa only [hr, hr', Clock.mk.injEq] using h

theorem of_not_start_le (h : ¬ r.2.start ≤ r'.2.start) : Earlier r' r := .inl (Nat.not_le.mp h)

theorem trans (h : Earlier r r') (h' : Earlier r' r'') : Earlier r r'' := by
  rcases h with h | ⟨hstart, hid⟩
  · exact .inl (Nat.lt_of_lt_of_le h h'.start_le)
  · rcases h' with h' | ⟨hstart', hid'⟩
    · exact .inl (hstart ▸ h')
    · exact .inr ⟨hstart.trans hstart', Int.lt_trans hid hid'⟩

theorem irrefl (h : Earlier r r) : False := by
  rcases h with h | ⟨-, h⟩
  · exact Nat.lt_irrefl _ h
  · exact Int.lt_irrefl _ h

end Earlier

namespace Store

variable {s t : Store} {user : UserId} {day : Date}

/-- These are the rows of the user's entries of the day, in order. -/
structure InOrder (s : Store) (user : UserId) (day : Date) (rows : List (EntryId × StoredEntry)) :
    Prop where
  mem_iff : ∀ r, r ∈ rows ↔ r ∈ s.entries.rows ∧ r.2.user = user ∧ r.2.day = day
  ordered : rows.Pairwise Earlier

theorem InOrder.nodup {rows : List (EntryId × StoredEntry)} (h : s.InOrder user day rows) :
    rows.Nodup :=
  h.ordered.imp fun hrr' heq => by
    subst heq
    exact hrr'.irrefl

/-- A day has only one order, which is told by the rows stored for it. -/
theorem InOrder.unique {rows rows' : List (EntryId × StoredEntry)} (h : s.InOrder user day rows)
    (h' : t.InOrder user day rows')
    (hrows : ∀ r, r.2.user = user → r.2.day = day → (r ∈ s.entries.rows ↔ r ∈ t.entries.rows)) :
    rows = rows' := by
  have hperm : rows.Perm rows' := by
    refine (List.perm_ext_iff_of_nodup h.nodup h'.nodup).mpr fun r => ?_
    rw [h.mem_iff, h'.mem_iff]
    exact and_congr_left fun ⟨huser, hday⟩ => hrows r huser hday
  exact hperm.eq_of_pairwise (fun _ _ _ _ hab hba => (hab.trans hba).irrefl.elim) h.ordered
    h'.ordered

theorem insertByStart_perm (r : EntryId × StoredEntry) (rows : List (EntryId × StoredEntry)) :
    (insertByStart r rows).Perm (r :: rows) := by
  induction rows with
  | nil => exact .refl _
  | cons other rest ih =>
      unfold insertByStart
      split
      · exact .refl _
      · exact (ih.cons other).trans (.swap r other rest)

theorem insertByStart_ordered {r : EntryId × StoredEntry} {rows : List (EntryId × StoredEntry)}
    (h : rows.Pairwise Earlier) (hfirst : ∀ r' ∈ rows, r.1.value < r'.1.value) :
    (insertByStart r rows).Pairwise Earlier := by
  induction rows with
  | nil => exact List.pairwise_singleton _ _
  | cons other rest ih =>
      obtain ⟨hother, hrest⟩ := List.pairwise_cons.mp h
      unfold insertByStart
      split
      · next hstart =>
          have hr : Earlier r other := .of_start_le hstart (hfirst other List.mem_cons_self)
          refine List.pairwise_cons.mpr ⟨fun r' hr' => ?_, h⟩
          rcases List.mem_cons.mp hr' with rfl | hr'
          · exact hr
          · exact hr.trans (hother r' hr')
      · next hstart =>
          refine List.pairwise_cons.mpr ⟨fun r' hr' => ?_, ih hrest fun r' hr' => ?_⟩
          · rcases List.mem_cons.mp ((insertByStart_perm r rest).mem_iff.mp hr') with rfl | hr'
            · exact .of_not_start_le hstart
            · exact hother r' hr'
          · exact hfirst r' (List.mem_cons_of_mem _ hr')

theorem foldr_insertByStart_perm (rows : List (EntryId × StoredEntry)) :
    (rows.foldr insertByStart []).Perm rows := by
  induction rows with
  | nil => exact .refl _
  | cons r rest ih => exact (insertByStart_perm r _).trans (ih.cons r)

theorem foldr_insertByStart_ordered {rows : List (EntryId × StoredEntry)}
    (h : rows.Pairwise fun r r' => r.1.value < r'.1.value) :
    (rows.foldr insertByStart []).Pairwise Earlier := by
  induction rows with
  | nil => exact .nil
  | cons r rest ih =>
      obtain ⟨hfirst, hrest⟩ := List.pairwise_cons.mp h
      refine insertByStart_ordered (ih hrest) fun r' hr' => ?_
      exact hfirst r' ((foldr_insertByStart_perm rest).mem_iff.mp hr')

theorem dayRows_inOrder : s.InOrder user day (s.dayRows user day) where
  mem_iff r := by
    unfold dayRows
    rw [(foldr_insertByStart_perm _).mem_iff, Table.mem_filter, Bool.and_eq_true, beq_iff_eq,
      beq_iff_eq]
  ordered := foldr_insertByStart_ordered (s.entries.increasing.sublist List.filter_sublist)

theorem dayRows_eq (h : ∀ r, r.2.user = user → r.2.day = day →
    (r ∈ s.entries.rows ↔ r ∈ t.entries.rows)) : s.dayRows user day = t.dayRows user day :=
  dayRows_inOrder.unique dayRows_inOrder h

theorem dayRows_nodup : ((s.dayRows user day).map (·.1)).Nodup := by
  refine List.pairwise_map.mpr (dayRows_inOrder.nodup.imp_of_mem ?_)
  intro r r' hr hr' hne hid
  have hrow := ((dayRows_inOrder.mem_iff r).mp hr).1
  have hrow' := ((dayRows_inOrder.mem_iff r').mp hr').1
  exact hne (s.entries.eq_of_mem hrow hrow' hid)

theorem dayRows_mapRows {f : EntryId → StoredEntry → StoredEntry}
    (hf : ∀ id e, (f id e).user = e.user ∧ (f id e).day = e.day ∧ (f id e).start = e.start) :
    { s with entries := s.entries.mapRows f }.dayRows user day =
      (s.dayRows user day).map fun r => (r.1, f r.1 r.2) := by
  refine dayRows_inOrder.unique ⟨fun r => ?_, ?_⟩ fun _ _ _ => Iff.rfl
  · simp only [List.mem_map, dayRows_inOrder.mem_iff, Table.mapRows]
    constructor
    · rintro ⟨r, ⟨hr, huser, hday⟩, rfl⟩
      exact ⟨⟨r, hr, rfl⟩, (hf r.1 r.2).1.trans huser, (hf r.1 r.2).2.1.trans hday⟩
    · rintro ⟨⟨r, hr, rfl⟩, huser, hday⟩
      exact ⟨r, ⟨hr, (hf r.1 r.2).1.symm.trans huser, (hf r.1 r.2).2.1.symm.trans hday⟩, rfl⟩
  · refine List.pairwise_map.mpr (dayRows_inOrder.ordered.imp fun {r r'} h => ?_)
    unfold Earlier
    rw [(hf r.1 r.2).2.2, (hf r'.1 r'.2).2.2]
    exact h

end Store

end Timesheet
