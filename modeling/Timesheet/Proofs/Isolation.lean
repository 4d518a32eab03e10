import Timesheet.Proofs.Classes
import Timesheet.Proofs.Credentials

/-!
What a call leaves alone: the catalog, whatever belongs to other users, and of the entries of its
user all but the one that it is about, classes aside.

What the single statements leave alone composes along a call. The remote side reaches only the entry
that is being saved, so every tracker may be left out of sight where entries are concerned.
-/
namespace Timesheet

namespace Action

/-- The entry that the action changes or deletes. -/
def subject? : Action → Option EntryId
  | .save target _ => target
  | .delete id => some id
  | .bulk .. => none

/-- The days that the action classifies anew, as far as it comes to that: those on which an entry
is to be, and the day of the entry that it changes or deletes. -/
def days (s : Store) : Action → List Date
  | .save target input => input.day :: ((target.bind s.entries.find?).map (·.day)).toList
  | .delete id => ((s.entries.find? id).map (·.day)).toList
  | .bulk _ range => range.days

end Action

/-- Between the two tables of entries, the rows of other users did not change, and of the user's
rows those other than `subject` changed at most their class, and this only on the `days`. -/
structure Spared (user : UserId) (subject : Option EntryId) (days : List Date)
    (t t' : Table .entry StoredEntry) : Prop where
  others : ∀ r, r.2.user ≠ user → (r ∈ t'.rows ↔ r ∈ t.rows)
  kept : ∀ r ∈ t.rows, subject ≠ some r.1 →
    ∃ kind, (r.1, r.2.withKind kind) ∈ t'.rows ∧ (kind = r.2.kind ∨ r.2.day ∈ days)

/-- From `s` to `s'` nothing changed that is none of the user's business, and of the user's entries
other than `subject` at most the classes on the `days`. -/
structure Store.Confined (user : UserId) (subject : Option EntryId) (days : List Date)
    (s s' : Store) : Prop where
  catalog : s.SameCatalog s'
  entries : Spared user subject days s.entries s'.entries
  pending : ∀ r, r.2.user ≠ user → (r ∈ s'.stale.rows ↔ r ∈ s.stale.rows)

namespace Spared

variable {user : UserId} {subject : Option EntryId} {id : EntryId} {days days' : List Date}
  {t t' t'' : Table .entry StoredEntry} {e old : StoredEntry}

theorem of_subset (h : ∀ r, r.2.user ≠ user → (r ∈ t'.rows ↔ r ∈ t.rows))
    (hkept : ∀ r ∈ t.rows, subject ≠ some r.1 → r ∈ t'.rows) : Spared user subject days t t' :=
  ⟨h, fun r hr hne => ⟨r.2.kind, hkept r hr hne, .inl rfl⟩⟩

theorem refl (t : Table .entry StoredEntry) : Spared user subject days t t :=
  .of_subset (fun _ _ => Iff.rfl) fun _ hr _ => hr

theorem mono (h : Spared user subject days t t') (hdays : days ⊆ days') :
    Spared user subject days' t t' := by
  refine ⟨h.others, fun r hr hne => ?_⟩
  obtain ⟨kind, hkind, hsame⟩ := h.kept r hr hne
  exact ⟨kind, hkind, hsame.imp_right fun hday => hdays hday⟩

theorem trans (h : Spared user subject days t t') (h' : Spared user subject days t' t'') :
    Spared user subject days t t'' := by
  refine ⟨fun r hr => (h'.others r hr).trans (h.others r hr), fun r hr hne => ?_⟩
  obtain ⟨kind, hkind, hsame⟩ := h.kept r hr hne
  obtain ⟨kind', hkind', hsame'⟩ := h'.kept _ hkind hne
  refine ⟨kind', hkind', ?_⟩
  rcases hsame' with rfl | hday
  · exact hsame
  · exact .inr hday

theorem of_fresh (h : Spared user (some id) days t t') (hid : ∀ r ∈ t.rows, r.1 ≠ id) :
    Spared user subject days t t' :=
  ⟨h.others, fun r hr _ => h.kept r hr fun heq => hid r hr (Option.some.inj heq).symm⟩

theorem push (he : e.user = user) : Spared user subject days t (t.push e) := by
  refine .of_subset (fun r hr => ?_) fun r hr _ => (t.mem_push).mpr (.inl hr)
  rw [Table.mem_push, or_iff_left_iff_imp]
  rintro rfl
  exact absurd he hr

theorem put (hold : (id, old) ∈ t.rows) (howner : old.user = user) (he : e.user = user) :
    Spared user (some id) days t (t.modify id fun _ => e) := by
  have hcontains : t.contains id = true := (t.contains_iff).mpr ⟨old, hold⟩
  refine .of_subset (fun r hr => ?_) fun r hr hne => ?_
  · rw [t.mem_put hcontains]
    constructor
    · rintro (rfl | ⟨hmem, -⟩)
      · exact absurd he hr
      · exact hmem
    · refine fun hmem => .inr ⟨hmem, ?_⟩
      rintro rfl
      exact hr (t.row_unique hold hmem ▸ howner)
  · exact (t.mem_put hcontains).mpr (.inr ⟨hr, fun heq => hne (by rw [heq])⟩)

theorem erase (hold : (id, old) ∈ t.rows) (howner : old.user = user) :
    Spared user (some id) days t (t.erase id) := by
  refine .of_subset (fun r hr => ?_) fun r hr hne => ?_
  · rw [Table.mem_erase, and_iff_left_iff_imp]
    rintro hmem rfl
    exact hr (t.row_unique hold hmem ▸ howner)
  · exact (t.mem_erase).mpr ⟨hr, fun heq => hne (by rw [heq])⟩

theorem reclassed {changes : List (EntryId × EntryClass)}
    (h : ∀ change ∈ changes, ∃ e, (change.1, e) ∈ t.rows ∧ e.user = user ∧ e.day ∈ days) :
    Spared user subject days t (t.mapRows (Store.reclassed changes)) := by
  have hrow : ∀ r ∈ t.rows, r.1 ∈ changes.map (·.1) → r.2.user = user ∧ r.2.day ∈ days := by
    intro r hr hchanged
    obtain ⟨change, hchange, hid⟩ := List.mem_map.mp hchanged
    obtain ⟨e, he, huser, hday⟩ := h change hchange
    obtain rfl : (change.1, e) = r := t.eq_of_mem he hr hid
    exact ⟨huser, hday⟩
  have hother : ∀ r ∈ t.rows, r.2.user ≠ user → Store.reclassed changes r.1 r.2 = r.2 :=
    fun r hr huser => Store.reclassed_of_notMem fun hchanged => huser (hrow r hr hchanged).1
  refine ⟨fun r huser => ?_, fun r hr _ => ?_⟩
  · constructor
    · intro hr
      obtain ⟨r', hr', rfl⟩ := List.mem_map.mp hr
      rw [Store.reclassed_eq_withKind] at huser
      rw [hother r' hr' huser]
      exact hr'
    · intro hr
      exact List.mem_map.mpr ⟨r, hr, by rw [hother r hr huser]⟩
  · refine ⟨(Store.reclassed changes r.1 r.2).kind, ?_, ?_⟩
    · rw [← Store.reclassed_eq_withKind]
      exact List.mem_map.mpr ⟨r, hr, rfl⟩
    · by_cases hchanged : r.1 ∈ changes.map (·.1)
      · exact .inr (hrow r hr hchanged).2
      · rw [Store.reclassed_of_notMem hchanged]
        exact .inl rfl

end Spared

namespace Store

variable {s s' : Store} {user : UserId} {subject : Option EntryId} {id : EntryId}
  {days : List Date}

theorem writeAll_writes (changes : List (EntryId × EntryClass)) (n : Nat) (s : Store) :
    ∃ written, written <+: changes ∧ (reclassifyDay.writeAll changes n s).2 =
      { s with entries := s.entries.mapRows (reclassed written) } := by
  have hnone : ∀ s : Store, s = { s with entries := s.entries.mapRows (reclassed []) } := by
    intro s
    rw [Table.mapRows_eq_self _ (reclassed []) fun _ _ => rfl]
  induction changes generalizing s n with
  | nil => exact ⟨[], List.nil_prefix, hnone s⟩
  | cons change rest ih =>
      obtain ⟨id, kind⟩ := change
      unfold reclassifyDay.writeAll
      cases hsave : s.saveClass id kind with
      | error err => exact ⟨[], List.nil_prefix, hnone s⟩
      | ok s₁ =>
          obtain ⟨written, hfront, hwritten⟩ := ih (n + 1) s₁
          refine ⟨(id, kind) :: written, (List.prefix_cons_inj _).mpr hfront, ?_⟩
          dsimp only
          rw [hwritten, saveClass_ok hsave, mapRows_reclassed_modify]

/-- However far classifying a day anew gets, it writes no other column and no other day. -/
theorem spared_reclassifyDay {day : Date} (hday : day ∈ days) :
    Spared user subject days s.entries (s.reclassifyDay user day).2.entries := by
  unfold reclassifyDay
  cases hread : s.dayEntries user day with
  | error err => exact .refl _
  | ok entries =>
      obtain ⟨written, hfront, hwritten⟩ := writeAll_writes (classChanges entries) 0 s
      dsimp only
      rw [hwritten]
      refine .reclassed fun change hchange => ?_
      obtain ⟨r, hr, hid, -⟩ := mem_classChanges.mp (hfront.subset hchange)
      have hrow : storedRow r ∈ s.dayRows user day := by
        rw [mapM_readRow_eq_ok_iff.mp hread]
        exact List.mem_map_of_mem (List.of_mem_zip hr).1
      obtain ⟨hmem, huser, hdate⟩ := (dayRows_inOrder.mem_iff _).mp hrow
      exact ⟨_, hid ▸ hmem, huser, hdate ▸ hday⟩

theorem spared_reclassifyDays {e : TimeEntry} {previous : Option TimeEntry} (hday : e.day ∈ days)
    (hprevious : ∀ p ∈ previous, p.day ∈ days) :
    Spared user subject days s.entries (s.reclassifyDays user e previous).entries := by
  have hfirst : Spared user subject days s.entries (s.reclassifyDay user e.day).2.entries :=
    spared_reclassifyDay hday
  unfold reclassifyDays
  rcases previous with _ | p
  · exact hfirst
  · dsimp only
    split
    · exact hfirst
    · exact hfirst.trans (spared_reclassifyDay (hprevious p rfl))

section SameLocal
variable {saved : List EntryId} (h : s.SameLocal saved s')
include h

theorem SameLocal.exists_row {r : EntryId × StoredEntry} (hr : r ∈ s.entries.rows) :
    ∃ e, (r.1, e) ∈ s'.entries.rows ∧ e.user = r.2.user ∧ (r.1 ∉ saved → e = r.2) := by
  have hblank : (r.1, blankRow saved r.1 r.2) ∈ (s'.entries.mapRows (blankRow saved)).rows := by
    rw [← h.entries]
    exact List.mem_map_of_mem hr
  obtain ⟨r', hr', heq⟩ := List.mem_map.mp hblank
  obtain ⟨hid, hrow⟩ := Prod.mk.inj heq
  rw [hid] at hrow
  refine ⟨r'.2, hid ▸ hr', ?_, fun hnot => ?_⟩
  · have huser := congrArg Entry.user hrow
    unfold blankRow at huser
    split at huser <;> exact huser
  · simpa only [blankRow, if_neg hnot] using hrow

theorem SameLocal.spared (hsaved : saved = [id]) {e : StoredEntry}
    (hrow : (id, e) ∈ s.entries.rows) (he : e.user = user) :
    Spared user (some id) days s.entries s'.entries := by
  subst hsaved
  have hto : ∀ {s s' : Store}, s.SameLocal [id] s' → ∀ r ∈ s.entries.rows, r.1 ≠ id →
      r ∈ s'.entries.rows := by
    intro s s' h r hr hne
    obtain ⟨e', he', -, hsame⟩ := h.exists_row hr
    rwa [hsame (by simpa using hne)] at he'
  have hother : ∀ r ∈ s.entries.rows, r.2.user ≠ user → r.1 ≠ id := by
    rintro r hr huser rfl
    exact huser (s.entries.row_unique hrow hr ▸ he)
  refine .of_subset (fun r huser => ⟨fun hr => ?_, fun hr => ?_⟩) fun r hr hne => ?_
  · refine hto h.symm r hr fun hid => ?_
    obtain ⟨e', he', howner, -⟩ := h.symm.exists_row hr
    exact hother _ he' (howner ▸ huser) hid
  · exact hto h r hr (hother r hr huser)
  · exact hto h r hr fun hid => hne (by rw [hid])

end SameLocal

theorem SameLocal.entries_eq (h : s.SameLocal [] s') : s.entries = s'.entries := by
  have hnone : ∀ t : Table .entry StoredEntry, t.mapRows (blankRow []) = t := fun t =>
    t.mapRows_eq_self _ fun _ _ => if_neg List.not_mem_nil
  have hentries := h.entries
  rwa [hnone, hnone] at hentries

end Store

namespace Sync

variable {σ : Type} {tracker : Tracker σ} {user : UserId} {id : EntryId} {p : TimeEntry}
  {w : World σ} {s : Store}

/-- The pending deletions of others are those of `s`. -/
def OthersPending (user : UserId) (s : Store) (w : World σ) : Prop :=
  ∀ r, r.2.user ≠ user → (r ∈ w.store.stale.rows ↔ r ∈ s.stale.rows)

theorem OthersPending.forget (h : OthersPending user s w) {stale : StaleId} {d : StaleWorklog}
    (hd : (stale, d) ∈ w.store.pendingOf user) :
    OthersPending user s (w.put (w.store.forgetStale stale)) := by
  intro r hr
  rw [World.put_store, Store.mem_forgetStale, ← h r hr, and_iff_left_iff_imp]
  rintro hmem rfl
  obtain ⟨hstale, huser⟩ := Store.mem_pendingOf.mp hd
  exact hr (w.store.stale.row_unique hstale hmem ▸ huser)

theorem othersPending_bearsCall : BearsCall user (OthersPending (σ := σ) user s) where
  retry :=
    { connect := fun _ h => h
      refused := fun _ h _ _ _ => h
      confirmed := fun {w _ _ _ _} _ h hd _ _ => OthersPending.forget (w := w) h hd
      unreachable := fun h hd _ => h.forget hd }
  note _ h _ _ := h
  entries _ h := h
  record {w d s'} h hd hs := by
    intro r hr
    rw [World.put_store, ← h r hr]
    refine ⟨fun hmem => ?_, Store.recordStale_subset hs r⟩
    exact (Store.mem_recordStale hs r hmem).resolve_right fun heq => hr (heq ▸ hd)

theorem Accepted.spared {input : EntryInput} {target : Option EntryId} {s s' : Store}
    {r : EntryId × TimeEntry × Option TimeEntry} (h : Accepted s user input target r s') :
    Spared user (some r.1) (Action.days s (.save target input)) s.entries s'.entries := by
  have huser := h.user_eq
  cases h with
  | new => exact .push huser
  | edited row own =>
      obtain ⟨old, kind, hold, rfl⟩ := Store.row_of_entryAt row
      exact .put hold own huser

theorem Accepted.day_mem {input : EntryInput} {target : Option EntryId} {s s' : Store}
    {r : EntryId × TimeEntry × Option TimeEntry} (h : Accepted s user input target r s') :
    r.2.1.day ∈ Action.days s (.save target input) ∧
      ∀ p ∈ r.2.2, p.day ∈ Action.days s (.save target input) := by
  cases h with
  | new => exact ⟨List.mem_cons_self, by simp⟩
  | edited row =>
      obtain ⟨old, kind, hold, rfl⟩ := Store.row_of_entryAt row
      refine ⟨List.mem_cons_self, ?_⟩
      rintro _ ⟨⟩
      simp [Action.days, (s.entries.find?_eq_some_iff).mpr hold, Entry.withKind]

theorem Accepted.subject {input : EntryInput} {target : Option EntryId} {s s' : Store}
    {r : EntryId × TimeEntry × Option TimeEntry} (h : Accepted s user input target r s') :
    target = some r.1 ∨ ∀ row ∈ s.entries.rows, row.1 ≠ r.1 := by
  cases h with
  | new =>
      refine .inr ?_
      rintro ⟨_, e⟩ hrow rfl
      exact s.entries.nextId_notMem hrow
  | edited => exact .inl rfl

theorem save_spares {target : Option EntryId} {input : EntryInput} :
    (save tracker user target input).Leads
      (fun _ w' => Spared user target (Action.days w.store (.save target input)) w.store.entries
        w'.store.entries)
      (fun _ w' => w' = w) w := by
  unfold save
  rw [leads_bind]
  refine accept_stores.mono ?_ (fun _ _ h => h)
  rintro r _ ⟨s, haccepted, rfl⟩
  refine (followUp_local haccepted).mono ?_ (fun _ _ h => h.elim)
  rintro saved w' ⟨-, hsame⟩
  obtain ⟨hday, hprevious⟩ := haccepted.day_mem
  have hclassed : ∀ subject, Spared user subject (Action.days w.store (.save target input))
      s.entries (s.reclassifyDays user r.2.1 r.2.2).entries :=
    fun _ => Store.spared_reclassifyDays hday hprevious
  obtain ⟨kind, hrow, -⟩ := (hclassed none).kept _ haccepted.row nofun
  have hall : Spared user (some r.1) (Action.days w.store (.save target input)) w.store.entries
      w'.store.entries :=
    (haccepted.spared.trans (hclassed _)).trans (hsame.spared rfl hrow haccepted.user_eq)
  rcases haccepted.subject with rfl | hfresh
  · exact hall
  · exact hall.of_fresh hfresh

theorem delete_spares :
    (delete tracker user id).Leads
      (fun _ w' => Spared user (some id) (Action.days w.store (.delete id)) w.store.entries
        w'.store.entries)
      (fun _ w' => w' = w) w := by
  refine delete_local.mono ?_ (fun _ _ h => h.2)
  rintro _ w' ⟨e, he, hsame⟩
  obtain ⟨hentry, huser⟩ := Store.ownEntry_ok he
  obtain ⟨row, kind, hrow, rfl⟩ := Store.row_of_entryAt hentry
  have hday : row.day ∈ Action.days w.store (.delete id) := by
    simp [Action.days, (w.store.entries.find?_eq_some_iff).mpr hrow]
  have herased : Spared user (some id) (Action.days w.store (.delete id)) w.store.entries
      (w.store.eraseEntry id).entries := .erase hrow huser
  rw [← hsame.entries_eq]
  exact herased.trans (Store.spared_reclassifyDay hday)

theorem saveDays_spares {template : EntryInput} (days : List Date) :
    (days.mapM fun day => save tracker user none { template with day }).Leads
      (fun _ w' => Spared user none days w.store.entries w'.store.entries)
      (fun _ w' => Spared user none days w.store.entries w'.store.entries) w := by
  refine mapM_keeps (.refl _) days fun day hday w₁ hspared => ?_
  refine save_spares.mono (fun _ w₂ h => ?_) (fun _ _ hw => hw ▸ hspared)
  refine hspared.trans (h.mono ?_)
  simpa [Action.days] using hday

theorem bulk_spares {template : EntryInput} {range : BulkRange} :
    (bulkCreate tracker user template range).Leads
      (fun _ w' => Spared user none range.days w.store.entries w'.store.entries)
      (fun _ w' => Spared user none range.days w.store.entries w'.store.entries) w := by
  unfold bulkCreate
  split
  · exact .refl _
  · exact saveDays_spares range.days

theorem work_spares (c : Call σ) :
    c.work.Leads
      (fun _ w' => Spared c.user c.action.subject? (c.action.days w.store) w.store.entries
        w'.store.entries)
      (fun _ w' => Spared c.user c.action.subject? (c.action.days w.store) w.store.entries
        w'.store.entries) w := by
  unfold Call.work
  cases c.action with
  | save target input =>
      exact leads_discard.mpr (save_spares.mono (fun _ _ h => h) fun _ _ hw => hw ▸ .refl _)
  | delete id =>
      exact leads_discard.mpr (delete_spares.mono (fun _ _ h => h) fun _ _ hw => hw ▸ .refl _)
  | bulk template range => exact leads_discard.mpr bulk_spares

end Sync

end Timesheet
