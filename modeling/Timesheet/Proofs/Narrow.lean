import Timesheet.Proofs.Classes
import Timesheet.Proofs.Mirror
import Timesheet.Sync.Narrow

/-!
Calls whose identifiers are of limited size. Where the identifiers fit, these calls do what calls do
elsewhere, so that whatever is shown of those holds of these. And a call that fails changes nothing
as long as the identifiers fit that it gives out: once an entry is stored, it is found again.
-/
namespace Timesheet

theorem Id.narrow_of_fits {kind : RowKind} {id : Id kind} (h : id.Fits) : id.narrow = id := by
  obtain ⟨hlow, hhigh⟩ := h
  have hvalue : id.value.bmod 0x100000000 = id.value := Int.bmod_eq_of_le (by omega) (by omega)
  rw [narrow, hvalue]

def Store.IdsFit (s : Store) : Prop := ∀ id ∈ s.entries.ids, id.Fits

variable {σ : Type} {tracker : Tracker σ} {user : UserId} {id : EntryId} {e : TimeEntry}
  {previous : Option TimeEntry} {s s' : Store} {w : World σ}

theorem Store.reclassifyDayNarrow_eq (h : s.IdsFit) (day : Date) :
    s.reclassifyDayNarrow user day = s.reclassifyDay user day := by
  unfold reclassifyDayNarrow reclassifyDay
  cases hread : s.dayEntries user day with
  | error err => rfl
  | ok entries =>
      have hrows : s.dayRows user day = entries.map storedRow := mapM_readRow_eq_ok_iff.mp hread
      have hfits : ∀ r ∈ entries, r.1.Fits := by
        intro r hr
        have hrow : storedRow r ∈ s.dayRows user day := hrows ▸ List.mem_map_of_mem hr
        exact h _ (List.mem_map_of_mem ((dayRows_inOrder.mem_iff _).mp hrow).1)
      have hkept : (entries.map fun r => (r.1.narrow, r.2)) = entries := by
        refine (List.map_congr_left fun r hr => ?_).trans (List.map_id _)
        rw [Id.narrow_of_fits (hfits r hr)]
        rfl
      dsimp only
      rw [hkept]

namespace Sync

theorem OneMore.nextId_eq (h : OneMore s s') :
    s'.entries.nextId = ⟨s.entries.nextId.value + 1⟩ := by
  rw [Table.nextId_eq_ids, h.ids]
  simp

theorem OneMore.idsFit (h : OneMore s s') (hs : s.IdsFit) (hnext : s.entries.nextId.Fits) :
    s'.IdsFit := by
  intro id hid
  rw [h.ids] at hid
  rcases List.mem_append.mp hid with hid | hid
  · exact hs id hid
  · exact List.mem_singleton.mp hid ▸ hnext

theorem roomFor_next {n : Nat} (h : s.RoomFor (n + 1)) : s.entries.nextId.Fits := by
  simpa using h 0 (Nat.succ_pos n)

theorem roomFor_after {n : Nat} (h : s.RoomFor (n + 1)) (hmore : OneMore s s') : s'.RoomFor n := by
  intro k hk
  have hlater := h (k + 1) (Nat.succ_lt_succ hk)
  rw [hmore.nextId_eq]
  have hvalue : s.entries.nextId.value + 1 + (k : Int) =
      s.entries.nextId.value + ((k + 1 : Nat) : Int) := by
    omega
  rwa [hvalue]

theorem Standing.idsFit (h : Standing s id s') (hs : s.IdsFit) : s'.IdsFit := by
  intro id hid
  exact hs id (h.ids ▸ hid)

namespace Narrow

theorem leads_alertingReclassify {day : Date} {earlier : Option Alert}
    {Q : Option Alert → World σ → Prop} {E : SyncError → World σ → Prop} :
    (alertingReclassify user day earlier).Leads Q E w ↔
      Q (earlier <|> classAlert (w.store.reclassifyDayNarrow user day).1)
        (w.put (w.store.reclassifyDayNarrow user day).2) := by
  unfold alertingReclassify
  simp only [leads_bind, leads_alerting, leads_store, leads_change]
  cases (w.store.reclassifyDayNarrow user day).1 <;> exact Iff.rfl

/-- Whichever entries are taken for those of the day, nothing but classes is written. -/
theorem alertingReclassify_keeps {K : World σ → Prop} (classes : BearsClasses K) (hK : K w)
    {day : Date} {earlier : Option Alert} :
    (alertingReclassify user day earlier).Leads (fun _ => K) (fun _ _ => False) w := by
  rw [leads_alertingReclassify]
  unfold Store.reclassifyDayNarrow
  cases w.store.dayEntries user day with
  | error err => exact hK
  | ok entries => exact writeAll_keeps classes hK _ _

theorem alertingReclassifyDays_keeps {K : World σ → Prop} (classes : BearsClasses K) (hK : K w)
    {earlier : Option Alert} :
    (alertingReclassifyDays user e previous earlier).Leads (fun _ => K) (fun _ _ => False) w := by
  unfold alertingReclassifyDays
  rw [leads_bind]
  refine (alertingReclassify_keeps classes hK).mono ?_ (fun _ _ h => h)
  intro alert w₁ hK₁
  rcases previous with _ | p
  · exact hK₁
  · dsimp only
    split
    · exact hK₁
    · exact alertingReclassify_keeps classes hK₁

theorem followUp_succeeds (h : Standing s id w.store) (hp : ∀ p ∈ previous, p.user = e.user) :
    (followUp tracker user id e previous).Leads (fun _ w' => Standing s id w'.store)
      (fun _ _ => False) w := by
  have hrest : ∀ {w₁ : World σ} (alert : Option Alert), Standing s id w₁.store →
      (alertingReclassifyDays user e previous alert >>= reload id).Leads
        (fun _ w' => Standing s id w'.store) (fun _ _ => False) w₁ := by
    intro w₁ alert h₁
    rw [leads_bind]
    refine (alertingReclassifyDays_keeps standing_bearsClasses h₁).mono ?_ (fun _ _ h => h)
    intro alert' w₂ h₂
    obtain ⟨e', he'⟩ := h₂.readable
    rw [leads_reload, he']
    exact h₂
  unfold followUp
  rw [leads_bind, leads_alerting, Working.leads_on]
  exact (reconcile_standing h hp).mono (fun _ _ _ h => hrest _ h) (fun _ _ _ h => hrest _ h)

/-- The entry is brought up to date under the identifier under which it is stored. -/
theorem followedId_eq {input : EntryInput} {target : Option EntryId}
    {r : EntryId × TimeEntry × Option TimeEntry} (h : Accepted s user input target r s')
    (hfits : target = none → s.entries.nextId.Fits) : target.getD r.1.narrow = r.1 := by
  cases h with
  | new => exact Id.narrow_of_fits (hfits rfl)
  | edited => rfl

theorem followUp_of_accepted {input : EntryInput} {target : Option EntryId}
    {r : EntryId × TimeEntry × Option TimeEntry} (h : Accepted w.store user input target r s)
    (hfits : target = none → w.store.entries.nextId.Fits) :
    (followUp tracker user (target.getD r.1.narrow) r.2.1 r.2.2).Leads
      (fun _ w' => Standing s r.1 w'.store) (fun _ _ => False) (w.put s) := by
  rw [followedId_eq h hfits]
  exact followUp_succeeds h.standing h.previous_user

theorem save_refuses {target : Option EntryId} {input : EntryInput}
    (hfits : target = none → w.store.entries.nextId.Fits) :
    (save tracker user target input).Leads (fun _ _ => True) (fun _ w' => w' = w) w := by
  unfold save
  rw [leads_bind]
  refine accept_stores.mono ?_ (fun _ _ h => h)
  rintro r _ ⟨s, haccepted, rfl⟩
  exact (followUp_of_accepted haccepted hfits).mono (fun _ _ _ => trivial) (fun _ _ h => h.elim)

theorem delete_refuses :
    (delete tracker user id).Leads (fun _ _ => True) (fun _ w' => w' = w) w := by
  have hrest : ∀ {e : TimeEntry} {w₁ : World σ} (alert : Option Alert),
      (do change (Store.eraseEntry id); alertingReclassify user e.day alert :
        Sync σ (Option Alert)).Leads (fun _ _ => True) (fun _ w' => w' = w) w₁ := by
    intro e w₁ alert
    rw [leads_bind, leads_change]
    exact (alertingReclassify_keeps (K := fun _ => True) (fun _ _ _ _ => trivial) trivial).mono
      (fun _ _ h => h) (fun _ _ h => h.elim)
  unfold delete
  rw [leads_bind, leads_ownEntry]
  rcases w.store.entryAt id with err | _ | e
  · rfl
  · rfl
  · dsimp only
    split
    · rw [leads_bind, leads_alerting]
      exact Leads.anyway fun _ => ⟨fun _ => hrest _, fun _ => hrest _⟩
    · rfl

theorem save_new_decides {input : EntryInput} (hfits : w.store.entries.nextId.Fits) :
    (save tracker user none input).Leads
      (fun _ w' => Storable w.store user input ∧ OneMore w.store w'.store)
      (fun _ w' => ¬ Storable w.store user input ∧ w' = w) w := by
  unfold save
  rw [leads_bind]
  refine accept_new_decides.mono ?_ (fun _ _ h => h)
  rintro r _ ⟨hyes, s, haccepted, rfl⟩
  exact (followUp_of_accepted haccepted fun _ => hfits).mono
    (fun _ _ h => ⟨hyes, haccepted.oneMore h⟩) (fun _ _ h => h.elim)

theorem saveDays_stores {template : EntryInput} (days : List Date)
    (hroom : w.store.RoomFor days.length) (h : Storable w.store user template) :
    (days.mapM fun day => save tracker user none { template with day }).Leads
      (fun _ _ => True) (fun _ _ => False) w := by
  -- Each day that is stored takes one of the identifiers that there is room for, and leaves the
  -- catalog as it is.
  induction days generalizing w with
  | nil => trivial
  | cons day rest ih =>
      rw [List.mapM_cons, leads_bind]
      refine (save_new_decides (roomFor_next hroom)).mono ?_ ?_
      · rintro saved w₁ ⟨-, hmore⟩
        rw [leads_bind]
        exact ih (roomFor_after hroom hmore) ((storable_of_sameCatalog hmore.catalog).mpr h)
      · rintro err w₁ ⟨hno, -⟩
        exact hno ((storable_day day).mpr h)

theorem bulkCreate_refuses {template : EntryInput} {range : BulkRange}
    (hroom : w.store.RoomFor range.days.length) :
    (bulkCreate tracker user template range).Leads (fun _ _ => True) (fun _ w' => w' = w) w := by
  unfold bulkCreate
  split
  · rfl
  · show (range.days.mapM fun day => save tracker user none { template with day }).Leads
      (fun _ _ => True) (fun _ w' => w' = w) w
    -- No day but the first one can be turned away, and then nothing has been stored.
    by_cases hstorable : Storable w.store user template
    · exact (saveDays_stores range.days hroom hstorable).mono (fun _ _ _ => trivial)
        (fun _ _ h => h.elim)
    · cases hdays : range.days with
      | nil => trivial
      | cons day rest =>
          rw [hdays] at hroom
          rw [List.mapM_cons, leads_bind]
          refine (save_new_decides (roomFor_next hroom)).mono ?_ (fun _ _ h => h.2)
          rintro saved w₁ ⟨hyes, -⟩
          exact absurd ((storable_day day).mp hyes) hstorable

end Narrow

theorem outcome_narrowReclassify (hids : w.store.IdsFit) (day : Date) (earlier : Option Alert) :
    outcome (Narrow.alertingReclassify user day earlier) w =
      outcome (alertingReclassify user day earlier) w := by
  have hnarrow := Narrow.leads_alertingReclassify.mp
    (leads_outcome (Narrow.alertingReclassify user day earlier) w)
  have hwide := leads_alertingReclassify_iff.mp
    (leads_outcome (alertingReclassify user day earlier) w)
  rw [Store.reclassifyDayNarrow_eq hids] at hnarrow
  rw [hnarrow, hwide]

theorem outcome_narrowReclassifyDays (hs : s.IdsFit) (h : Standing s id w.store)
    (earlier : Option Alert) :
    outcome (Narrow.alertingReclassifyDays user e previous earlier) w =
      outcome (alertingReclassifyDays user e previous earlier) w := by
  unfold Narrow.alertingReclassifyDays alertingReclassifyDays
  rw [outcome_bind, outcome_narrowReclassify (h.idsFit hs), ← outcome_bind]
  refine outcome_bind_congr ((alertingReclassify_keeps standing_bearsClasses h).mono ?_
    (fun _ _ h => h))
  intro alert w₁ h₁
  rcases previous with _ | p
  · rfl
  · dsimp only
    split
    · rfl
    · exact outcome_narrowReclassify (h₁.idsFit hs) p.day alert

theorem outcome_narrowFollowUp (hs : s.IdsFit) (h : Standing s id w.store)
    (hp : ∀ p ∈ previous, p.user = e.user) :
    outcome (Narrow.followUp tracker user id e previous) w =
      outcome (followUp tracker user id e previous) w := by
  have hrest : ∀ {w₁ : World σ} (alert : Option Alert), Standing s id w₁.store →
      outcome (Narrow.alertingReclassifyDays user e previous alert >>= reload id) w₁ =
        outcome (alertingReclassifyDays user e previous alert >>= reload id) w₁ := by
    intro w₁ alert h₁
    rw [outcome_bind, outcome_narrowReclassifyDays hs h₁, ← outcome_bind]
  unfold Narrow.followUp followUp
  refine outcome_bind_congr (E := fun _ _ => True) ?_
  rw [leads_alerting, Working.leads_on]
  exact (reconcile_standing h hp).mono (fun _ _ _ h => hrest _ h) (fun _ _ _ h => hrest _ h)

theorem outcome_narrowSave {target : Option EntryId} {input : EntryInput} (hids : w.store.IdsFit)
    (hfits : target = none → w.store.entries.nextId.Fits) :
    outcome (Narrow.save tracker user target input) w =
      outcome (save tracker user target input) w := by
  unfold Narrow.save save
  refine outcome_bind_congr (accept_stores.mono ?_ (fun _ _ h => h))
  rintro r _ ⟨s, haccepted, rfl⟩
  have hs : s.IdsFit := by
    -- A new entry gets the next identifier, and an edit gives out none.
    cases haccepted with
    | new hallowed =>
        have hnew : Accepted w.store user input none _ _ := .new hallowed
        exact (hnew.oneMore hnew.standing).idsFit hids (hfits rfl)
    | edited =>
        intro id hid
        exact hids id (Table.ids_modify _ _ _ ▸ hid)
  dsimp only
  rw [Narrow.followedId_eq haccepted hfits]
  exact outcome_narrowFollowUp hs haccepted.standing haccepted.previous_user

theorem outcome_narrowDelete (hids : w.store.IdsFit) :
    outcome (Narrow.delete tracker user id) w = outcome (delete tracker user id) w := by
  have hrest : ∀ {e : TimeEntry} {w₁ : World σ} (alert : Option Alert),
      w.store.OnlyStale w₁.store →
      outcome (do change (Store.eraseEntry id); Narrow.alertingReclassify user e.day alert) w₁ =
        outcome (do change (Store.eraseEntry id); alertingReclassify user e.day alert) w₁ := by
    intro e w₁ alert honly
    refine outcome_bind_congr (E := fun _ _ => True) ?_
    rw [leads_change]
    refine outcome_narrowReclassify (fun id' hid => hids id' ?_) e.day alert
    obtain ⟨r, hr, rfl⟩ := List.mem_map.mp hid
    exact honly.entries_eq ▸ List.mem_map_of_mem ((Table.mem_erase _).mp hr).1
  unfold Narrow.delete delete
  refine outcome_bind_congr (E := fun _ _ => True) ?_
  rw [leads_ownEntry]
  rcases w.store.entryAt id with err | _ | e
  · trivial
  · trivial
  · dsimp only
    split
    · refine outcome_bind_congr (E := fun _ _ => True) ?_
      rw [leads_alerting]
      exact (removeWorklog_keeps .const (fun _ => trivial) (fun _ _ _ _ => trivial)
        (fun _ _ _ _ => trivial)).mono (fun _ _ h => hrest _ h.2.1) (fun _ _ h => hrest _ h.2)
    · trivial

theorem outcome_narrowSaveDays {template : EntryInput} (days : List Date)
    (hids : w.store.IdsFit) (hroom : w.store.RoomFor days.length) :
    outcome (days.mapM fun day => Narrow.save tracker user none { template with day }) w =
      outcome (days.mapM fun day => save tracker user none { template with day }) w := by
  induction days generalizing w with
  | nil => rw [List.mapM_nil, List.mapM_nil]
  | cons day rest ih =>
      have hnext := roomFor_next hroom
      rw [List.mapM_cons, List.mapM_cons, outcome_bind, outcome_narrowSave hids fun _ => hnext,
        ← outcome_bind]
      refine outcome_bind_congr (save_new_decides.mono ?_ (fun _ _ h => h))
      rintro saved w₁ ⟨-, hmore⟩
      rw [outcome_bind, ih (hmore.idsFit hids hnext) (roomFor_after hroom hmore), ← outcome_bind]

theorem outcome_narrowBulkCreate {template : EntryInput} {range : BulkRange}
    (hids : w.store.IdsFit) (hroom : w.store.RoomFor range.days.length) :
    outcome (Narrow.bulkCreate tracker user template range) w =
      outcome (bulkCreate tracker user template range) w := by
  unfold Narrow.bulkCreate bulkCreate
  split
  · exact outcome_bind_congr (E := fun _ _ => True) trivial
  · exact outcome_narrowSaveDays range.days hids hroom

theorem outcome_discard_congr {α : Type} {work work' : Sync σ α}
    (h : outcome work w = outcome work' w) :
    outcome (discard work) w = outcome (discard work') w := by
  show outcome ((fun _ => ()) <$> work) w = outcome ((fun _ => ()) <$> work') w
  rw [map_eq_pure_bind, map_eq_pure_bind, outcome_bind, outcome_bind, h]

end Sync

/-- Where all identifiers of entries fit, those included that the call gives out, limited size makes
no difference. -/
theorem outcome_narrowWork (c : Call σ) (hids : w.store.IdsFit)
    (hroom : w.store.RoomFor c.newEntries) :
    Sync.outcome c.narrowWork w = Sync.outcome c.work w := by
  obtain ⟨tracker, user, action⟩ := c
  cases action with
  | save target input =>
      refine Sync.outcome_discard_congr (Sync.outcome_narrowSave hids ?_)
      rintro rfl
      exact Sync.roomFor_next hroom
  | delete id => exact Sync.outcome_discard_congr (Sync.outcome_narrowDelete hids)
  | bulk template range =>
      exact Sync.outcome_discard_congr (Sync.outcome_narrowBulkCreate hids hroom)

/-- If the identifiers fit that a call would give to new entries and the call fails, then the world
is as it was: every table, and the journal, so that not a single request was sent. -/
theorem failed_call_changes_nothing (c : Call σ) (w : World σ)
    (hroom : w.store.RoomFor c.newEntries) {e : SyncError}
    (h : (Sync.outcome c.narrowWork w).1 = .error e) : (Sync.outcome c.narrowWork w).2 = w := by
  have hwork : c.narrowWork.Leads (fun _ _ => True) (fun _ w' => w' = w) w := by
    obtain ⟨tracker, user, action⟩ := c
    cases action with
    | save target input =>
        refine Sync.leads_discard.mpr (Sync.Narrow.save_refuses ?_)
        rintro rfl
        exact Sync.roomFor_next hroom
    | delete id => exact Sync.leads_discard.mpr Sync.Narrow.delete_refuses
    | bulk template range =>
        exact Sync.leads_discard.mpr (Sync.Narrow.bulkCreate_refuses hroom)
  unfold Sync.Leads at hwork
  split at hwork
  · next heq => simp [heq] at h
  · next heq => exact (congrArg Prod.snd heq).trans hwork

/-- The office, with one entry, which has the identifier `last`. -/
def officeUpTo (last : Int) : World InMemory :=
  { quietOffice with
    store := { office with
      entries := ⟨[(⟨last⟩, (onOtherTicket.newEntry ⟨1⟩).stored)], List.pairwise_singleton ..⟩ } }

/-- Two days in a project that is not there, where there are identifiers for two more entries. -/
theorem failed_bulk_changes_nothing :
    let c : Call InMemory :=
      { tracker := InMemory.tracker, user := ⟨1⟩
        action := .bulk { onOtherTicket with project := ⟨7⟩ } ⟨monday, tuesday, false⟩ }
    let w := officeUpTo 0x7ffffffd
    (w.store.RoomFor c.newEntries ∧ ¬ w.store.RoomFor (c.newEntries + 1)) ∧
      (Sync.outcome c.narrowWork w).1 = .error (.projectNotFound ⟨7⟩) ∧
      (Sync.outcome c.narrowWork w).2 = w :=
  ⟨by decide +kernel, by decide +kernel,
    failed_call_changes_nothing _ _ (by decide +kernel) (e := .projectNotFound ⟨7⟩)
      (by decide +kernel)⟩

/-- After the last identifier that fits, a new entry is stored and booked, and then it is not
found. -/
theorem create_fails_late :
    let c := saveOnTicket none "A-1"
    let w := officeUpTo 0x7fffffff
    (Sync.outcome c.narrowWork w).1 = .error (.entryNotFound ⟨-0x80000000⟩) ∧
      (Sync.outcome c.narrowWork w).2.store.entries.ids = [⟨0x7fffffff⟩, ⟨0x80000000⟩] ∧
      (Sync.outcome c.narrowWork w).2.journal.map (·.request.operation) =
        [.connect, .createWorklog] := by
  decide +kernel

end Timesheet
