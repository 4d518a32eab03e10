import Mathlib.Data.List.Nodup
import Timesheet.Proofs.Course

/-!
A pass over the pending deletions of a user. Each row is tried once, in order, whether or not those
before it failed. The rows that stay are those whose attempts failed, and the pass reports the first
failure.
-/
namespace Timesheet

/-- The failure that the reply to a deletion amounts to. There is none where the work-log is gone
already. -/
def deletionFailure {α : Type} : Except TrackerError α → Option SyncError
  | .ok _ | .error (.missing _) => none
  | .error err => some (.tracker err)

/-- The deletion of `d` is tried: what is sent for it, and with which failure this ends. -/
inductive Tried {σ : Type} (tracker : Tracker σ) (s : Store) (d : StaleWorklog) :
    List Exchange → Option SyncError → Prop
  /-- The ticket system is not there any more. -/
  | unreachable (gone : s.system? d.system = none) : Tried tracker s d [] none
  | noToken {system : TicketSystem} (there : s.system? d.system = some system)
    (lacking : s.token? d.user d.system = none) :
    Tried tracker s d []
      (some (.missingToken (((s.user? d.user).map (·.name)).getD (toString d.user)) system.name))
  | unconnected {c : Connection} (target : c.id = d.system) (admitted : s.Admits d.user c)
    {err : TrackerError} {m m' : σ} (connect : tracker c .connect m = (.error err, m'))
    (seen : Store) :
    Tried tracker s d [⟨c, .connect, .error err, seen⟩] (some (.tracker err))
  | answered {c : Connection} (target : c.id = d.system) (admitted : s.Admits d.user c)
    {reply : Except TrackerError Unit} {m m' m'' : σ}
    (connect : tracker c .connect m = (.ok (), m'))
    (delete : tracker c (.deleteWorklog d.ticket d.worklog) m' = (reply, m'')) (seen : Store) :
    Tried tracker s d
      [⟨c, .connect, .ok (), seen⟩, ⟨c, .deleteWorklog d.ticket d.worklog, reply, seen⟩]
      (deletionFailure reply)

/-- One pending deletion that was tried. -/
structure Trial where
  id : StaleId
  deletion : StaleWorklog
  sent : List Exchange
  failure : Option SyncError

def Trial.row (t : Trial) : StaleId × StaleWorklog := (t.id, t.deletion)

def Trial.Fair {σ : Type} (tracker : Tracker σ) (s : Store) (t : Trial) : Prop :=
  Tried tracker s t.deletion t.sent t.failure

/-- The rows that were tried without a failure. -/
def settledIds (trials : List Trial) : List StaleId :=
  (trials.filter (·.failure.isNone)).map Trial.id

def firstFailure (trials : List Trial) : Option SyncError := trials.findSome? Trial.failure

/-- What a pass reports that has this first failure. -/
def reported : Option SyncError → Except SyncError Unit
  | none => .ok ()
  | some err => .error err

def Store.forgetEach (ids : List StaleId) (s : Store) : Store :=
  ids.foldl (fun s id => s.forgetStale id) s

variable {σ : Type} {tracker : Tracker σ} {s s' : Store} {d : StaleWorklog} {t : Trial}
  {trials : List Trial} {sent : List Exchange} {failure : Option SyncError} {user : UserId}

theorem deletionFailure_eq_none_iff {α : Type} {reply : Except TrackerError α} :
    deletionFailure reply = none ↔ confirmsGone reply = true := by
  rcases reply with (detail | what | ⟨text, causes⟩) | answer <;>
    simp [deletionFailure, confirmsGone]

theorem Tried.sameCatalog (h : Tried tracker s' d sent failure) (hs : s.SameCatalog s') :
    Tried tracker s d sent failure := by
  cases h with
  | unreachable gone => exact .unreachable (hs.system?_eq d.system ▸ gone)
  | noToken there lacking =>
      have huser : s'.user? d.user = s.user? d.user := by rw [hs]; rfl
      rw [huser]
      exact .noToken (hs.system?_eq d.system ▸ there) (hs.token?_eq d.user d.system ▸ lacking)
  | unconnected target admitted connect seen =>
      exact .unconnected target ((hs.admits_iff _ _).mp admitted) connect seen
  | answered target admitted connect delete seen =>
      exact .answered target ((hs.admits_iff _ _).mp admitted) connect delete seen

theorem Tried.requests (h : Tried tracker s d sent failure) :
    ∀ x ∈ sent, x.request = .connect ∨ x.request = .deleteWorklog d.ticket d.worklog := by
  cases h <;> simp

/-- A deletion whose ticket system is there is settled only by a reply that says so. -/
theorem Tried.gone (h : Tried tracker s d sent none) (there : s.system? d.system ≠ none) :
    ∃ x ∈ sent, x.deletion? = some d.target ∧ x.gone? = some d.target := by
  generalize hnone : (none : Option SyncError) = failure at h
  cases h with
  | unreachable gone => exact absurd gone there
  | noToken | unconnected => cases hnone
  | answered target admitted connect delete seen =>
      have hgone := deletionFailure_eq_none_iff.mp hnone.symm
      refine ⟨_, List.mem_cons_of_mem _ List.mem_cons_self, ?_, ?_⟩
      · simp [Exchange.deletion?, StaleWorklog.target, target]
      · simp [Exchange.gone?, StaleWorklog.target, target, hgone]

namespace Store

theorem rows_forgetEach (ids : List StaleId) :
    (s.forgetEach ids).stale.rows = s.stale.rows.filter (·.1 ∉ ids) := by
  induction ids generalizing s with
  | nil => exact (List.filter_eq_self.mpr fun _ _ => by simp).symm
  | cons id rest ih =>
      have hstep : s.forgetEach (id :: rest) = (s.forgetStale id).forgetEach rest := rfl
      rw [hstep, ih]
      simp only [forgetStale, Table.erase, List.filter_filter]
      refine List.filter_congr fun r _ => ?_
      by_cases hid : r.1 = id <;> simp [hid]

theorem nodup_pendingOf (s : Store) (user : UserId) : ((s.pendingOf user).map (·.1)).Nodup :=
  s.stale.nodup_ids List.filter_sublist

theorem onlyStale_forgetEach (ids : List StaleId) : s.OnlyStale (s.forgetEach ids) := by
  induction ids generalizing s with
  | nil => exact .refl s
  | cons id rest ih => exact (onlyStale_forget id).trans ih

theorem pendingOf_forgetEach (ids : List StaleId) :
    (s.forgetEach ids).pendingOf user = (s.pendingOf user).filter (·.1 ∉ ids) := by
  unfold pendingOf Table.filter
  rw [rows_forgetEach, List.filter_filter, List.filter_filter]
  exact List.filter_congr fun r _ => Bool.and_comm _ _

/-- Rows that are another user's are not among those that a user can settle. -/
theorem pendingOf_forgetEach_other {ids : List StaleId} {other : UserId} (hother : other ≠ user)
    (hids : ∀ id ∈ ids, ∃ d, (id, d) ∈ s.pendingOf user) :
    (s.forgetEach ids).pendingOf other = s.pendingOf other := by
  rw [pendingOf_forgetEach, List.filter_eq_self]
  intro r hr
  rw [decide_eq_true_eq]
  intro hid
  obtain ⟨d, hd⟩ := hids _ hid
  obtain ⟨hrow, rfl⟩ := mem_pendingOf.mp hr
  obtain ⟨hrow', huser⟩ := mem_pendingOf.mp hd
  have hsame : r = (r.1, d) := s.stale.eq_of_mem hrow hrow' rfl
  exact hother ((congrArg (·.2.user) hsame).trans huser)

end Store

/-- From `s`, where the journal was `journal`, a pass over the pending deletions of the user leads
to `s'` and the journal `later`. -/
structure Pass {σ : Type} (tracker : Tracker σ) (s : Store) (user : UserId) (trials : List Trial)
    (journal later : List Exchange) (s' : Store) : Prop where
  /-- Each row is tried once, in order. -/
  rows : trials.map Trial.row = s.pendingOf user
  ordered : (trials.map (·.id.value)).Pairwise (· < ·)
  fair : ∀ t ∈ trials, t.Fair tracker s
  sent : later = journal ++ trials.flatMap Trial.sent
  /-- What stays are the rows whose attempts failed. -/
  kept : s'.pendingOf user = (trials.filter (·.failure.isSome)).map Trial.row
  others : ∀ other, other ≠ user → s'.pendingOf other = s.pendingOf other
  onlyStale : s.OnlyStale s'

theorem mem_map_filter_iff {α β : Type} {l : List α} {f : α → β} {p : α → Bool} {a : α}
    (hdistinct : (l.map f).Nodup) (ha : a ∈ l) : f a ∈ (l.filter p).map f ↔ p a = true := by
  simp only [List.mem_map, List.mem_filter]
  constructor
  · rintro ⟨a', ⟨ha', hp⟩, hsame⟩
    rwa [← List.inj_on_of_nodup_map hdistinct ha' ha hsame]
  · exact fun hp => ⟨a, ⟨ha, hp⟩, rfl⟩

theorem mem_settledIds_iff (hdistinct : (trials.map Trial.id).Nodup) (ht : t ∈ trials) :
    t.id ∈ settledIds trials ↔ t.failure = none :=
  (mem_map_filter_iff hdistinct ht).trans Option.isNone_iff_eq_none

theorem pass_of_trials {journal later : List Exchange}
    (hrows : trials.map Trial.row = s.pendingOf user) (hfair : ∀ t ∈ trials, t.Fair tracker s)
    (hsent : later = journal ++ trials.flatMap Trial.sent) :
    Pass tracker s user trials journal later (s.forgetEach (settledIds trials)) := by
  have hordered : (trials.map (·.id.value)).Pairwise (· < ·) := by
    have hids : trials.map (·.id.value) = (s.pendingOf user).map (·.1.value) := by
      rw [← hrows, List.map_map]
      rfl
    rw [hids]
    exact List.pairwise_map.mpr s.pendingOf_increasing
  have hdistinct : (trials.map Trial.id).Nodup := by
    have hids : trials.map Trial.id = (s.pendingOf user).map (·.1) := by
      rw [← hrows, List.map_map]
      rfl
    rw [hids]
    exact s.nodup_pendingOf user
  refine ⟨hrows, hordered, hfair, hsent, ?_, ?_, Store.onlyStale_forgetEach _⟩
  · rw [Store.pendingOf_forgetEach, ← hrows, List.filter_map]
    refine congrArg (List.map Trial.row) (List.filter_congr fun t ht => ?_)
    have hsettled := mem_settledIds_iff hdistinct ht
    cases hfailure : t.failure <;> simp_all [Trial.row]
  · intro other hother
    refine Store.pendingOf_forgetEach_other hother fun id hid => ?_
    obtain ⟨t, ht, rfl⟩ := List.mem_map.mp hid
    exact ⟨t.deletion, hrows ▸ List.mem_map_of_mem (List.mem_filter.mp ht).1⟩

/-- If the ticket system of `d` is there, the user of `d` holds a token for it, and with this one
the tracker can be reached and says that the work-log is gone. -/
def Obliges (tracker : Tracker σ) (s : Store) (d : StaleWorklog) : Prop :=
  ∀ system, s.system? d.system = some system → ∃ token, s.token? d.user d.system = some token ∧
    ∀ m, (tracker ⟨d.system, system, token⟩ .connect m).1 = .ok () ∧
      confirmsGone
        (tracker ⟨d.system, system, token⟩ (.deleteWorklog d.ticket d.worklog) m).1 = true

theorem Tried.settles (h : Tried tracker s d sent failure) (hobliges : Obliges tracker s d) :
    failure = none := by
  have hobliged : ∀ {c : Connection}, c.id = d.system → s.Admits d.user c → ∀ m,
      (tracker c .connect m).1 = .ok () ∧
        confirmsGone (tracker c (.deleteWorklog d.ticket d.worklog) m).1 = true := by
    rintro ⟨_, system, token⟩ rfl ⟨hsystem, htoken⟩
    obtain ⟨token', htoken', hconfirms⟩ := hobliges system hsystem
    cases htoken.symm.trans htoken'
    exact hconfirms
  cases h with
  | unreachable gone => rfl
  | noToken there lacking =>
      obtain ⟨token, htoken, -⟩ := hobliges _ there
      rw [lacking] at htoken
      cases htoken
  | @unconnected c target admitted err m m' connect seen =>
      have hconnects := (hobliged target admitted m).1
      rw [connect] at hconnects
      cases hconnects
  | @answered c target admitted reply m m' m'' connect delete seen =>
      have hconfirms := (hobliged target admitted m').2
      rw [delete] at hconfirms
      exact deletionFailure_eq_none_iff.mpr hconfirms

theorem firstFailure_eq_none_iff : firstFailure trials = none ↔ ∀ t ∈ trials, t.failure = none := by
  simp [firstFailure]

theorem Pass.clears {journal later : List Exchange}
    (h : Pass tracker s user trials journal later s') (hnone : firstFailure trials = none) :
    s'.pendingOf user = [] := by
  have hfailed : trials.filter (·.failure.isSome) = [] :=
    List.filter_eq_nil_iff.mpr fun t ht => by simp [firstFailure_eq_none_iff.mp hnone t ht]
  rw [h.kept, hfailed]
  rfl

theorem Pass.confirmed_or_kept {journal later : List Exchange}
    (h : Pass tracker s user trials journal later s') {row : StaleId × StaleWorklog}
    (hrow : row ∈ s.stale.rows) (there : s.system? row.2.system ≠ none) :
    (∃ x ∈ trials.flatMap Trial.sent,
      x.deletion? = some row.2.target ∧ x.gone? = some row.2.target) ∨ row ∈ s'.stale.rows := by
  by_cases huser : row.2.user = user
  · have hpending : row ∈ trials.map Trial.row := by
      rw [h.rows]
      exact Store.mem_pendingOf.mpr ⟨hrow, huser⟩
    obtain ⟨t, ht, rfl⟩ := List.mem_map.mp hpending
    cases hfailure : t.failure with
    | none =>
        have htried : Tried tracker s t.deletion t.sent none := hfailure ▸ h.fair t ht
        obtain ⟨x, hx, hgone⟩ := htried.gone there
        exact .inl ⟨x, List.mem_flatMap.mpr ⟨t, ht, hx⟩, hgone⟩
    | some err =>
        have hkept : t.row ∈ s'.pendingOf user := by
          rw [h.kept]
          exact List.mem_map_of_mem (List.mem_filter.mpr ⟨ht, by simp [hfailure]⟩)
        exact .inr (Store.mem_pendingOf.mp hkept).1
  · have hkept : row ∈ s'.pendingOf row.2.user := by
      rw [h.others _ huser]
      exact Store.mem_pendingOf.mpr ⟨hrow, rfl⟩
    exact .inr (Store.mem_pendingOf.mp hkept).1

theorem Pass.settles {journal later : List Exchange}
    (h : Pass tracker s user trials journal later s')
    (hobliges : ∀ d ∈ s.pendingOf user, Obliges tracker s d.2) : firstFailure trials = none :=
  firstFailure_eq_none_iff.mpr fun t ht =>
    (h.fair t ht).settles (hobliges t.row (h.rows ▸ List.mem_map_of_mem ht))

namespace Sync

variable {w : World σ}

theorem deletePending_tries {id : StaleId} :
    (deletePending tracker id d).Leads
      (fun _ w' => ∃ sent, Tried tracker w.store d sent none ∧ w'.journal = w.journal ++ sent ∧
        w'.store = w.store.forgetStale id)
      (fun err w' => ∃ sent, Tried tracker w.store d sent (some err) ∧
        w'.journal = w.journal ++ sent ∧ w'.store = w.store) w := by
  unfold deletePending
  rw [leads_bind, leads_store]
  cases hsystem : w.store.system? d.system with
  | none => exact ⟨[], .unreachable hsystem, (List.append_nil _).symm, rfl⟩
  | some system =>
      rw [leads_bind, leads_connect]
      cases htoken : w.store.token? d.user d.system with
      | none => exact ⟨[], .noToken hsystem htoken, (List.append_nil _).symm, rfl⟩
      | some token =>
          have hadmits : w.store.Admits d.user ⟨d.system, system, token⟩ := ⟨hsystem, htoken⟩
          dsimp only
          rw [leads_send]
          rcases hconnect : tracker ⟨d.system, system, token⟩ .connect w.remote with ⟨err | _, m⟩
          · exact ⟨_, .unconnected rfl hadmits hconnect w.store, rfl, rfl⟩
          · dsimp only
            rw [leads_bind, leads_ask]
            dsimp only [World.note]
            rcases hdelete : tracker ⟨d.system, system, token⟩
              (.deleteWorklog d.ticket d.worklog) m with ⟨reply, m'⟩
            have htried := Tried.answered rfl hadmits hconnect hdelete w.store
            rcases reply with (detail | what | ⟨text, causes⟩) | _
            all_goals exact ⟨_, htried, by simp, rfl⟩

theorem deleteAll_tries {rows : List (StaleId × StaleWorklog)} (hs : s.SameCatalog w.store) :
    (deleteAll tracker rows).Leads
      (fun failure w' => ∃ trials, trials.map Trial.row = rows ∧ (∀ t ∈ trials, t.Fair tracker s) ∧
        failure = firstFailure trials ∧ w'.journal = w.journal ++ trials.flatMap Trial.sent ∧
        w'.store = w.store.forgetEach (settledIds trials))
      (fun _ _ => False) w := by
  induction rows generalizing w with
  | nil => exact ⟨[], rfl, by simp, rfl, (List.append_nil _).symm, rfl⟩
  | cons row rest ih =>
      obtain ⟨id, d⟩ := row
      unfold deleteAll
      rw [leads_bind, leads_attempt]
      refine deletePending_tries.mono ?_ ?_
      · rintro - w₁ ⟨sent, htried, hj₁, hs₁⟩
        have hcatalog : w.store.SameCatalog w₁.store := by
          rw [hs₁]
          exact (Store.onlyStale_forget id).sameCatalog
        rw [leads_bind]
        refine (ih (hs.trans hcatalog)).mono ?_ (fun _ _ h => h)
        rintro _ w₂ ⟨trials, rfl, hfair, rfl, hj₂, hs₂⟩
        refine ⟨⟨id, d, sent, none⟩ :: trials, rfl, ?_, rfl, ?_, ?_⟩
        · exact List.forall_mem_cons.mpr ⟨htried.sameCatalog hs, hfair⟩
        · rw [hj₂, hj₁, List.append_assoc, List.flatMap_cons]
        · rw [hs₂, hs₁]
          rfl
      · rintro err w₁ ⟨sent, htried, hj₁, hs₁⟩
        have hcatalog : s.SameCatalog w₁.store := by
          rw [hs₁]
          exact hs
        rw [leads_bind]
        refine (ih hcatalog).mono ?_ (fun _ _ h => h)
        rintro _ w₂ ⟨trials, rfl, hfair, rfl, hj₂, hs₂⟩
        refine ⟨⟨id, d, sent, some err⟩ :: trials, rfl, ?_, rfl, ?_, ?_⟩
        · exact List.forall_mem_cons.mpr ⟨htried.sameCatalog hs, hfair⟩
        · rw [hj₂, hj₁, List.append_assoc, List.flatMap_cons]
        · rw [hs₂, hs₁]
          rfl

/-- Sending the pending deletions of a user is a pass over them, and fails as the first of them that
fails. -/
theorem retryPending_passes :
    (retryPending tracker user).Leads
      (fun _ w' => ∃ trials, firstFailure trials = none ∧
        Pass tracker w.store user trials w.journal w'.journal w'.store)
      (fun err w' => ∃ trials, firstFailure trials = some err ∧
        Pass tracker w.store user trials w.journal w'.journal w'.store) w := by
  unfold retryPending
  simp only [leads_bind, leads_store]
  refine (deleteAll_tries (.refl _)).mono ?_ (fun _ _ h => h.elim)
  rintro failure w' ⟨trials, hrows, hfair, rfl, hj, hs⟩
  have hpass := hs ▸ pass_of_trials hrows hfair hj
  cases hfirst : firstFailure trials with
  | none => exact ⟨trials, hfirst, hpass⟩
  | some err => exact ⟨trials, hfirst, hpass⟩

theorem retryPending_of_pass {Q : World σ → Prop}
    (h : ∀ trials w', Pass tracker w.store user trials w.journal w'.journal w'.store → Q w') :
    (retryPending tracker user).Leads (fun _ => Q) (fun _ => Q) w :=
  retryPending_passes.mono (fun _ w' ⟨trials, _, hpass⟩ => h trials w' hpass)
    (fun _ w' ⟨trials, _, hpass⟩ => h trials w' hpass)

theorem retryPending_succeeds (h : ∀ d ∈ w.store.pendingOf user, Obliges tracker w.store d.2) :
    (retryPending tracker user).Leads (fun _ w' => w'.store.pendingOf user = [])
      (fun _ _ => False) w := by
  refine retryPending_passes.mono ?_ ?_
  · rintro - w' ⟨trials, hnone, hpass⟩
    exact hpass.clears hnone
  · rintro err w' ⟨trials, hsome, hpass⟩
    rw [hpass.settles h] at hsome
    cases hsome

end Sync

/-- Ada has no token for the second ticket system. -/
def backlogged : Store :=
  { office with
    users := office.users.push ⟨"ben"⟩
    systems := office.systems.push ⟨"other", .jira, "", true⟩
    stale := ((((Table.empty.push ⟨⟨1⟩, ⟨1⟩, "A-1", "wl-1"⟩).push ⟨⟨1⟩, ⟨2⟩, "A-2", "wl-2"⟩).push
      ⟨⟨2⟩, ⟨1⟩, "A-3", "wl-3"⟩).push ⟨⟨1⟩, ⟨1⟩, "A-4", "wl-4"⟩) }

/-- The tracker refuses the first of the pending deletions. -/
def backlog : World InMemory :=
  { store := backlogged, journal := []
    remote := { InMemory.empty with
      rules := [⟨.deleteWorklog, some "A-1", none, .failed "refused" []⟩] } }

def afterPass : World InMemory := (Sync.outcome (Sync.retryPending InMemory.tracker ⟨1⟩) backlog).2

def tokenIssued : World Unit :=
  { store := { afterPass.store with
      grants := ⟨⟨1⟩, ⟨2⟩, ⟨"token", ""⟩⟩ :: afterPass.store.grants }
    remote := (), journal := [] }

def deleteOnly : Tracker Unit
  | _, .connect => return .ok ()
  | _, .deleteWorklog .. => return .ok ()
  | _, _ => return .error (.failed "unsupported" [])

theorem deleteOnly_obliges :
    ∀ d ∈ tokenIssued.store.pendingOf ⟨1⟩, Obliges deleteOnly tokenIssued.store d.2 := by
  have htoken : ∀ d ∈ tokenIssued.store.pendingOf ⟨1⟩,
      tokenIssued.store.token? d.2.user d.2.system = some ⟨"token", ""⟩ := by decide +kernel
  exact fun d hd _ _ => ⟨_, htoken d hd, fun _ => ⟨rfl, rfl⟩⟩

end Timesheet
