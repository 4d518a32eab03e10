import Timesheet.Proofs.Credentials
import Timesheet.Proofs.Events

/-!
A deletion that was recorded stays recorded until it is confirmed, through whatever happens, and no
work-log is deleted whose deletion is not recorded.

The store is seen at every exchange and in the end. What is shown of one step, that a row is there
after it or the step confirmed the deletion, is put together over the steps of a call, and then over
the events of a history.
-/
namespace Timesheet

/-- The exchange is a deletion of the work-log of `d`, sent with the token that the user of `d`
holds for its ticket system, and the reply says that the work-log is gone. -/
structure Exchange.Confirms (x : Exchange) (d : StaleWorklog) : Prop where
  deletion : x.deletion? = some d.target
  gone : x.gone? = some d.target
  token : x.store.token? d.user d.system = some x.connection.token

/-- A work-log is deleted only while its deletion is recorded. -/
def Exchange.Backed (x : Exchange) : Prop :=
  ∀ g, x.deletion? = some g → ∃ d ∈ x.store.stale.rows, d.2.target = g

/-- The row is there at each of the exchanges and after them, in `s`, unless there was a `C` of it
before. -/
structure Endures (C : Exchange → StaleWorklog → Prop) (r : StaleId × StaleWorklog)
    (sent : List Exchange) (s : Store) : Prop where
  during : ∀ before x later, sent = before ++ x :: later →
    r ∈ x.store.stale.rows ∨ ∃ y ∈ before, C y r.2
  after : r ∈ s.stale.rows ∨ ∃ y ∈ sent, C y r.2

/-- From `s₀` over the exchanges to `s`, every row endures from when it is first seen. -/
structure Surviving (C : Exchange → StaleWorklog → Prop) (s₀ : Store) (sent : List Exchange)
    (s : Store) : Prop where
  first : ∀ r ∈ s₀.stale.rows, Endures C r sent s
  seen : ∀ before x later, sent = before ++ x :: later → ∀ r ∈ x.store.stale.rows,
    Endures C r (x :: later) s

/-- The ticket systems of pending deletions are there. -/
def Store.Grounded (s : Store) : Prop := ∀ d ∈ s.stale.rows, s.systems.contains d.2.system

variable {C D : Exchange → StaleWorklog → Prop} {r : StaleId × StaleWorklog} {x : Exchange}
  {sent sent' : List Exchange} {s₀ s s' : Store}

theorem Endures.trans (h : Endures C r sent s)
    (h' : r ∈ s.stale.rows → Endures C r sent' s') : Endures C r (sent ++ sent') s' := by
  constructor
  · intro before x later hsplit
    rcases split_append hsplit with ⟨back, hsent, -⟩ | ⟨front, rfl, hsent'⟩
    · exact h.during before x back hsent
    · rcases h.after with hr | ⟨y, hy, hC⟩
      · refine ((h' hr).during front x later hsent').imp_right ?_
        rintro ⟨y, hy, hC⟩
        exact ⟨y, List.mem_append_right _ hy, hC⟩
      · exact .inr ⟨y, List.mem_append_left _ hy, hC⟩
  · rcases h.after with hr | ⟨y, hy, hC⟩
    · refine (h' hr).after.imp_right ?_
      rintro ⟨y, hy, hC⟩
      exact ⟨y, List.mem_append_right _ hy, hC⟩
    · exact .inr ⟨y, List.mem_append_left _ hy, hC⟩

theorem Endures.mono (h : Endures C r sent s) (hC : ∀ y ∈ sent, C y r.2 → D y r.2) :
    Endures D r sent s := by
  constructor
  · rintro before x later rfl
    refine (h.during before x later rfl).imp_right ?_
    rintro ⟨y, hy, hCy⟩
    exact ⟨y, hy, hC y (List.mem_append_left _ hy) hCy⟩
  · refine h.after.imp_right ?_
    rintro ⟨y, hy, hCy⟩
    exact ⟨y, hy, hC y hy hCy⟩

theorem endures_one (hr : r ∈ x.store.stale.rows)
    (hs : r ∈ s.stale.rows ∨ C x r.2) : Endures C r [x] s := by
  constructor
  · intro before y later hsplit
    rcases List.cons_eq_append_iff.mp hsplit with ⟨rfl, hy⟩ | ⟨rest, -, hrest⟩
    · cases hy
      exact .inl hr
    · simp at hrest
  · simpa using hs

theorem surviving_nil (h : ∀ r ∈ s.stale.rows, r ∈ s'.stale.rows) : Surviving C s [] s' where
  first r hr := ⟨by simp, .inl (h r hr)⟩
  seen := by simp

theorem surviving_one (h : ∀ r ∈ x.store.stale.rows, r ∈ s.stale.rows ∨ C x r.2) :
    Surviving C x.store [x] s where
  first r hr := endures_one hr (h r hr)
  seen before y later hsplit r hr := by
    rcases List.cons_eq_append_iff.mp hsplit with ⟨rfl, hy⟩ | ⟨rest, -, hrest⟩
    · cases hy
      exact endures_one hr (h r hr)
    · simp at hrest

theorem Surviving.trans (h : Surviving C s₀ sent s) (h' : Surviving C s sent' s') :
    Surviving C s₀ (sent ++ sent') s' where
  first r hr := (h.first r hr).trans (h'.first r)
  seen before x later hsplit r hr := by
    rcases split_append hsplit with ⟨back, hsent, rfl⟩ | ⟨front, rfl, hsent'⟩
    · exact (h.seen before x back hsent r hr).trans (h'.first r)
    · exact h'.seen front x later hsent' r hr

theorem Surviving.mono (h : Surviving C s₀ sent s) (hC : ∀ y ∈ sent, ∀ d, C y d → D y d) :
    Surviving D s₀ sent s where
  first r hr := (h.first r hr).mono fun y hy => hC y hy r.2
  seen before x later hsplit r hr := by
    subst hsplit
    exact (h.seen before x later rfl r hr).mono fun y hy =>
      hC y (List.mem_append_right _ hy) r.2

namespace Sync

variable {σ : Type} {tracker : Tracker σ} {T : Store → Prop} {start : List Exchange}
  {user : UserId} {id : EntryId} {p : TimeEntry} {w : World σ}

/-- Since `start`, when the store was `s₀`, every row survived, and every deletion was backed. The
stores that were seen are `T`. -/
def Preserving (C : Exchange → StaleWorklog → Prop) (T : Store → Prop) (s₀ : Store)
    (start : List Exchange) (w : World σ) : Prop :=
  T w.store ∧ w.store.Grounded ∧ ∃ sent, w.journal = start ++ sent ∧
    Surviving C s₀ sent w.store ∧ ∀ x ∈ sent, x.Backed ∧ T x.store

theorem preserving_refl (hT : T w.store) (grounded : w.store.Grounded) :
    Preserving C T w.store w.journal w :=
  ⟨hT, grounded, [], by simp, surviving_nil fun _ h => h, by simp⟩

theorem Preserving.put (h : Preserving C T s₀ start w) (hT : T s) (grounded : s.Grounded)
    (hs : ∀ r ∈ w.store.stale.rows, r ∈ s.stale.rows) : Preserving C T s₀ start (w.put s) := by
  obtain ⟨-, -, sent, hj, hsurviving, hsent⟩ := h
  refine ⟨hT, grounded, sent, hj, ?_, hsent⟩
  simpa using hsurviving.trans (surviving_nil hs)

theorem Preserving.exchange (h : Preserving C T s₀ start w) {remote : σ} (hx : x.store = w.store)
    (backed : x.Backed) (hT : T s) (grounded : s.Grounded)
    (hs : ∀ r ∈ w.store.stale.rows, r ∈ s.stale.rows ∨ C x r.2) :
    Preserving C T s₀ start ((w.note x remote).put s) := by
  obtain ⟨hTw, -, sent, hj, hsurviving, hsent⟩ := h
  refine ⟨hT, grounded, sent ++ [x], by simp [hj], ?_, ?_⟩
  · rw [← hx] at hsurviving hs
    exact hsurviving.trans (surviving_one hs)
  · refine List.forall_mem_append.mpr ⟨hsent, ?_⟩
    simpa [hx] using ⟨backed, hTw⟩

theorem Preserving.note (h : Preserving C T s₀ start w) (remote : σ) (hx : x.store = w.store)
    (backed : x.Backed) : Preserving C T s₀ start (w.note x remote) :=
  h.exchange hx backed h.1 h.2.1 fun _ hr => .inl hr

theorem Preserving.noteOther (h : Preserving C T s₀ start w) (remote : σ) (hx : x.store = w.store)
    (hno : x.deletion? = none) : Preserving C T s₀ start (w.note x remote) :=
  h.note remote hx fun g hg => by simp [hno] at hg

/-- The exchange confirmed a deletion of the user. -/
def ConfirmsFor (user : UserId) (x : Exchange) (d : StaleWorklog) : Prop :=
  x.deletion? = some d.target ∧ x.gone? = some d.target ∧ d.user = user

theorem grounded_of_subset (h : s.Grounded) (hsystems : s'.systems = s.systems)
    (hs : ∀ d ∈ s'.stale.rows, d ∈ s.stale.rows) : s'.Grounded :=
  fun d hd => hsystems ▸ h d (hs d hd)

/-- A call keeps the catalog of `s₀`, in which it starts. -/
abbrev PreservingFor (user : UserId) (s₀ : Store) (start : List Exchange) (w : World σ) : Prop :=
  Preserving (ConfirmsFor user) s₀.SameCatalog s₀ start w

theorem preserving_bearsRetry : BearsRetry user (PreservingFor (σ := σ) user s₀ start) where
  connect remote h := h.noteOther remote rfl rfl
  refused remote h hd hc _ := h.note remote rfl fun g hg => by
    cases hg
    exact ⟨_, (Store.mem_pendingOf.mp hd).1, by rw [hc]; rfl⟩
  confirmed {w id d c reply} remote h hd hc hgone := by
    obtain ⟨hmem, huser⟩ := Store.mem_pendingOf.mp hd
    have htarget : d.target = ⟨c.id, d.ticket, d.worklog⟩ := by rw [hc]; rfl
    refine h.exchange rfl ?_ (h.1.trans rfl) ?_ ?_
    · intro g hg
      cases hg
      exact ⟨_, hmem, htarget⟩
    · exact grounded_of_subset h.2.1 rfl fun d hd => (Store.mem_forgetStale.mp hd).1
    · intro r hr
      by_cases hid : r.1 = id
      · obtain rfl : r = (id, d) := w.store.stale.eq_of_mem hr hmem hid
        refine .inr ⟨by rw [htarget]; rfl, ?_, huser⟩
        rw [htarget]
        simp [Exchange.gone?, hgone]
      · exact .inl (Store.mem_forgetStale.mpr ⟨hr, hid⟩)
  unreachable {w id d} h hd hsystem := by
    have hthere := h.2.1 _ (Store.mem_pendingOf.mp hd).1
    have hgone : w.store.systems.find? d.system = none := hsystem
    simp [Table.contains, hgone] at hthere

theorem Preserving.record {d : StaleWorklog} (h : PreservingFor user s₀ start w)
    (hs : w.store.recordStale d = .ok s) : PreservingFor user s₀ start (w.put s) := by
  refine h.put (h.1.trans (Store.recordStale_onlyStale hs).sameCatalog) ?_
    (Store.recordStale_subset hs)
  rcases Store.recordStale_ok hs with ⟨rfl, -⟩ | ⟨rfl, -, hsystem⟩
  · exact h.2.1
  · intro d' hd'
    rcases (w.store.stale.mem_push).mp hd' with hold | rfl
    · exact h.2.1 d' hold
    · exact hsystem

theorem preserving_bearsCall : BearsCall user (PreservingFor (σ := σ) user s₀ start) where
  retry := preserving_bearsRetry
  note {w x} remote h hx hs := by
    refine h.noteOther remote hs ?_
    obtain ⟨c, request, reply, s⟩ := x
    cases request with
    | deleteWorklog ticket worklog => exact absurd rfl (hx ticket worklog)
    | _ => rfl
  entries _ h := h.put (h.1.trans rfl) (grounded_of_subset h.2.1 rfl fun _ hd => hd) fun _ hr => hr
  record h _ hs := h.record hs

theorem connection_of_deletion {g : Worklog} (h : x.deletion? = some g) :
    x.connection.id = g.system := by
  obtain ⟨c, request, reply, s⟩ := x
  cases request with
  | deleteWorklog ticket worklog =>
      cases h
      rfl
  | _ => cases h

theorem next_preserves (c : Call σ) (grounded : w.store.Grounded) :
    Preserving Exchange.Confirms (fun _ => True) w.store w.journal (w.next (.call c)) := by
  have hstart : PreservingFor c.user w.store w.journal w := preserving_refl (.refl _) grounded
  obtain ⟨-, hgrounded, sent, hj, hsurviving, hsent⟩ :=
    (work_bears preserving_bearsCall hstart).always
  obtain ⟨-, sent', hj', hadmits⟩ := next_accredits c w
  obtain rfl : sent = sent' := List.append_cancel_left (hj.symm.trans hj')
  refine ⟨trivial, hgrounded, sent, hj, hsurviving.mono ?_, fun x hx => ⟨(hsent x hx).1, trivial⟩⟩
  rintro y hy d ⟨hdeletion, hgone, huser⟩
  have hsystem : y.connection.id = d.system := connection_of_deletion hdeletion
  refine ⟨hdeletion, hgone, ?_⟩
  rw [(hsent y hy).2.token?_eq, ← hsystem, huser]
  exact (hadmits y hy).2

theorem Preserving.trans {w' : World σ} (h : Preserving C (fun _ => True) s₀ start w)
    (h' : Preserving C (fun _ => True) w.store w.journal w') :
    Preserving C (fun _ => True) s₀ start w' := by
  obtain ⟨-, -, sent, hj, hsurviving, hsent⟩ := h
  obtain ⟨-, hgrounded, sent', hj', hsurviving', hsent'⟩ := h'
  exact ⟨trivial, hgrounded, sent ++ sent', by rw [hj', hj, List.append_assoc],
    hsurviving.trans hsurviving', List.forall_mem_append.mpr ⟨hsent, hsent'⟩⟩

theorem preserving_bearsCatalog :
    BearsCatalog (Preserving (σ := σ) C (fun _ => True) s₀ start) where
  note {w x} remote h hidle hs := by
    refine h.noteOther remote hs ?_
    obtain ⟨c, request, reply, s⟩ := x
    rcases hidle with hconnect | ⟨issue, hsubtickets⟩
    · cases hconnect
      rfl
    · cases hsubtickets
      rfl
  catalog h hs := h.put trivial (fun d hd => hs.systems _ (h.2.1 d (hs.stale ▸ hd)))
    fun r hr => hs.stale ▸ hr

end Sync

def relentingOffice : World InMemory :=
  { stubbornOffice.after (twoMoves.map .call) with remote := InMemory.empty }

end Timesheet
