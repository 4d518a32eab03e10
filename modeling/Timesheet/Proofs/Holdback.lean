import Timesheet.Proofs.Calls

/-!
Nothing is booked for a user while one of their deletions is pending, from whatever world the call
starts.
-/
namespace Timesheet

/-- Requests that settle a ticket or write a work-log. -/
def Request.Books : Request → Prop
  | .search .. => True
  | .createIssue .. => True
  | .updateWorklog .. => True
  | .createWorklog .. => True
  | _ => False

namespace Sync

variable {σ : Type} {user : UserId} {start : List Exchange} {w : World σ}

/-- Of what was sent after `start`, nothing was booked while a deletion of the user was pending. -/
def HeldBack (user : UserId) (start : List Exchange) (w : World σ) : Prop :=
  ∃ sent, w.journal = start ++ sent ∧
    ∀ x ∈ sent, x.request.Books → x.store.pendingOf user = []

theorem HeldBack.refl (w : World σ) : HeldBack user w.journal w := SentOnly.refl w

theorem HeldBack.note {x : Exchange} (h : HeldBack user start w) (remote : σ)
    (hx : x.request.Books → x.store.pendingOf user = []) :
    HeldBack user start (w.note x remote) := SentOnly.note h remote hx

theorem HeldBack.put (h : HeldBack user start w) (s : Store) : HeldBack user start (w.put s) := h

theorem heldBack_bearsRetry (owner : UserId) :
    BearsRetry owner (HeldBack (σ := σ) user start) where
  connect remote h := h.note remote False.elim
  refused remote h _ _ _ := h.note remote False.elim
  confirmed remote h _ _ _ := (h.note remote False.elim).put _
  unreachable h _ _ := h.put _

/-- The copy is of an entry of the user, for whom nothing was booked too early. -/
def HeldBackFor (user : UserId) (start : List Exchange) (e : TimeEntry) (w : World σ) : Prop :=
  e.user = user ∧ HeldBack user start w

variable {id : EntryId} {p : TimeEntry}

theorem heldBackFor_bearsSettling : BearsSettling id (HeldBackFor (σ := σ) user start) where
  retry e := .and .const (heldBack_bearsRetry e.user)
  lookUp remote h _ hx hp := ⟨h.1, h.2.note remote fun _ => by rw [hx, ← h.1, hp]⟩
  retitle _ _ h _ := ⟨h.1, h.2.put _⟩
  retitleFails _ _ h _ := h

theorem heldBackFor_bearsLeaving :
    BearsLeaving id p (HeldBackFor (σ := σ) user start) (HeldBackFor user start)
      (HeldBackFor user start) where
  stays h _ := h
  skipped h _ _ := h
  recorded h _ _ _ _ _ := ⟨h.1, h.2.put _⟩
  refused h _ _ _ _ _ := h
  retry _ := .and .const (heldBack_bearsRetry p.user)
  cleared h _ := ⟨h.1, h.2.put _⟩
  uncleared h _ := h
  none h _ := h

theorem heldBackFor_bearsBooking : BearsBooking id (HeldBackFor (σ := σ) user start) where
  connect remote h := ⟨h.1, h.2.note remote False.elim⟩
  update remote h _ _ _ hp := ⟨h.1, h.2.note remote fun _ => h.1 ▸ hp⟩
  createFails remote h hp := ⟨h.1, h.2.note remote fun _ => h.1 ▸ hp⟩
  create remote h _ _ _ hp _ _ := ⟨h.1, (h.2.note remote fun _ => h.1 ▸ hp).put _⟩
  createSame remote h _ hp := ⟨h.1, h.2.note remote fun _ => h.1 ▸ hp⟩
  createUnsaved remote h hp _ := ⟨h.1, h.2.note remote fun _ => h.1 ▸ hp⟩

theorem save_holdsBack {tracker : Tracker σ} {target : Option EntryId} {input : EntryInput}
    (h : HeldBack user start w) :
    (save tracker user target input).Leads (fun _ => HeldBack user start)
      (fun _ => HeldBack user start) w := by
  refine save_keeps (accept_stores.mono ?_ (fun _ _ hw => hw ▸ h)) (fun _ _ h _ => h.put _)
  rintro ⟨id, e, previous⟩ _ ⟨s, haccepted, rfl⟩
  have hfor : HeldBackFor user start e (w.put s) := ⟨haccepted.user_eq, h.put s⟩
  have hkept : (reconcile tracker id previous).Leads (fun _ => HeldBackFor user start)
      (fun _ => HeldBackFor user start) e (w.put s) :=
    reconcile_keepsAll heldBackFor_bearsSettling
      (fun p hp => ⟨haccepted.previous_user p hp, heldBackFor_bearsLeaving⟩)
      heldBackFor_bearsBooking hfor
  exact hkept.mono (fun _ _ _ h => h.2) (fun _ _ _ h => h.2)

theorem delete_holdsBack {tracker : Tracker σ} (h : HeldBack user start w) :
    (delete tracker user id).Leads (fun _ => HeldBack user start) (fun _ => HeldBack user start)
      w := by
  refine (delete_keeps ?_ (fun _ _ h _ => h.put _)).mono (fun _ _ h => h) (fun _ _ hw => hw ▸ h)
  intro e _ _
  exact (removeWorklog_keeps (heldBack_bearsRetry e.user) (fun _ => h) (fun _ _ _ _ => h.put _)
    (fun _ _ _ _ => h)).mono (fun _ _ h => h.1.put _) (fun _ _ h => h.1.put _)

theorem next_heldBack (c : Call σ) (w : World σ) : HeldBack c.user w.journal (w.next (.call c)) :=
  (work_keeps (.refl w) (fun _ _ h => save_holdsBack h) (fun _ _ _ => save_holdsBack (.refl w))
    (fun _ _ => delete_holdsBack (.refl w))).always

end Sync

end Timesheet
