import Timesheet.Proofs.Conversation
import Timesheet.Proofs.Refusal

/-!
Credentials: all that a call sends goes through connections to which its user is admitted, also
where the call retries what an earlier one left pending.
-/
namespace Timesheet

namespace Sync

variable {σ : Type} {tracker : Tracker σ} {user : UserId} {id : EntryId} {s : Store}
  {start : List Exchange} {w w' : World σ} {P : List Exchange → Prop}

/-- The catalog is that of `s`, in which the user is admitted to all connections that were used
after `start`. -/
def Accredited (s : Store) (user : UserId) (start : List Exchange) (w : World σ) : Prop :=
  s.SameCatalog w.store ∧ SentOnly (fun x => s.Admits user x.connection) start w

theorem Accredited.adds (h : Accredited s user start w) (hs : w.store.SameCatalog w'.store)
    (hsent : Adds P w.journal w'.journal)
    (hP : ∀ sent, P sent → ∀ x ∈ sent, w.store.Admits user x.connection) :
    Accredited s user start w' := by
  obtain ⟨hcatalog, earlier, hj, hearlier⟩ := h
  obtain ⟨sent, hj', hsent⟩ := hsent
  refine ⟨hcatalog.trans hs, earlier ++ sent, by rw [hj', hj, List.append_assoc], ?_⟩
  refine List.forall_mem_append.mpr ⟨hearlier, fun x hx => ?_⟩
  exact (hcatalog.admits_iff user x.connection).mp (hP sent hsent x hx)

theorem accredited_bearsClasses : BearsClasses (Accredited (σ := σ) s user start) :=
  fun _ _ h hs => ⟨h.1.trans (Store.saveClass_sameCatalog hs), h.2.put _⟩

theorem save_accredits {target : Option EntryId} {input : EntryInput}
    (h : Accredited s user start w) :
    (save tracker user target input).Leads (fun _ => Accredited s user start)
      (fun _ => Accredited s user start) w := by
  refine (save_adds.and save_refuses).mono ?_ (fun _ _ hw => hw.2 ▸ h)
  rintro saved w' ⟨⟨left, -, hleft, hsent⟩, hcatalog⟩
  exact h.adds hcatalog hsent fun sent hcourse => hcourse.admits fun d hd => (hleft d hd).1

theorem delete_accredits (h : Accredited s user start w) :
    (delete tracker user id).Leads (fun _ => Accredited s user start)
      (fun _ => Accredited s user start) w := by
  refine (delete_keeps (fun {e} _ hown => ?_) accredited_bearsClasses).mono (fun _ _ h => h)
    (fun _ _ hw => hw ▸ h)
  have herased : ∀ {w' : World σ}, Adds (Clearing w.store e) w.journal w'.journal →
      w.store.OnlyStale w'.store → Accredited s user start (w'.put (w'.store.eraseEntry id)) := by
    intro w' hsent honly
    refine h.adds (honly.sameCatalog.trans rfl) hsent ?_
    rintro sent ⟨rows, hdeletions, husers, -⟩
    exact hdeletions.admits fun d hd => (husers d hd).trans hown
  refine (removeWorklog_adds.and (removeWorklog_keeps (K := fun _ => True) .const (fun _ => trivial)
    (fun _ _ _ _ => trivial) (fun _ _ _ _ => trivial))).mono ?_ ?_
  · rintro - w' ⟨hsent, -, honly, -⟩
    exact herased hsent honly
  · rintro err w' ⟨hsent, -, honly⟩
    exact herased hsent honly

theorem next_accredits (c : Call σ) (w : World σ) :
    Accredited w.store c.user w.journal (w.next (.call c)) := by
  have h : Accredited w.store c.user w.journal w := ⟨.refl _, .refl w⟩
  exact (work_keeps h (fun _ _ h => save_accredits h) (fun _ _ _ => save_accredits h)
    (fun _ _ => delete_accredits h)).always

end Sync

end Timesheet
