import Mathlib.Data.List.Induction
import Timesheet.Proofs.Retry

/-!
What the journal says about work-logs: which were created, which are gone, and which are
outstanding, that is, created and not known to be gone since.
-/
namespace Timesheet

structure Worklog where
  system : SystemId
  ticket : String
  id : String
deriving DecidableEq

namespace Exchange

def created? : Exchange → Option Worklog
  | ⟨c, .createWorklog ticket _, .ok id, _⟩ => some ⟨c.id, ticket, id⟩
  | _ => none

/-- The work-log that is gone after the exchange: its deletion was confirmed, or an update did not
find it. -/
def gone? : Exchange → Option Worklog
  | ⟨c, .deleteWorklog ticket id, reply, _⟩ =>
    if confirmsGone reply then some ⟨c.id, ticket, id⟩ else none
  | ⟨c, .updateWorklog ticket id _, .error (.missing _), _⟩ => some ⟨c.id, ticket, id⟩
  | _ => none

/-- The request is about no work-log, and it does not change what the tracker has. -/
def Idle (x : Exchange) : Prop := x.request = .connect ∨ ∃ issue, x.request = .subtickets issue

end Exchange

def createdIn (journal : List Exchange) : List Worklog := journal.filterMap Exchange.created?

/-- The work-log was created, and nothing since then told that it is gone. -/
def Outstanding (journal : List Exchange) (g : Worklog) : Prop :=
  ∃ before x later, journal = before ++ x :: later ∧ x.created? = some g ∧
    ∀ y ∈ later, y.gone? ≠ some g

/-- No identifier was given to two work-logs. -/
def FreshIds (journal : List Exchange) : Prop := ((createdIn journal).map Worklog.id).Nodup

variable {journal : List Exchange} {x : Exchange} {g : Worklog}

@[simp] theorem createdIn_append :
    createdIn (journal ++ [x]) = createdIn journal ++ x.created?.toList := by
  cases h : x.created? <;> simp [createdIn, h]

theorem FreshIds.of_append {later : List Exchange} (h : FreshIds (journal ++ later)) :
    FreshIds journal := by
  unfold FreshIds createdIn at *
  rw [List.filterMap_append, List.map_append] at h
  exact (List.nodup_append.mp h).1

theorem FreshIds.new (h : FreshIds (journal ++ [x])) (hx : x.created? = some g) :
    g.id ∉ (createdIn journal).map Worklog.id := by
  unfold FreshIds at h
  rw [createdIn_append, hx, Option.toList_some, List.map_append] at h
  intro hmem
  exact (List.nodup_append.mp h).2.2 _ hmem _ (by simp) rfl

theorem Exchange.eq_of_update_gone {c : Connection} {ticket id : String} {draft : WorklogDraft}
    {reply : Except TrackerError Unit} {s : Store}
    (h : (Exchange.mk c (.updateWorklog ticket id draft) reply s).gone? = some g) :
    g = ⟨c.id, ticket, id⟩ := by
  rcases reply with (what | detail | ⟨text, causes⟩) | _ <;> simp [gone?] at h
  exact h.symm

theorem outstanding_append :
    Outstanding (journal ++ [x]) g ↔
      x.created? = some g ∨ Outstanding journal g ∧ x.gone? ≠ some g := by
  constructor
  · rintro ⟨before, y, later, hsplit, hy, hlater⟩
    rcases List.eq_nil_or_concat later with rfl | ⟨front, last, rfl⟩
    · have hxy : x = y := by simpa using (List.append_inj' hsplit rfl).2
      exact .inl (hxy ▸ hy)
    · have hcut : journal ++ [x] = (before ++ y :: front) ++ [last] := by simpa using hsplit
      obtain ⟨hj, hlast⟩ := List.append_inj' hcut rfl
      obtain rfl : x = last := by simpa using hlast
      refine .inr ⟨⟨before, y, front, hj, hy, fun z hz => hlater z (by simp [hz])⟩, ?_⟩
      exact hlater x (by simp)
  · rintro (hx | ⟨⟨before, y, later, rfl, hy, hlater⟩, hx⟩)
    · exact ⟨journal, x, [], rfl, hx, by simp⟩
    · refine ⟨before, y, later ++ [x], by simp, hy, fun z hz => ?_⟩
      rcases List.mem_append.mp hz with hz | hz
      · exact hlater z hz
      · simp only [List.mem_singleton] at hz
        exact hz ▸ hx

theorem Outstanding.created (h : Outstanding journal g) : g ∈ createdIn journal := by
  obtain ⟨before, x, later, rfl, hx, -⟩ := h
  exact List.mem_filterMap.mpr ⟨x, by simp, hx⟩

@[simp] theorem not_outstanding_nil : ¬ Outstanding [] g := by
  rintro ⟨before, x, later, h, -⟩
  simp at h

def outstandingIn (journal : List Exchange) : List Worklog :=
  journal.foldl (fun live x => live.filter (fun g => x.gone? ≠ some g) ++ x.created?.toList) []

theorem mem_outstandingIn : g ∈ outstandingIn journal ↔ Outstanding journal g := by
  induction journal using List.reverseRecOn with
  | nil => simp [outstandingIn]
  | append_singleton front x ih =>
      rw [outstanding_append, ← ih]
      simp only [outstandingIn, List.foldl_append, List.foldl_cons, List.foldl_nil, List.mem_append,
        List.mem_filter, decide_eq_true_eq, Option.mem_toList]
      exact or_comm

instance : Decidable (Outstanding journal g) := decidable_of_iff _ mem_outstandingIn

instance : Decidable (FreshIds journal) := inferInstanceAs (Decidable (List.Nodup _))

/-- Of what was sent after `start`, all is `P`. -/
def SentOnly {σ : Type} (P : Exchange → Prop) (start : List Exchange) (w : World σ) : Prop :=
  ∃ sent, w.journal = start ++ sent ∧ ∀ x ∈ sent, P x

section SentOnly
variable {σ : Type} {P : Exchange → Prop} {start : List Exchange} {w : World σ}

theorem SentOnly.refl (w : World σ) : SentOnly P w.journal w := ⟨[], by simp, by simp⟩

theorem SentOnly.note {x : Exchange} (h : SentOnly P start w) (remote : σ) (hx : P x) :
    SentOnly P start (w.note x remote) := by
  obtain ⟨sent, hj, hsent⟩ := h
  refine ⟨sent ++ [x], by simp [hj], ?_⟩
  intro y hy
  rcases List.mem_append.mp hy with hy | hy
  · exact hsent y hy
  · rw [List.mem_singleton.mp hy]
    exact hx

theorem SentOnly.anything (h : SentOnly P start w) : SentOnly (fun _ => True) start w := by
  obtain ⟨sent, hj, -⟩ := h
  exact ⟨sent, hj, fun _ _ => trivial⟩

theorem SentOnly.put (h : SentOnly P start w) (s : Store) : SentOnly P start (w.put s) := h

end SentOnly

end Timesheet
