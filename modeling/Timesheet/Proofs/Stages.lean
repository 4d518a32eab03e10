import Timesheet.Proofs.Calls

/-!
Exact laws of the stages of a save. The rules with which a predicate is kept do not tell success
from failure; these laws do, and later modules use them where the two part.
-/
namespace Timesheet

/-- The store after the days of a saved entry have been classified anew. -/
def Store.reclassifyDays (s : Store) (user : UserId) (e : TimeEntry) (previous : Option TimeEntry) :
    Store :=
  let classified := (s.reclassifyDay user e.day).2
  match previous with
  | none => classified
  | some p => if p.day = e.day then classified else (classified.reclassifyDay user p.day).2

namespace Sync

variable {σ α : Type} {tracker : Tracker σ} {user : UserId} {id : EntryId} {e : TimeEntry}
  {w : World σ}

theorem leads_send {c : Connection} {r : Request} {Q : r.Answer → World σ → Prop}
    {E : SyncError → World σ → Prop} :
    (send tracker c r).Leads Q E w ↔
      match (tracker c r w.remote).1 with
      | .ok answer => Q answer (w.note ⟨c, r, .ok answer, w.store⟩ (tracker c r w.remote).2)
      | .error err =>
        E (.tracker err) (w.note ⟨c, r, .error err, w.store⟩ (tracker c r w.remote).2) := by
  rw [send, leads_bind, leads_ask]
  cases (tracker c r w.remote).1 <;> exact Iff.rfl

theorem leads_connect {system : SystemId} {target : TicketSystem}
    {Q : Connection → World σ → Prop} {E : SyncError → World σ → Prop} :
    (connect tracker user system target).Leads Q E w ↔
      match w.store.token? user system with
      | some token =>
        (send tracker ⟨system, target, token⟩ .connect).Leads
          (fun _ => Q ⟨system, target, token⟩) E w
      | none =>
        E (.missingToken (((w.store.user? user).map (·.name)).getD (toString user)) target.name)
          w := by
  rw [connect, leads_bind, leads_store]
  cases w.store.token? user system with
  | none => exact Iff.rfl
  | some token =>
      dsimp only
      rw [leads_bind]
      exact Iff.rfl

theorem leads_writeWorklog {c : Connection} {content : WorklogDraft} {Q : String → World σ → Prop}
    {E : SyncError → World σ → Prop} :
    (writeWorklog tracker c e content).Leads Q E w ↔
      match e.worklog with
      | none => (send tracker c (.createWorklog e.ticket content)).Leads Q E w
      | some worklog =>
        (ask tracker c (.updateWorklog e.ticket worklog content)).Leads
          (fun reply w' =>
            match reply with
            | .ok _ => Q worklog w'
            | .error (.missing _) =>
              (send tracker c (.createWorklog e.ticket content)).Leads Q E w'
            | .error err => E (.tracker err) w') E w := by
  unfold writeWorklog
  cases e.worklog with
  | none => exact Iff.rfl
  | some worklog =>
      dsimp only
      rw [leads_bind]
      refine leads_congr (fun reply w' => ?_) (fun _ _ => Iff.rfl)
      rcases reply with (detail | what | ⟨text, causes⟩) | answer <;> exact Iff.rfl

section Stages
variable {r : Route} {Q : Unit → TimeEntry → World σ → Prop}
  {E : SyncError → TimeEntry → World σ → Prop}

theorem leads_resolveInternal {key : String} :
    (resolveInternal tracker id r key).Leads Q E e w ↔
      if identifier e = "" then Q () e w
      else (connect tracker e.user r.id r.system).Leads
        (fun c => (internalIssue tracker c key ⟨identifier e, e.description⟩).Leads
          (fun ticket w' =>
            match w'.store.saveEntry id (e.retitled (identifier e) ticket) with
            | .ok s => Q () (e.retitled (identifier e) ticket) (w'.put s)
            | .error err => E (.storage err) (e.retitled (identifier e) ticket) w')
          (fun err => E err e))
        (fun err => E err e) w := by
  unfold resolveInternal
  rw [Working.leads_bind, Working.leads_get]
  dsimp only
  split
  · exact Iff.rfl
  · rw [Working.leads_bind, Working.leads_lift, leads_bind]
    refine leads_congr (fun c w₁ => ?_) (fun _ _ => Iff.rfl)
    refine leads_congr (fun ticket w₂ => ?_) (fun _ _ => Iff.rfl)
    exact Working.leads_set_save (e.retitled (identifier e) ticket)

theorem leads_book :
    (book tracker id r).Leads Q E e w ↔
      if e.ticket = "" then Q () e w
      else (connect tracker e.user r.id r.system).Leads
        (fun c w' => (writeWorklog tracker c e (draft w'.store id e)).Leads
          (fun worklog w'' =>
            if e.worklog ≠ some worklog then
              match w''.store.saveEntry id (e.withWorklog (some worklog)) with
              | .ok s => Q () (e.withWorklog (some worklog)) (w''.put s)
              | .error err => E (.storage err) (e.withWorklog (some worklog)) w''
            else Q () e w'')
          (fun err => E err e) w')
        (fun err => E err e) w := by
  unfold book
  rw [Working.leads_bind, Working.leads_get]
  split
  · exact Iff.rfl
  · rw [Working.leads_bind, Working.leads_lift, leads_bind]
    refine leads_congr (fun c w₁ => ?_) (fun _ _ => Iff.rfl)
    rw [leads_bind, leads_store]
    refine leads_congr (fun worklog w₂ => ?_) (fun _ _ => Iff.rfl)
    split
    · exact Working.leads_set_save (e.withWorklog (some worklog))
    · exact Iff.rfl

theorem leads_settle {Q : Option Route → TimeEntry → World σ → Prop} :
    (settle tracker id).Leads Q E e w ↔
      (retryPending tracker e.user).Leads
        (fun _ w' =>
          match w'.store.project? e.project with
          | none => E (.projectNotFound e.project) e w'
          | some project =>
            match Route.ofProject w'.store project with
            | .error err => E err e w'
            | .ok route =>
              match route.filter (·.books) with
              | none => Q none e w'
              | some r =>
                match r.internalKey with
                | none => Q (some r) e w'
                | some key =>
                  (resolveInternal tracker id r key).Leads (fun _ => Q (some r)) E e w')
        (fun err => E err e) w := by
  unfold settle
  simp only [Working.leads_bind, Working.leads_get, Working.leads_lift, leads_bind]
  refine leads_congr (fun _ w₁ => ?_) (fun _ _ => Iff.rfl)
  rw [leads_bind, leads_store]
  cases w₁.store.project? e.project with
  | none => exact Iff.rfl
  | some project =>
      dsimp only
      rw [leads_bookingRoute]
      cases Route.ofProject w₁.store project with
      | error err => exact Iff.rfl
      | ok route =>
          dsimp only
          generalize route.filter (·.books) = booking
          rcases booking with _ | r
          · exact Iff.rfl
          · dsimp only
            generalize r.internalKey = internal
            rcases internal with _ | key
            · exact Iff.rfl
            · dsimp only
              rw [Working.leads_bind]
              exact Iff.rfl

/-- What holds after the retries leads to the end of settling: if the route of the project cannot be
told, if there is no internal project to search, and through a search. -/
theorem settle_stages {A : World σ → Prop} {Q : TimeEntry → World σ → Prop}
    (retried : (retryPending tracker e.user).Leads (fun _ => A) (fun err => E err e) w)
    (unrouted : ∀ {err w'}, A w' → (∀ p route, w'.store.project? e.project = some p →
      Route.ofProject w'.store p ≠ .ok route) → E err e w')
    (unsearched : ∀ {w' p route}, A w' → w'.store.project? e.project = some p →
      Route.ofProject w'.store p = .ok route →
      (w'.store.bookingRoute? e.project).bind Route.internalKey = none → Q e w')
    (searched : ∀ {w' p route r key}, A w' → w'.store.project? e.project = some p →
      Route.ofProject w'.store p = .ok route → w'.store.bookingRoute? e.project = some r →
      r.internalKey = some key → (resolveInternal tracker id r key).Leads (fun _ => Q) E e w') :
    (settle tracker id).Leads (fun _ => Q) E e w := by
  rw [leads_settle]
  refine retried.mono ?_ (fun _ _ h => h)
  intro _ w₁ hA
  cases hproject : w₁.store.project? e.project with
  | none => exact unrouted hA (by simp [hproject])
  | some project =>
      dsimp only
      cases hroute : Route.ofProject w₁.store project with
      | error err =>
          refine unrouted hA fun p route hp hr => ?_
          obtain rfl : project = p := Option.some.inj (hproject.symm.trans hp)
          rw [hroute] at hr
          cases hr
      | ok route =>
          dsimp only
          rw [← bookingRoute?_of_ok hproject hroute]
          cases hr : w₁.store.bookingRoute? e.project with
          | none => exact unsearched hA hproject hroute (by simp [hr])
          | some r =>
              dsimp only
              cases hkey : r.internalKey with
              | none => exact unsearched hA hproject hroute (by simp [hr, hkey])
              | some key => exact searched hA hproject hroute hr hkey

end Stages

theorem reclassifyDays_keeps {K : World σ → Prop} (classes : BearsClasses K) (hK : K w)
    (e : TimeEntry) (previous : Option TimeEntry) :
    K (w.put (w.store.reclassifyDays user e previous)) := by
  have hday : K (w.put (w.store.reclassifyDay user e.day).2) := reclassifyDay_keeps classes hK e.day
  unfold Store.reclassifyDays
  rcases previous with _ | p
  · exact hday
  · dsimp only
    split
    · exact hday
    · exact reclassifyDay_keeps classes hday p.day

/-- Classifying anew leaves an alert as it is. Without one it may give an alert of its own. -/
def OutlivesClasses (earlier alert : Option Alert) : Prop :=
  alert = earlier ∨ earlier = none ∧ ∃ err, alert = some ⟨.reclassification, .storage err⟩

theorem OutlivesClasses.trans {first second third : Option Alert}
    (h : OutlivesClasses first second) (h' : OutlivesClasses second third) :
    OutlivesClasses first third := by
  rcases h' with rfl | ⟨rfl, herr⟩
  · exact h
  · rcases h with hnone | ⟨-, err, hsome⟩
    · exact .inr ⟨hnone.symm, herr⟩
    · cases hsome

theorem OutlivesClasses.some_iff {a : Alert} {alert : Option Alert} :
    OutlivesClasses (some a) alert ↔ alert = some a := by
  simp [OutlivesClasses]

/-- The alert that classifying a day anew gives where there was none before. -/
def classAlert : Except StorageError Nat → Option Alert
  | .ok _ => none
  | .error err => some ⟨.reclassification, .storage err⟩

theorem leads_alertingReclassify_iff {day : Date} {earlier : Option Alert}
    {Q : Option Alert → World σ → Prop} {E : SyncError → World σ → Prop} :
    (alertingReclassify user day earlier).Leads Q E w ↔
      Q (earlier <|> classAlert (w.store.reclassifyDay user day).1)
        (w.put (w.store.reclassifyDay user day).2) := by
  unfold alertingReclassify reclassify
  simp only [leads_bind, leads_alerting, leads_store, leads_change]
  cases (w.store.reclassifyDay user day).1 <;> exact Iff.rfl

theorem leads_alertingReclassify {day : Date} {earlier : Option Alert}
    {Q : Option Alert → World σ → Prop} {E : SyncError → World σ → Prop}
    (h : ∀ alert, OutlivesClasses earlier alert →
      Q alert (w.put (w.store.reclassifyDay user day).2)) :
    (alertingReclassify user day earlier).Leads Q E w := by
  refine leads_alertingReclassify_iff.mpr (h _ ?_)
  cases earlier with
  | some a => exact .inl rfl
  | none =>
      cases (w.store.reclassifyDay user day).1 with
      | ok written => exact .inl rfl
      | error err => exact .inr ⟨rfl, err, rfl⟩

theorem leads_alertingReclassifyDays {previous : Option TimeEntry} {earlier : Option Alert}
    {Q : Option Alert → World σ → Prop} {E : SyncError → World σ → Prop}
    (h : ∀ alert, OutlivesClasses earlier alert →
      Q alert (w.put (w.store.reclassifyDays user e previous))) :
    (alertingReclassifyDays user e previous earlier).Leads Q E w := by
  unfold alertingReclassifyDays
  rw [leads_bind]
  apply leads_alertingReclassify
  intro alert halert
  unfold Store.reclassifyDays at h
  rcases previous with _ | p
  · exact h alert halert
  · by_cases hday : p.day = e.day
    · simp only [if_pos hday] at h ⊢
      exact h alert halert
    · simp only [if_neg hday] at h ⊢
      apply leads_alertingReclassify
      intro alert' halert'
      exact h alert' (halert.trans halert')

theorem leads_followUp {previous : Option TimeEntry} {Q : Saved → World σ → Prop}
    {E : SyncError → World σ → Prop}
    (h : (reconcile tracker id previous).Leads
      (fun _ _ w' => ∀ alert, OutlivesClasses none alert →
        (reload id alert).Leads Q E (w'.put (w'.store.reclassifyDays user e previous)))
      (fun err _ w' =>
        (reload id (some ⟨.sync, err⟩)).Leads Q E
          (w'.put (w'.store.reclassifyDays user e previous))) e w) :
    (followUp tracker user id e previous).Leads Q E w := by
  unfold followUp
  rw [leads_bind, leads_alerting, Working.leads_on]
  refine h.mono ?_ ?_
  · intro _ _ w₁ hreload
    rw [leads_bind]
    apply leads_alertingReclassifyDays
    exact hreload
  · intro err _ w₁ hreload
    rw [leads_bind]
    apply leads_alertingReclassifyDays
    intro alert halert
    rw [OutlivesClasses.some_iff.mp halert]
    exact hreload

/-- Without an alert the work-log was brought up to date. What holds of the stored entry then, and
whatever its class, holds of the entry that is given back. -/
theorem followUp_unalerted {previous : Option TimeEntry} {K : TimeEntry → World σ → Prop}
    (reconciled : (reconcile tracker id previous).Leads (fun _ => K) (fun _ _ _ => True) e w)
    (classes : BearsClasses fun w => ∃ e, K e w)
    (stored : ∀ {e w}, K e w → w.store.entryAt id = .ok (some e)) :
    (followUp tracker user id e previous).Leads
      (fun saved w' => saved.alert = none → saved.id = id ∧ K saved.entry w')
      (fun _ _ => True) w := by
  apply leads_followUp
  refine reconciled.mono ?_ ?_
  · intro _ e₁ w₁ hK alert _
    obtain ⟨e₂, hK₂⟩ : ∃ e₂, K e₂ (w₁.put (w₁.store.reclassifyDays user e previous)) :=
      reclassifyDays_keeps classes ⟨e₁, hK⟩ e previous
    rw [leads_reload, stored hK₂]
    exact fun _ => ⟨rfl, hK₂⟩
  · intro err e₁ w₁ _
    rw [leads_reload]
    split
    · trivial
    · trivial
    · exact nofun

end Sync

end Timesheet
