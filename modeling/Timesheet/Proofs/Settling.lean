import Timesheet.Proofs.Frame
import Timesheet.Proofs.Ledger

/-!
The first stage of bringing a work-log up to date: the pending deletions are sent, then the route
and the ticket are settled. What holds through the stage is shown once, for every predicate on the
copy and the world that bears the single steps of it.
-/
namespace Timesheet

/-- The entry under the ticket that the internal tracker has for `summary`. -/
def Entry.retitled (e : TimeEntry) (summary ticket : String) : TimeEntry :=
  { e with typed := some summary, ticket }

/-- Requests by which a ticket is looked for in the internal tracker, or opened there. -/
def Request.LooksUp : Request → Prop
  | .search .. => True
  | .createIssue .. => True
  | _ => False

namespace Sync

variable {σ : Type} {tracker : Tracker σ} {id : EntryId} {e : TimeEntry} {w : World σ}

theorem leads_bookingRoute {project : Project} {Q : Option Route → World σ → Prop}
    {E : SyncError → World σ → Prop} :
    (bookingRoute project).Leads Q E w ↔
      match Route.ofProject w.store project with
      | .ok r => Q (r.filter (·.books)) w
      | .error err => E err w := by
  rw [bookingRoute, leads_bind, leads_store, leads_bind, leads_ofExcept]
  cases Route.ofProject w.store project <;> exact Iff.rfl

theorem bookingRoute?_of_ok {s : Store} {pid : ProjectId} {project : Project} {r : Option Route}
    (hp : s.project? pid = some project) (hr : Route.ofProject s project = .ok r) :
    s.bookingRoute? pid = r.filter (·.books) := by
  simp [Store.bookingRoute?, Store.route?, hp, hr, Except.toOption]

theorem bookingRoute?_of_error {s : Store} {pid : ProjectId} {project : Project} {err : SyncError}
    (hp : s.project? pid = some project) (hr : Route.ofProject s project = .error err) :
    s.bookingRoute? pid = none := by
  simp [Store.bookingRoute?, Store.route?, hp, hr, Except.toOption]

theorem bookingRoute?_of_noProject {s : Store} {pid : ProjectId} (hp : s.project? pid = none) :
    s.bookingRoute? pid = none := by
  simp [Store.bookingRoute?, Store.route?, hp]

/-- `I` bears every step before the entry `id` leaves its ticket. -/
structure BearsSettling (id : EntryId) (I : TimeEntry → World σ → Prop) : Prop where
  retry : ∀ e, BearsRetry e.user (I e)
  lookUp : ∀ {e w x} remote, I e w → x.request.LooksUp → x.store = w.store →
    w.store.pendingOf e.user = [] → I e (w.note x remote)
  retitle : ∀ {e w s} summary ticket, I e w →
    w.store.saveEntry id (e.retitled summary ticket) = .ok s →
    I (e.retitled summary ticket) (w.put s)
  retitleFails : ∀ {e w err} summary ticket, I e w →
    w.store.saveEntry id (e.retitled summary ticket) = .error err → I (e.retitled summary ticket) w

theorem BearsSettling.const {P : Prop} : BearsSettling (σ := σ) id fun _ _ => P where
  retry _ := .const
  lookUp _ h _ _ _ := h
  retitle _ _ h _ := h
  retitleFails _ _ h _ := h

theorem BearsSettling.and {I J : TimeEntry → World σ → Prop} (h : BearsSettling id I)
    (h' : BearsSettling id J) : BearsSettling id fun e w => I e w ∧ J e w where
  retry e := (h.retry e).and (h'.retry e)
  lookUp remote hI hx hs hp := ⟨h.lookUp remote hI.1 hx hs hp, h'.lookUp remote hI.2 hx hs hp⟩
  retitle summary ticket hI hs :=
    ⟨h.retitle summary ticket hI.1 hs, h'.retitle summary ticket hI.2 hs⟩
  retitleFails summary ticket hI hs :=
    ⟨h.retitleFails summary ticket hI.1 hs, h'.retitleFails summary ticket hI.2 hs⟩

/-- What every stage leaves as it was, the ticket and the work-log of the copy aside. -/
structure SameWork (e : TimeEntry) (w : World σ) (e' : TimeEntry) (w' : World σ) : Prop where
  user : e'.user = e.user
  project : e'.project = e.project
  catalog : w.store.SameCatalog w'.store

theorem SameWork.refl (e : TimeEntry) (w : World σ) : SameWork e w e w := ⟨rfl, rfl, .refl _⟩

theorem SameWork.trans {e' e'' : TimeEntry} {w' w'' : World σ} (h : SameWork e w e' w')
    (h' : SameWork e' w' e'' w'') : SameWork e w e'' w'' :=
  ⟨h'.user.trans h.user, h'.project.trans h.project, h.catalog.trans h'.catalog⟩

theorem SameWork.bookingRoute?_eq {e' : TimeEntry} {w' : World σ} (h : SameWork e w e' w') :
    w'.store.bookingRoute? e'.project = w.store.bookingRoute? e.project := by
  rw [h.catalog.bookingRoute?_eq, h.project]

theorem internalIssue_keeps {I : World σ → Prop} {c : Connection} {key : String}
    {draft : IssueDraft} (hI : I w) (bears : ∀ {w' x} remote, I w' → w'.store = w.store →
      x.request.LooksUp → x.store = w'.store → I (w'.note x remote)) :
    (internalIssue tracker c key draft).Leads (fun _ w' => I w' ∧ w'.store = w.store)
      (fun _ w' => I w' ∧ w'.store = w.store) w := by
  unfold internalIssue
  rw [leads_bind]
  apply Leads.send
  · intro found remote
    have hI₁ := bears (x := ⟨c, .search (internalQuery key draft.summary) ["key", "summary"]
      internalSearchLimit, .ok found, w.store⟩) remote hI rfl trivial rfl
    cases issueOf draft.summary found with
    | some issue => exact ⟨hI₁, rfl⟩
    | none =>
        apply Leads.send
        · intro answer remote'
          exact ⟨bears remote' hI₁ rfl trivial rfl, rfl⟩
        · intro err remote'
          exact ⟨bears remote' hI₁ rfl trivial rfl, rfl⟩
  · intro err remote
    exact ⟨bears remote hI rfl trivial rfl, rfl⟩

theorem resolveInternal_keeps {I : TimeEntry → World σ → Prop} (bears : BearsSettling id I)
    {r : Route} {key : String} (hI : I e w) (hp : w.store.pendingOf e.user = []) :
    (resolveInternal tracker id r key).Leads
      (fun _ e' w' => I e' w' ∧ SameWork e w e' w' ∧ w'.store.pendingOf e.user = [])
      (fun _ e' w' => I e' w' ∧ SameWork e w e' w') e w := by
  unfold resolveInternal
  rw [Working.leads_bind, Working.leads_get]
  dsimp only
  split
  · exact ⟨hI, .refl e w, hp⟩
  · rw [Working.leads_bind, Working.leads_lift, leads_bind]
    apply Leads.connect
    · intro token remote
      have hI₁ : I e (w.note ⟨⟨r.id, r.system, token⟩, .connect, .ok (), w.store⟩ remote) :=
        (bears.retry e).connect remote hI
      refine (internalIssue_keeps hI₁ ?_).mono ?_ ?_
      · intro w' x remote' hI' hs hx hstore
        exact bears.lookUp remote' hI' hx hstore (by rw [hs]; exact hp)
      · rintro ticket w₂ ⟨hI₂, hs₂⟩
        have hs : w₂.store = w.store := hs₂
        refine (Working.leads_set_save (e.retitled (identifier e) ticket)).mpr ?_
        cases hsave : w₂.store.saveEntry id (e.retitled (identifier e) ticket) with
        | error err =>
            refine ⟨bears.retitleFails _ _ hI₂ hsave, rfl, rfl, ?_⟩
            exact hs ▸ .refl _
        | ok s =>
            have hcat : w.store.SameCatalog s := hs ▸ Store.saveEntry_sameCatalog hsave
            refine ⟨bears.retitle _ _ hI₂ hsave, ⟨rfl, rfl, hcat⟩, ?_⟩
            rw [World.put_store, ← hp, ← hs]
            rw [Store.saveEntry_ok hsave]
            rfl
      · rintro err w₂ ⟨hI₂, hs₂⟩
        exact ⟨hI₂, rfl, rfl, hs₂ ▸ .refl _⟩
    · intro token err remote
      exact ⟨(bears.retry e).connect remote hI, rfl, rfl, .refl _⟩
    · intro err
      exact ⟨hI, .refl e w⟩

/-- When settling succeeds, the user has no pending deletions, and the route is the one that books
the work-logs of the project. -/
theorem settle_keeps {I : TimeEntry → World σ → Prop} (bears : BearsSettling id I) (hI : I e w) :
    (settle tracker id).Leads
      (fun route e' w' => I e' w' ∧ SameWork e w e' w' ∧ w'.store.pendingOf e.user = [] ∧
        route = w.store.bookingRoute? e.project)
      (fun _ e' w' => I e' w' ∧ SameWork e w e' w') e w := by
  unfold settle
  simp only [Working.leads_bind, Working.leads_get, Working.leads_lift, leads_bind]
  refine (retryPending_keeps (bears.retry e) hI).mono ?_ ?_
  · rintro - w₁ ⟨hI₁, honly, hp₁⟩
    have hcat := honly.sameCatalog
    have hw₁ : SameWork e w e w₁ := ⟨rfl, rfl, hcat⟩
    rw [leads_bind, leads_store, hcat.project?_eq]
    cases hproject : w.store.project? e.project with
    | none => exact ⟨hI₁, hw₁⟩
    | some project =>
        rw [leads_bookingRoute, hcat.ofProject_eq]
        cases hroute : Route.ofProject w.store project with
        | error err => exact ⟨hI₁, hw₁⟩
        | ok route =>
            dsimp only
            rw [← bookingRoute?_of_ok hproject hroute]
            rcases w.store.bookingRoute? e.project with _ | r
            · exact ⟨hI₁, hw₁, hp₁, rfl⟩
            · rcases hkey : r.internalKey with _ | key
              · simp only [hkey]
                exact ⟨hI₁, hw₁, hp₁, rfl⟩
              · simp only [hkey, Working.leads_bind]
                refine (resolveInternal_keeps bears hI₁ hp₁).mono ?_ ?_
                · rintro - e₂ w₂ ⟨hI₂, hw₂, hp₂⟩
                  exact ⟨hI₂, hw₁.trans hw₂, hp₂, rfl⟩
                · rintro err e₂ w₂ ⟨hI₂, hw₂⟩
                  exact ⟨hI₂, hw₁.trans hw₂⟩
  · rintro err w₁ ⟨hI₁, honly⟩
    exact ⟨hI₁, rfl, rfl, honly.sameCatalog⟩

theorem settle_sameWork :
    (settle tracker id).Leads
      (fun route e' w' => SameWork e w e' w' ∧ w'.store.pendingOf e.user = [] ∧
        route = w.store.bookingRoute? e.project)
      (fun _ => SameWork e w) e w :=
  (settle_keeps (I := fun _ _ => True) .const trivial).mono (fun _ _ _ h => h.2)
    (fun _ _ _ h => h.2)

end Sync

end Timesheet
