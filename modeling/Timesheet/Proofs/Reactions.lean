import Timesheet.Net.Script
import Timesheet.Proofs.Answers
import Timesheet.Proofs.Passes
import Timesheet.Proofs.Stages

/-!
What the answers of a server decide for work-logs. A pending deletion is forgotten exactly if its
request is answered with a success or with 404, and a work-log is created in place of another
exactly if the update is answered with 404.
-/
namespace Timesheet

open Net (Transport Recorded HttpExchange)
open Jira (SaysGone deleteCall updateCall)

variable {σ : Type}

def Sync.final {α : Type} (work : Sync σ α) (w : World σ) : World σ := (outcome work w).2

/-- For the deletion of `d` at most one request was sent, over the connection of its user. -/
def Store.Deletes (s : Store) (d : StaleWorklog) (sent : List HttpExchange) : Prop :=
  sent = [] ∨ ∃ c, c.id = d.system ∧ s.Admits d.user c ∧
    ∃ x, sent = [x] ∧ (deleteCall d.ticket d.worklog).request? c = some x.request

/-- A pending deletion that was tried, with what went over the network, and whether it was forgotten
afterwards. -/
structure WebTrial where
  id : StaleId
  deletion : StaleWorklog
  sent : List HttpExchange
  settled : Bool

def WebTrial.row (t : WebTrial) : StaleId × StaleWorklog := (t.id, t.deletion)

def forgotten (trials : List WebTrial) : List StaleId :=
  (trials.filter WebTrial.settled).map WebTrial.id

/-- The answer decides. -/
structure WebTrial.Fair (s : Store) (t : WebTrial) : Prop where
  sent : s.Deletes t.deletion t.sent
  decided : ∀ x ∈ t.sent, (t.settled = true ↔ SaysGone x)

/-- What the work on work-logs relies on. To connect sends nothing, and the answers decide what
becomes of deletions and updates. -/
structure Answering (tracker : Tracker (Recorded σ)) : Prop where
  records : ∀ c request m, ∃ sent, (tracker c request m).2.log = m.log ++ sent
  connect : ∀ c m, (tracker c .connect m).2 = m
  delete : ∀ c ticket worklog m, ∃ sent reply m',
    tracker c (.deleteWorklog ticket worklog) m = (reply, m') ∧ m'.log = m.log ++ sent ∧
      (deleteCall ticket worklog).AtMost c sent ∧
      (confirmsGone reply = true ↔ ∃ x ∈ sent, SaysGone x)
  update : ∀ c ticket worklog content m, ∃ sent reply m',
    tracker c (.updateWorklog ticket worklog content) m = (reply, m') ∧ m'.log = m.log ++ sent ∧
      (updateCall ticket worklog content).AtMost c sent ∧
      ((∃ resource, reply = .error (.missing resource)) ↔ ∃ x ∈ sent, x.status? = some 404)

theorem Jira.tracker_answering (transport : Transport σ) :
    Answering (Jira.tracker transport.recorded) where
  records c request m := by
    obtain ⟨sent, _, m', hrun, hlog, -⟩ := (Jira.respond_shows transport c request).tracker m
    exact ⟨sent, by rw [hrun, hlog]⟩
  connect c m := by
    unfold Jira.tracker Jira.respond
    by_cases hkind : c.system.kind = .jira
    · simp only [if_pos hkind]
      rfl
    · simp only [if_neg hkind]
      rfl
  delete := Jira.delete_answered transport
  update := Jira.update_answered transport

variable {tracker : Tracker (Recorded σ)} {s s' : Store} {d : StaleWorklog} {w : World (Recorded σ)}

/-- From `w` the trial of the rows led to `w'`. -/
structure Sends (s : Store) (rows : List (StaleId × StaleWorklog)) (w w' : World (Recorded σ))
    (trials : List WebTrial) : Prop where
  rows : trials.map WebTrial.row = rows
  fair : ∀ t ∈ trials, t.Fair s
  log : w'.remote.log = w.remote.log ++ trials.flatMap WebTrial.sent
  store : w'.store = w.store.forgetEach (forgotten trials)

theorem sends_one {t : WebTrial} {w' : World (Recorded σ)} (hfair : t.Fair s)
    (hlog : w'.remote.log = w.remote.log ++ t.sent)
    (hstore : w'.store = w.store.forgetEach (forgotten [t])) : Sends s [t.row] w w' [t] where
  rows := rfl
  fair := List.forall_mem_singleton.mpr hfair
  log := by rw [hlog, List.flatMap_singleton]
  store := hstore

theorem Sends.append {rows rows' : List (StaleId × StaleWorklog)} {w' w'' : World (Recorded σ)}
    {trials trials' : List WebTrial} (h : Sends s rows w w' trials)
    (h' : Sends s rows' w' w'' trials') : Sends s (rows ++ rows') w w'' (trials ++ trials') where
  rows := by rw [List.map_append, h.rows, h'.rows]
  fair := List.forall_mem_append.mpr ⟨h.fair, h'.fair⟩
  log := by rw [h'.log, h.log, List.append_assoc, List.flatMap_append]
  store := by
    rw [h'.store, h.store, forgotten, forgotten, forgotten, List.filter_append, List.map_append]
    exact List.foldl_append.symm

theorem Sends.removed_iff {user : UserId} {w' : World (Recorded σ)} {trials : List WebTrial}
    (h : Sends s (w.store.pendingOf user) w w' trials) {t : WebTrial} (ht : t ∈ trials) :
    t.row ∉ w'.store.stale.rows ↔ t.settled = true := by
  have hdistinct : (trials.map WebTrial.id).Nodup := by
    have hids : trials.map WebTrial.id = (w.store.pendingOf user).map (·.1) := by
      rw [← h.rows, List.map_map]
      rfl
    rw [hids]
    exact w.store.nodup_pendingOf user
  have hrow : t.row ∈ w.store.stale.rows := by
    have hpending : t.row ∈ w.store.pendingOf user := h.rows ▸ List.mem_map_of_mem ht
    exact (Store.mem_pendingOf.mp hpending).1
  rw [h.store, Store.rows_forgetEach, List.mem_filter, decide_eq_true_iff]
  have hforgotten : t.row.1 ∈ forgotten trials ↔ t.settled = true :=
    mem_map_filter_iff hdistinct ht
  rw [hforgotten]
  simp [hrow]

namespace Sync

theorem deletePending_sends (h : Answering tracker) {id : StaleId} (hs : s.SameCatalog w.store) :
    (deletePending tracker id d).Leads (fun _ w' => ∃ trials, Sends s [(id, d)] w w' trials)
      (fun _ w' => ∃ trials, Sends s [(id, d)] w w' trials) w := by
  have hunsent : ∀ settled, WebTrial.Fair s ⟨id, d, [], settled⟩ := fun _ => ⟨.inl rfl, nofun⟩
  unfold deletePending
  rw [leads_bind, leads_store]
  cases hsystem : w.store.system? d.system with
  | none => exact ⟨_, sends_one (hunsent true) (List.append_nil _).symm rfl⟩
  | some system =>
      rw [leads_bind, leads_connect]
      cases htoken : w.store.token? d.user d.system with
      | none => exact ⟨_, sends_one (hunsent false) (List.append_nil _).symm rfl⟩
      | some token =>
          dsimp only
          rw [leads_send, h.connect]
          cases (tracker ⟨d.system, system, token⟩ .connect w.remote).1 with
          | error err => exact ⟨_, sends_one (hunsent false) (List.append_nil _).symm rfl⟩
          | ok _ =>
              dsimp only
              rw [leads_bind, leads_ask]
              dsimp only [World.note]
              obtain ⟨sent, reply, m, hdelete, hlog, hsent, hgone⟩ :=
                h.delete ⟨d.system, system, token⟩ d.ticket d.worklog w.remote
              have hfair : WebTrial.Fair s ⟨id, d, sent, confirmsGone reply⟩ := by
                refine ⟨?_, fun x hx => hgone.trans (hsent.exists_iff hx)⟩
                rcases hsent with hnone | hone
                · exact .inl hnone
                · exact .inr ⟨⟨d.system, system, token⟩, rfl,
                    (hs.admits_iff _ _).mp ⟨hsystem, htoken⟩, hone⟩
              rw [hdelete]
              rcases reply with (detail | resource | ⟨text, causes⟩) | _
              all_goals exact ⟨_, sends_one hfair hlog rfl⟩

theorem deleteAll_sends (h : Answering tracker) {rows : List (StaleId × StaleWorklog)}
    (hs : s.SameCatalog w.store) :
    (deleteAll tracker rows).Leads (fun _ w' => ∃ trials, Sends s rows w w' trials)
      (fun _ _ => False) w := by
  induction rows generalizing w with
  | nil => exact ⟨[], rfl, nofun, (List.append_nil _).symm, rfl⟩
  | cons row rest ih =>
      obtain ⟨id, d⟩ := row
      have hrest : ∀ w₁, (∃ trials, Sends s [(id, d)] w w₁ trials) →
          (deleteAll tracker rest).Leads
            (fun _ w' => ∃ trials, Sends s ((id, d) :: rest) w w' trials)
            (fun _ _ => False) w₁ := by
        rintro w₁ ⟨trials, hfirst⟩
        have hcatalog : s.SameCatalog w₁.store := by
          rw [hfirst.store]
          exact hs.trans (Store.onlyStale_forgetEach _).sameCatalog
        refine (ih hcatalog).mono ?_ (fun _ _ h => h)
        rintro _ w₂ ⟨later, hlater⟩
        exact ⟨_, hfirst.append hlater⟩
      unfold deleteAll
      rw [leads_bind, leads_attempt]
      refine (deletePending_sends h hs).mono ?_ ?_
      · intro _ w₁ hfirst
        rw [leads_bind]
        exact hrest w₁ hfirst
      · intro err w₁ hfirst
        rw [leads_bind]
        exact hrest w₁ hfirst

theorem retryPending_sends (h : Answering tracker) (user : UserId) (w : World (Recorded σ)) :
    ∃ trials, Sends w.store (w.store.pendingOf user) w ((retryPending tracker user).final w)
      trials := by
  suffices hsends : (retryPending tracker user).Leads
      (fun _ w' => ∃ trials, Sends w.store (w.store.pendingOf user) w w' trials)
      (fun _ w' => ∃ trials, Sends w.store (w.store.pendingOf user) w w' trials) w from
    hsends.always
  unfold retryPending
  rw [leads_bind, leads_store, leads_bind]
  refine (deleteAll_sends h (.refl w.store)).mono ?_ (fun _ _ h => h.elim)
  intro failure w' hsends
  cases failure <;> exact hsends

end Sync

/-- From `w`, where the work-log `worklog` was to be written for `e`, this led to `w'`. -/
structure Writes (c : Connection) (e : TimeEntry) (worklog : String) (content : WorklogDraft)
    (w w' : World (Recorded σ)) (sent later : List HttpExchange) (calls : List Exchange) :
    Prop where
  update : (updateCall e.ticket worklog content).AtMost c sent
  log : w'.remote.log = w.remote.log ++ sent ++ later
  journal : w'.journal = w.journal ++ calls
  /-- It is created anew only after 404. -/
  creates_iff : (∃ y ∈ calls, y.request = .createWorklog e.ticket content) ↔
    ∃ x ∈ sent, x.status? = some 404
  quiet : (∀ x ∈ sent, x.status? ≠ some 404) → later = []

theorem Sync.writeWorklog_sends (h : Answering tracker) {c : Connection} {e : TimeEntry}
    {worklog : String} {content : WorklogDraft} (hworklog : e.worklog = some worklog) :
    ∃ sent later calls, Writes c e worklog content w
      ((writeWorklog tracker c e content).final w) sent later calls := by
  suffices hwrites : (writeWorklog tracker c e content).Leads
      (fun _ w' => ∃ sent later calls, Writes c e worklog content w w' sent later calls)
      (fun _ w' => ∃ sent later calls, Writes c e worklog content w w' sent later calls) w from
    hwrites.always
  rw [leads_writeWorklog, hworklog]
  dsimp only
  rw [leads_ask]
  obtain ⟨sent, reply, m, hrun, hlog, hsent, hmissing⟩ :=
    h.update c e.ticket worklog content w.remote
  have hquiet : (¬ ∃ resource, reply = .error (.missing resource)) →
      ∃ sent later calls, Writes c e worklog content w
        (w.note ⟨c, .updateWorklog e.ticket worklog content, reply, w.store⟩ m)
        sent later calls := by
    intro hfound
    refine ⟨sent, [], _, hsent, ?_, rfl, ?_, fun _ => rfl⟩
    · rw [List.append_nil]
      exact hlog
    · rw [← hmissing]
      simp [hfound]
  rw [hrun]
  rcases reply with (detail | resource | ⟨text, causes⟩) | _
  · exact hquiet (by simp)
  · obtain ⟨x, hx, hanswered⟩ := hmissing.mp ⟨resource, rfl⟩
    obtain ⟨later, hlater⟩ := h.records c (.createWorklog e.ticket content) m
    dsimp only
    rw [leads_send]
    have hanew : ∀ reply, ∃ sent later calls, Writes c e worklog content w
        ((w.note ⟨c, .updateWorklog e.ticket worklog content, .error (.missing resource), w.store⟩
          m).note ⟨c, .createWorklog e.ticket content, reply, w.store⟩
            (tracker c (.createWorklog e.ticket content) m).2) sent later calls := by
      intro reply
      refine ⟨sent, later, _, hsent, ?_, List.append_assoc _ _ _, ?_, ?_⟩
      · rw [← hlog]
        exact hlater
      · exact iff_of_true ⟨_, List.mem_append_right _ List.mem_cons_self, rfl⟩ ⟨x, hx, hanswered⟩
      · exact fun hnone => absurd hanswered (hnone x hx)
    split
    · exact hanew _
    · exact hanew _
  · exact hquiet (by simp)
  · exact hquiet (by simp)

/-- Ada's ticket system has an address, and three deletions are pending. -/
def connected : Store :=
  { office with
    systems := Table.empty.push ⟨"tracker", .jira, "http://jira.test", true⟩
    stale := ((Table.empty.push ⟨⟨1⟩, ⟨1⟩, "A-1", "11"⟩).push ⟨⟨1⟩, ⟨1⟩, "A-2", "12"⟩).push
      ⟨⟨1⟩, ⟨1⟩, "A-3", "13"⟩ }

def answering (outcomes : List Net.HttpOutcome) : World (Recorded Net.Script) :=
  { store := connected, journal := []
    remote := { network := ⟨"jira.test", 80, outcomes, []⟩, log := [] } }

def jiraTest : Connection := ⟨⟨1⟩, ⟨"tracker", .jira, "http://jira.test", true⟩, ⟨"token", ""⟩⟩

def lostWorklog : TimeEntry :=
  { onOtherTicket.newEntry ⟨1⟩ with ticket := "A-1", worklog := some "11" }

def threeAnswers : World (Recorded Net.Script) :=
  answering [.answered 404 "", .answered 500 "", .answered 204 ""]

def answeredPass : World (Recorded Net.Script) :=
  (Sync.retryPending (Jira.tracker Net.Script.transport.recorded) ⟨1⟩).final threeAnswers

/-- The update is refused with 404, and the work-log is created. -/
def lostAndCreated : World (Recorded Net.Script) :=
  answering [.answered 404 "", .answered 201 "\x7b\"id\": \"21\"\x7d"]

def rewritten : World (Recorded Net.Script) :=
  (Sync.writeWorklog (Jira.tracker Net.Script.transport.recorded) jiraTest lostWorklog
    (Sync.draft connected ⟨1⟩ lostWorklog)).final lostAndCreated

end Timesheet
