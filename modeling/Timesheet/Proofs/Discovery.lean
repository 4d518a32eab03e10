import Timesheet.Proofs.Incidents
import Timesheet.Proofs.Payloads
import Timesheet.Proofs.Reactions
import Timesheet.Proofs.Refreshes

/-!
The tickets below an issue, as a server tells them. They are all taken from the answers, in order,
and nothing else is. Where an answer fails or cannot be read nothing is given, and a project whose
tickets are collected then keeps those that it had.
-/
namespace Timesheet

open Net (Transport Recorded HttpExchange HttpOutcome)

variable {σ α : Type}

namespace Jira

variable {transport : Transport σ} {c : Connection} {call : Call} {s s' : σ} {x : HttpExchange}
  {j : Json} {read : Json → Option α}

/-- In `s` the call is sent as `x` and answered with a success and the value `j`, which leads to
`s'`. -/
structure Delivered (transport : Transport σ) (c : Connection) (call : Call) (s : σ)
    (x : HttpExchange) (j : Json) (s' : σ) : Prop where
  sent : call.request? c = some x.request
  outcome : transport x.request s = (x.outcome, s')
  answer : ∃ status body, x.outcome = .answered status body ∧ (200 ≤ status ∧ status < 300) ∧
    Json.parse body = some j

theorem Delivered.recorded (h : Delivered transport c call s x j s') (log : List HttpExchange) :
    Delivered transport.recorded c call ⟨s, log⟩ x j ⟨s', log ++ [x]⟩ where
  sent := h.sent
  outcome := Net.recorded_eq h.outcome log
  answer := h.answer

theorem Delivered.run_fetch (h : Delivered transport c call s x j s') :
    (fetch transport c call read).run.run s =
      (match read j with
        | some a => .ok a
        | none => .error unexpectedResponse, s') := by
  obtain ⟨status, body, houtcome, hsuccess, hj⟩ := h.answer
  have hheard : heard x.request.url.path x.outcome = .ok body :=
    heard_ok_iff.mpr ⟨status, houtcome, hsuccess⟩
  rw [fetch, run_bind, run_perform h.sent h.outcome, hheard]
  cases hread : read j <;>
    simp only [run_ofExcept, decode, hj, Option.bind_some, hread]

theorem delivered_of_run_fetch {a : α} (h : (fetch transport c call read).run.run s = (.ok a, s')) :
    ∃ x j, Delivered transport c call s x j s' ∧ read j = some a := by
  rw [fetch, run_bind] at h
  cases hrequest : call.request? c with
  | none =>
      unfold perform at h
      simp only [hrequest] at h
      cases h
  | some request =>
      rcases hsent : transport request s with ⟨outcome, s₁⟩
      rw [run_perform hrequest hsent] at h
      cases hheard : heard request.url.path outcome with
      | error e =>
          rw [hheard] at h
          cases h
      | ok body =>
          rw [hheard] at h
          obtain ⟨status, houtcome, hsuccess⟩ := heard_ok_iff.mp hheard
          dsimp only at h
          rw [run_ofExcept] at h
          obtain ⟨hdecode, rfl⟩ := Prod.mk.inj h
          obtain ⟨j, hj, hread⟩ := Option.bind_eq_some_iff.mp (decode_eq_ok_iff.mp hdecode)
          exact ⟨⟨request, outcome⟩, j,
            ⟨hrequest, hsent, status, body, houtcome, hsuccess, hj⟩, hread⟩

theorem run_fetch_of_not (h : ∀ x j s', Delivered transport c call s x j s' → read j = none) :
    ∃ e s', (fetch transport c call read).run.run s = (.error e, s') := by
  rcases hrun : (fetch transport c call read).run.run s with ⟨e | a, s'⟩
  · exact ⟨e, s', rfl⟩
  · obtain ⟨x, j, hdelivered, hread⟩ := delivered_of_run_fetch hrun
    rw [h x j s' hdelivered] at hread
    cases hread

variable {issue : String} {found : IssuePayload}

theorem run_subtickets (s : σ) :
    tracker transport c (.subtickets issue) s =
      match (fetch transport c (issueCall issue) IssuePayload.ofJson).run.run s with
      | (.ok found, s₁) =>
        if found.fields.issueType ≠ some epicType then (.ok found.fields.subtasks, s₁)
        else
          match (fetch transport c (childrenCall issue) searchResult).run.run s₁ with
          | (.ok children, s₂) =>
            (.ok (children.flatMap fun child => child.key :: child.fields.subtasks), s₂)
          | (.error e, s₂) => (.error e, s₂)
      | (.error e, s₁) => (.error e, s₁) := by
  refine (run_bind (fetch transport c (issueCall issue) IssuePayload.ofJson) _ s).trans ?_
  rcases (fetch transport c (issueCall issue) IssuePayload.ofJson).run.run s with ⟨e | found, s₁⟩
  · rfl
  · dsimp only
    by_cases hplain : found.fields.issueType ≠ some epicType
    · rw [if_pos hplain, if_pos hplain]
      rfl
    · have hcall : searchCall ("\"Epic Link\" = " ++ issue) ["subtasks"] childLimit =
          childrenCall issue := rfl
      rw [if_neg hplain, if_neg hplain, run_bind, hcall]
      rcases (fetch transport c (childrenCall issue) searchResult).run.run s₁ with ⟨_ | _, _⟩ <;>
        rfl

theorem subtickets_plain (h : Delivered transport c (issueCall issue) s x j s')
    (hfound : IssuePayload.ofJson j = some found) (hplain : typeOf (fieldsOf j) ≠ some epicType) :
    tracker transport c (.subtickets issue) s = (.ok (tasksOf (fieldsOf j)), s') := by
  obtain ⟨-, htype, htasks⟩ := IssuePayload.ofJson_reads hfound
  rw [run_subtickets, h.run_fetch, hfound]
  dsimp only
  rw [if_pos (htype ▸ hplain), htasks]

theorem subtickets_epic (h : Delivered transport c (issueCall issue) s x j s')
    (hfound : IssuePayload.ofJson j = some found) (hepic : typeOf (fieldsOf j) = some epicType) :
    tracker transport c (.subtickets issue) s =
      match (fetch transport c (childrenCall issue) searchResult).run.run s' with
      | (.ok children, s₂) =>
        (.ok (children.flatMap fun child => child.key :: child.fields.subtasks), s₂)
      | (.error e, s₂) => (.error e, s₂) := by
  obtain ⟨-, htype, -⟩ := IssuePayload.ofJson_reads hfound
  rw [run_subtickets, h.run_fetch, hfound]
  dsimp only
  rw [if_neg (not_not_intro (htype.trans hepic))]

theorem subtickets_children {y : HttpExchange} {k : Json} {s₂ : σ} {children : List IssuePayload}
    (h : Delivered transport c (issueCall issue) s x j s')
    (hfound : IssuePayload.ofJson j = some found) (hepic : typeOf (fieldsOf j) = some epicType)
    (hy : Delivered transport c (childrenCall issue) s' y k s₂)
    (hchildren : searchResult k = some children) :
    tracker transport c (.subtickets issue) s = (.ok ((issuesOf k).flatMap familyOf), s₂) := by
  rw [subtickets_epic h hfound hepic, hy.run_fetch, hchildren, ← searchResult_reads hchildren]

theorem subtickets_fails
    (hnot : ∀ x j s₁, Delivered transport c (issueCall issue) s x j s₁ →
      IssuePayload.ofJson j = none) :
    ∃ e, (tracker transport c (.subtickets issue) s).1 = .error e := by
  obtain ⟨e, s₁, hrun⟩ := run_fetch_of_not hnot
  exact ⟨e, by rw [run_subtickets, hrun]⟩

theorem subtickets_fails_on_children (h : Delivered transport c (issueCall issue) s x j s')
    (hfound : IssuePayload.ofJson j = some found) (hepic : typeOf (fieldsOf j) = some epicType)
    (hnot : ∀ y k s₂, Delivered transport c (childrenCall issue) s' y k s₂ →
      searchResult k = none) : ∃ e, (tracker transport c (.subtickets issue) s).1 = .error e := by
  obtain ⟨e, s₂, hrun⟩ := run_fetch_of_not hnot
  exact ⟨e, by rw [subtickets_epic h hfound hepic, hrun]⟩

end Jira

namespace Sync

variable {tracker : Tracker σ} {w : World σ}

theorem gather_unfailing {c : Connection} {mains : List String} :
    (gather tracker c mains).Leads
      (fun _ w' => Adds (fun sent => ∀ x ∈ sent, x.failure? = none) w.journal w'.journal)
      (fun _ w' => Adds (fun _ => True) w.journal w'.journal) w := by
  induction mains generalizing w with
  | nil => exact .nothing (List.forall_mem_nil _)
  | cons main rest ih =>
      unfold gather
      rw [leads_bind]
      apply Leads.send
      · intro children remote
        rw [leads_bind]
        refine ih.mono ?_ ?_
        · intro keys w' hadds
          rw [World.note_journal] at hadds
          exact hadds.after fun sent hsent => List.forall_mem_cons.mpr ⟨rfl, hsent⟩
        · intro err w' hadds
          rw [World.note_journal] at hadds
          exact hadds.after fun _ _ => trivial
      · intro err remote
        exact .one trivial

theorem resolveSubtickets_unfailing {id : ProjectId} :
    (resolveSubtickets tracker id).Leads
      (fun _ w' => Adds (fun sent => ∀ x ∈ sent, x.failure? = none) w.journal w'.journal)
      (fun _ w' => Adds (fun _ => True) w.journal w'.journal) w := by
  rw [leads_resolveSubtickets]
  rcases w.store.refreshBase id with err | ⟨project, _ | c⟩
  · exact .nothing trivial
  · dsimp only
    split
    · exact .nothing (List.forall_mem_nil _)
    · rw [leads_update]
      split
      · exact .nothing (List.forall_mem_nil _)
      · exact .nothing trivial
  · apply Leads.send
    · intro _ remote
      refine gather_unfailing.mono ?_ ?_
      · intro found w₁ hadds
        rw [World.note_journal] at hadds
        have hunfailing : Adds (fun sent => ∀ x ∈ sent, x.failure? = none) w.journal w₁.journal :=
          hadds.after fun sent hsent => List.forall_mem_cons.mpr ⟨rfl, hsent⟩
        rw [leads_update]
        split
        · exact hunfailing
        · exact hunfailing.mono fun _ _ => trivial
      · intro err w₁ hadds
        rw [World.note_journal] at hadds
        exact hadds.after fun _ _ => trivial
    · intro err remote
      exact .one trivial

end Sync

namespace Jira

/-- The tickets below an issue are those that the answers tell, all of them and in order, and for
an epic they come from one more request. What is left out of an answer reads as nothing. Where a
request fails, or what answers it cannot be read, nothing is given, and then nothing is stored for a
project. -/
theorem discovery_loses_nothing (transport : Transport σ) (c : Connection) (issue : String) :
    (∀ s x j s₁ found log, Delivered transport c (issueCall issue) s x j s₁ →
      IssuePayload.ofJson j = some found →
      (typeOf (fieldsOf j) ≠ some epicType →
        tracker transport.recorded c (.subtickets issue) ⟨s, log⟩ =
          (.ok (tasksOf (fieldsOf j)), ⟨s₁, log ++ [x]⟩)) ∧
      (typeOf (fieldsOf j) = some epicType →
        (∀ y k s₂ children, Delivered transport c (childrenCall issue) s₁ y k s₂ →
          searchResult k = some children →
          tracker transport.recorded c (.subtickets issue) ⟨s, log⟩ =
            (.ok ((issuesOf k).flatMap familyOf), ⟨s₂, log ++ [x, y]⟩)) ∧
        ((∀ y k s₂, Delivered transport c (childrenCall issue) s₁ y k s₂ →
            searchResult k = none) →
          ∃ e, (tracker transport c (.subtickets issue) s).1 = .error e))) ∧
    (∀ s, (∀ x j s₁, Delivered transport c (issueCall issue) s x j s₁ →
        IssuePayload.ofJson j = none) →
      ∃ e, (tracker transport c (.subtickets issue) s).1 = .error e) ∧
    (∀ members found, IssuePayload.ofJson (.object members) = some found →
      IssuePayload.ofJson ((Json.object members).drop "fields") =
        some { found with fields := .blank }) ∧
    (∀ members found, IssueFields.ofJson (.object members) = some found →
      IssueFields.ofJson ((Json.object members).drop "subtasks") =
        some { found with subtasks := [] }) ∧
    (∀ members children, searchResult (.object members) = some children →
      searchResult ((Json.object members).drop "issues") = some []) ∧
    ∀ (id : ProjectId) (w w' : World σ) (result : Except SyncError (List String)),
      Sync.outcome (Sync.resolveSubtickets (tracker transport) id) w = (result, w') →
      ∃ calls, w'.journal = w.journal ++ calls ∧
        ((∃ y ∈ calls, y.failure? ≠ none) → (∃ e, result = .error e) ∧ w'.store = w.store) := by
  refine ⟨?_, fun s => subtickets_fails, fun _ _ => IssuePayload.ofJson_drop,
    fun _ _ => IssueFields.ofJson_drop, fun _ _ => searchResult_drop, ?_⟩
  · intro s x j s₁ found log h hfound
    refine ⟨subtickets_plain (h.recorded log) hfound, fun hepic => ⟨?_, ?_⟩⟩
    · intro y k s₂ children hy hchildren
      rw [subtickets_children (h.recorded log) hfound hepic (hy.recorded _) hchildren,
        List.append_assoc]
      rfl
    · exact subtickets_fails_on_children h hfound hepic
  · intro id w w' result hrun
    have hresolves : (Sync.resolveSubtickets (tracker transport) id).Leads _ _ w :=
      Sync.resolveSubtickets_unfailing.and Sync.resolveSubtickets_stores
    cases result with
    | error e =>
        obtain ⟨⟨calls, hjournal, -⟩, hstore⟩ := hresolves.of_error hrun
        exact ⟨calls, hjournal, fun _ => ⟨⟨e, rfl⟩, hstore⟩⟩
    | ok keys =>
        obtain ⟨⟨calls, hjournal, hnone⟩, -⟩ := hresolves.of_ok hrun
        refine ⟨calls, hjournal, ?_⟩
        rintro ⟨y, hy, hfailure⟩
        exact absurd (hnone y hy) hfailure

theorem delivered_of_eq {request : Net.HttpRequest} {body : String}
    (hrequest : call.request? c = some request) (hj : Json.parse body = some j)
    (hanswer : (transport request s).1 = .answered 200 body) :
    Delivered transport c call s ⟨request, .answered 200 body⟩ j (transport request s).2 where
  sent := hrequest
  outcome := Prod.ext hanswer rfl
  answer := ⟨200, body, rfl, by decide, hj⟩

def epicAnswer : String :=
  "\x7b\"key\":\"E-1\",\"fields\":\x7b\"issuetype\":\x7b\"name\":\"Epic\"\x7d," ++
    "\"subtasks\":[\x7b\"key\":\"E-9\"\x7d]\x7d\x7d"

def childrenAnswer : String :=
  "\x7b\"issues\":[\x7b\"key\":\"A-1\",\"fields\":\x7b\"subtasks\":[\x7b\"key\":\"A-2\"\x7d]" ++
    "\x7d\x7d,\x7b\"key\":\"A-3\"\x7d]\x7d"

def epicServer : Net.Script :=
  ⟨"jira.test", 80, [.answered 200 epicAnswer, .answered 200 childrenAnswer], []⟩

def refusing : World Net.Script :=
  { store := { connected with projects := Table.empty.push ledProject }, journal := []
    remote := ⟨"jira.test", 80, [.answered 403 ""], []⟩ }

def epicRequest : Net.HttpRequest := ((issueCall "E-1").request? jiraTest).get (by decide +kernel)

def childrenRequest : Net.HttpRequest :=
  ((childrenCall "E-1").request? jiraTest).get (by decide +kernel)

def epicJson : Json := (Json.parse epicAnswer).get (by decide +kernel)

def childrenJson : Json := (Json.parse childrenAnswer).get (by decide +kernel)

def afterEpic : Net.Script := (Net.Script.transport epicRequest epicServer).2

def refused : Except SyncError (List String) × World Net.Script :=
  Sync.outcome (Sync.resolveSubtickets (tracker Net.Script.transport) ⟨1⟩) refusing

/-- The sub-task of the epic itself does not count. A project keeps what it has when the server
refuses. -/
theorem discovery_loses_nothing_epic :
    (∃ x y s₂, tracker Net.Script.transport.recorded jiraTest (.subtickets "E-1") ⟨epicServer, []⟩ =
      (.ok ((issuesOf childrenJson).flatMap familyOf), ⟨s₂, [x, y]⟩)) ∧
    (issuesOf childrenJson).flatMap familyOf = ["A-1", "A-2", "A-3"] ∧
    (∃ e, refused.1 = .error e) ∧ refused.2.store = refusing.store := by
  have hepicRequest : (issueCall "E-1").request? jiraTest = some epicRequest :=
    (Option.some_get _).symm
  have hchildrenRequest : (childrenCall "E-1").request? jiraTest = some childrenRequest :=
    (Option.some_get _).symm
  have hepic : Delivered Net.Script.transport jiraTest (issueCall "E-1") epicServer _ epicJson
      afterEpic :=
    delivered_of_eq hepicRequest (Option.some_get _).symm (by decide +kernel)
  have hchildren : Delivered Net.Script.transport jiraTest (childrenCall "E-1") afterEpic _
      childrenJson _ :=
    delivered_of_eq hchildrenRequest (Option.some_get _).symm (by decide +kernel)
  have hfound : (IssuePayload.ofJson epicJson).isSome = true := by decide +kernel
  have hlisted : (searchResult childrenJson).isSome = true := by decide +kernel
  obtain ⟨hanswered, -, -, -, -, hresolve⟩ :=
    discovery_loses_nothing Net.Script.transport jiraTest "E-1"
  obtain ⟨-, hfamily⟩ := hanswered _ _ _ _ _ [] hepic (Option.some_get hfound).symm
  have hrun := (hfamily (by decide +kernel)).1 _ _ _ _ hchildren (Option.some_get hlisted).symm
  obtain ⟨calls, hcalls, hfails⟩ := hresolve ⟨1⟩ refusing refused.2 refused.1 rfl
  have hfailure : ∃ y ∈ refused.2.journal, y.failure? ≠ none := by decide +kernel
  rw [hcalls] at hfailure
  obtain ⟨herror, hstore⟩ := hfails hfailure
  exact ⟨⟨_, _, _, hrun⟩, by decide +kernel, herror, hstore⟩

end Jira

end Timesheet
