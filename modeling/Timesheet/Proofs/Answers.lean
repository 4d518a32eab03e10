import Timesheet.Proofs.Retry
import Timesheet.Proofs.Verdicts

/-!
What the answers of a server make of each request to the tracker. The calls that are sent for a
request are named, and it succeeds exactly if all of them are answered with a success and can be
read.
-/
namespace Timesheet

namespace Jira

open Net
open HttpExchange (succeeded_iff)

variable {σ : Type} {c : Connection} {call : Call} {sent : List HttpExchange}

def issueCall (issue : String) : Call :=
  { method := .get, path := issuePath issue, pairs := [("fields", "subtasks,issuetype")]
    body := none }

def childrenCall (epic : String) : Call :=
  searchCall ("\"Epic Link\" = " ++ epic) ["subtasks"] childLimit

def createIssueCall (project : String) (draft : IssueDraft) : Call :=
  { method := .post, path := "issue", pairs := [], body := some (issueBody project draft) }

def createCall (issue : String) (w : WorklogDraft) : Call :=
  { method := .post, path := issuePath issue ++ "/worklog", pairs := []
    body := some (worklogBody w) }

def updateCall (issue worklog : String) (w : WorklogDraft) : Call :=
  { method := .put, path := worklogPath issue worklog, pairs := []
    body := some (worklogBody w) }

def deleteCall (issue worklog : String) : Call :=
  { method := .delete, path := worklogPath issue worklog, pairs := [], body := none }

/-- An issue and, where it is an epic, the issues of it were asked for and answered, and these are
the keys of what is below it. -/
inductive Discovered (c : Connection) (issue : String) : List HttpExchange → List String → Prop
  | plain {x : HttpExchange} {found : IssuePayload}
    (answered : (issueCall issue).Answered c IssuePayload.ofJson x found)
    (simple : found.fields.issueType ≠ some epicType) :
    Discovered c issue [x] found.fields.subtasks
  | epic {x y : HttpExchange} {found : IssuePayload} {children : List IssuePayload}
    (answered : (issueCall issue).Answered c IssuePayload.ofJson x found)
    (epic : found.fields.issueType = some epicType)
    (children_answered : (childrenCall issue).Answered c searchResult y children) :
    Discovered c issue [x, y] (children.flatMap fun child => child.key :: child.fields.subtasks)

/-- All the requests of a call were answered with a success, and this is what they say. -/
def Fulfilled (c : Connection) :
    (request : Request) → List HttpExchange → request.Answer → Prop
  | .connect, sent, _ => c.system.kind = .jira ∧ sent = []
  | .search query fields limit, sent, issues => ∃ x found, sent = [x] ∧
      (searchCall query fields limit).Answered c searchResult x found ∧
      issues = found.map fun i => { key := i.key, summary := i.fields.summary }
  | .createIssue project draft, sent, key =>
      ∃ x, sent = [x] ∧ (createIssueCall project draft).Answered c createdKey x key
  | .createWorklog issue w, sent, worklog =>
      ∃ x, sent = [x] ∧ (createCall issue w).Answered c createdId x worklog
  | .updateWorklog issue worklog w, sent, _ =>
      ∃ x body, sent = [x] ∧ (updateCall issue worklog w).Succeeded c x body
  | .deleteWorklog issue worklog, sent, _ =>
      ∃ x body, sent = [x] ∧ (deleteCall issue worklog).Succeeded c x body
  | .subtickets issue, sent, keys => Discovered c issue sent keys

theorem Fulfilled.succeeded {request : Request} {answer : request.Answer}
    (h : Fulfilled c request sent answer) : ∀ x ∈ sent, x.Succeeded := by
  have hone : ∀ {x : HttpExchange}, x.Succeeded → ∀ y ∈ [x], y.Succeeded := by
    intro x hx y hy
    rwa [List.mem_singleton.mp hy]
  cases request with
  | connect =>
      obtain ⟨-, rfl⟩ := h
      exact nofun
  | search query fields limit =>
      obtain ⟨x, found, rfl, hanswered, -⟩ := h
      exact hone hanswered.succeeded
  | createIssue project draft =>
      obtain ⟨x, rfl, hanswered⟩ := h
      exact hone hanswered.succeeded
  | createWorklog issue w =>
      obtain ⟨x, rfl, hanswered⟩ := h
      exact hone hanswered.succeeded
  | updateWorklog issue worklog w =>
      obtain ⟨x, body, rfl, -, hsucceeded⟩ := h
      exact hone (succeeded_iff.mpr ⟨body, hsucceeded⟩)
  | deleteWorklog issue worklog =>
      obtain ⟨x, body, rfl, -, hsucceeded⟩ := h
      exact hone (succeeded_iff.mpr ⟨body, hsucceeded⟩)
  | subtickets issue =>
      cases h with
      | plain answered simple => exact hone answered.succeeded
      | epic answered epic children_answered =>
          exact List.forall_mem_cons.mpr ⟨answered.succeeded, hone children_answered.succeeded⟩

theorem subtickets_shows (transport : Transport σ) (c : Connection) (issue : String) :
    Shows (subtickets transport.recorded c issue) (subtickets transport c issue) fun sent r =>
      Judged sent r (Discovered c issue sent) := by
  have hissue := (fetch_shows transport c (issueCall issue) IssuePayload.ofJson).and
    (fetch_sends transport c (issueCall issue) IssuePayload.ofJson)
  refine hissue.bind ?_ ?_
  · rintro sent e ⟨hjudged, hsent⟩
    refine hjudged.of_error fun keys hdiscovered => ?_
    cases hdiscovered with
    | plain answered simple => cases (hjudged.ok_iff _).mpr ⟨_, rfl, answered⟩
    | epic =>
        rcases hsent with hnone | ⟨_, hone, -⟩
        · cases hnone
        · cases hone
  · rintro sent found ⟨hjudged, -⟩
    obtain ⟨x, rfl, hfound⟩ := (hjudged.ok_iff found).mp rfl
    by_cases hsimple : found.fields.issueType ≠ some epicType
    · simp only [if_pos hsimple]
      refine shows_ofExcept (r := .ok found.fields.subtasks) ⟨hjudged.verdict, fun keys => ?_⟩
      constructor
      · rintro ⟨⟩
        exact .plain hfound hsimple
      · intro hdiscovered
        cases hdiscovered with
        | plain answered simple => rw [hfound.unique answered]
    · simp only [if_neg hsimple]
      have hepic : found.fields.issueType = some epicType := Decidable.not_not.mp hsimple
      refine ((fetch_shows transport c (childrenCall issue) searchResult).map
        (G := fun later => Discovered c issue (x :: later)) fun later keys => ?_).mono
          fun later r hlater => hjudged.after hlater
      constructor
      · intro hdiscovered
        cases hdiscovered with
        | plain answered simple => exact absurd (hfound.unique answered ▸ hepic) simple
        | epic answered _ children_answered => exact ⟨_, ⟨_, rfl, children_answered⟩, rfl⟩
      · rintro ⟨children, ⟨y, rfl, hchildren⟩, ⟨⟩⟩
        exact .epic hfound hepic hchildren

/-- The status of the last answer tells how a request to the tracker fails, and it succeeds exactly
if all it sends is answered with a success that can be read. -/
theorem respond_shows (transport : Transport σ) (c : Connection) (request : Request) :
    Shows (respond transport.recorded c request) (respond transport c request) fun sent r =>
      Judged sent r (Fulfilled c request sent) := by
  have hwritten : ∀ call : Call, Shows
      (perform transport.recorded c call >>= fun _ => pure ())
      (perform transport c call >>= fun _ => pure ())
      fun sent r => Judged sent r fun _ => ∃ x body, sent = [x] ∧ call.Succeeded c x body := by
    intro call
    refine ((perform_shows transport c call).mono fun _ _ h => h.judged).map fun sent _ => ?_
    exact ⟨fun ⟨x, body, h⟩ => ⟨body, ⟨x, h⟩, rfl⟩, fun ⟨body, ⟨x, h⟩, _⟩ => ⟨x, body, h⟩⟩
  cases request with
  | connect =>
      unfold respond
      by_cases hkind : c.system.kind = .jira
      · simp only [if_pos hkind]
        refine shows_ofExcept (r := .ok ()) ⟨rfl, fun _ => ?_⟩
        exact ⟨fun _ => ⟨hkind, rfl⟩, fun _ => rfl⟩
      · simp only [if_neg hkind]
        refine shows_ofExcept (r := .error _) ⟨rfl, fun _ => ?_⟩
        exact ⟨nofun, fun h => (hkind h.1).elim⟩
  | search query fields limit =>
      unfold respond
      refine (fetch_shows transport c _ searchResult).map fun sent issues => ?_
      constructor
      · rintro ⟨x, found, hsent, hfound, rfl⟩
        exact ⟨found, ⟨x, hsent, hfound⟩, rfl⟩
      · rintro ⟨found, ⟨x, hsent, hfound⟩, hissues⟩
        exact ⟨x, found, hsent, hfound, hissues.symm⟩
  | createIssue project draft =>
      exact fetch_shows transport c (createIssueCall project draft) createdKey
  | createWorklog issue w => exact fetch_shows transport c (createCall issue w) createdId
  | updateWorklog issue worklog w => exact hwritten (updateCall issue worklog w)
  | deleteWorklog issue worklog => exact hwritten (deleteCall issue worklog)
  | subtickets issue => exact subtickets_shows transport c issue

/-- What the requests that were sent say of the result. -/
structure Decided (c : Connection) (request : Request) (sent : List HttpExchange)
    (r : Except TrackerError request.Answer) : Prop where
  unauthorized : (∃ detail, r = .error (.unauthorized detail)) ↔
    lastStatus sent = some 401 ∨ lastStatus sent = some 403
  missing : (∃ resource, r = .error (.missing resource)) ↔ lastStatus sent = some 404
  /-- All was answered and could be read. -/
  ok : ∀ answer, r = .ok answer ↔ Fulfilled c request sent answer
  succeeded : ∀ answer, r = .ok answer → ∀ x ∈ sent, x.Succeeded
  failed : (∃ text causes, r = .error (.failed text causes)) ↔
    lastStatus sent ≠ some 401 ∧ lastStatus sent ≠ some 403 ∧ lastStatus sent ≠ some 404 ∧
      ∀ answer, ¬ Fulfilled c request sent answer

theorem Judged.decided {request : Request} {r : Except TrackerError request.Answer}
    (h : Judged sent r (Fulfilled c request sent)) : Decided c request sent r := by
  have hunauthorized : (∃ detail, r = .error (.unauthorized detail)) ↔
      lastStatus sent = some 401 ∨ lastStatus sent = some 403 := by
    rw [← Verdict.ofReply_unauthorized_iff, h.verdict, Verdict.ofStatus_unauthorized_iff]
  have hmissing : (∃ resource, r = .error (.missing resource)) ↔ lastStatus sent = some 404 := by
    rw [← Verdict.ofReply_missing_iff, h.verdict, Verdict.ofStatus_missing_iff]
  refine ⟨hunauthorized, hmissing, h.ok_iff, ?_, ?_⟩
  · intro answer hanswer
    exact ((h.ok_iff answer).mp hanswer).succeeded
  · rw [← and_assoc, ← not_or, ← hunauthorized, ne_eq, ← hmissing]
    simp only [← h.ok_iff]
    rcases r with (detail | resource | ⟨text, causes⟩) | answer <;> simp

/-- A request leaves on record what is sent for it, and that tells its result. -/
theorem tracker_decided (transport : Transport σ) (c : Connection) (request : Request) (s : σ)
    (log : List HttpExchange) :
    ∃ sent, tracker transport.recorded c request ⟨s, log⟩ =
        ((tracker transport c request s).1, ⟨(tracker transport c request s).2, log ++ sent⟩) ∧
      Decided c request sent (tracker transport c request s).1 := by
  obtain ⟨sent, hjudged, hrun⟩ := respond_shows transport c request s log
  exact ⟨sent, hrun, hjudged.decided⟩

/-- The answer says that a work-log is gone. -/
def SaysGone (x : HttpExchange) : Prop := x.Succeeded ∨ x.status? = some 404

theorem Shows.tracker {transport : Transport σ} {request : Request}
    {P : List HttpExchange → Except TrackerError request.Answer → Prop}
    (h : Shows (respond transport.recorded c request) (respond transport c request) P)
    (m : Recorded σ) :
    ∃ sent reply m', tracker transport.recorded c request m = (reply, m') ∧
      m'.log = m.log ++ sent ∧ P sent reply := by
  obtain ⟨sent, hP, hrun⟩ := h m.network m.log
  exact ⟨sent, _, _, hrun, rfl, hP⟩

theorem Judged.missing_iff {α : Type} {r : Except TrackerError α} {F : α → Prop}
    (h : Judged sent r F) (hsent : call.AtMost c sent) :
    (∃ resource, r = .error (.missing resource)) ↔ ∃ x ∈ sent, x.status? = some 404 := by
  rw [← Verdict.ofReply_missing_iff, h.verdict, Verdict.ofStatus_missing_iff,
    hsent.lastStatus_iff]

theorem Judged.confirmsGone_iff {r : Except TrackerError Unit}
    (h : Judged sent r fun _ => ∃ x body, sent = [x] ∧ call.Succeeded c x body)
    (hsent : call.AtMost c sent) : confirmsGone r = true ↔ ∃ x ∈ sent, SaysGone x := by
  have hok : r = .ok () ↔ ∃ x ∈ sent, x.Succeeded := by
    rw [h.ok_iff]
    rcases hsent with rfl | ⟨x, rfl, hrequest⟩
    · exact ⟨nofun, nofun⟩
    · constructor
      · rintro ⟨_, body, ⟨⟩, -, hanswer⟩
        exact ⟨x, List.mem_singleton_self x, succeeded_iff.mpr ⟨body, hanswer⟩⟩
      · rintro ⟨y, hy, hsucceeded⟩
        obtain rfl := List.mem_singleton.mp hy
        obtain ⟨body, hanswer⟩ := succeeded_iff.mp hsucceeded
        exact ⟨y, body, rfl, hrequest, hanswer⟩
  have hgone : confirmsGone r = true ↔
      r = .ok () ∨ ∃ resource, r = .error (.missing resource) := by
    rcases r with (detail | resource | ⟨text, causes⟩) | _ <;> simp [confirmsGone]
  simp only [hgone, hok, h.missing_iff hsent, SaysGone, and_or_left, exists_or]

theorem delete_answered (transport : Transport σ) (c : Connection) (issue worklog : String)
    (m : Recorded σ) :
    ∃ sent reply m', tracker transport.recorded c (.deleteWorklog issue worklog) m = (reply, m') ∧
      m'.log = m.log ++ sent ∧ (deleteCall issue worklog).AtMost c sent ∧
      (confirmsGone reply = true ↔ ∃ x ∈ sent, SaysGone x) := by
  have hshows := (respond_shows transport c (.deleteWorklog issue worklog)).and
    ((perform_sends transport c (deleteCall issue worklog)).sends fun _ => .ok ())
  obtain ⟨sent, reply, m', hrun, hlog, hjudged, hsent⟩ := hshows.tracker m
  exact ⟨sent, reply, m', hrun, hlog, hsent, hjudged.confirmsGone_iff hsent⟩

theorem update_answered (transport : Transport σ) (c : Connection) (issue worklog : String)
    (content : WorklogDraft) (m : Recorded σ) :
    ∃ sent reply m',
      tracker transport.recorded c (.updateWorklog issue worklog content) m = (reply, m') ∧
      m'.log = m.log ++ sent ∧ (updateCall issue worklog content).AtMost c sent ∧
      ((∃ resource, reply = .error (.missing resource)) ↔ ∃ x ∈ sent, x.status? = some 404) := by
  have hshows := (respond_shows transport c (.updateWorklog issue worklog content)).and
    ((perform_sends transport c (updateCall issue worklog content)).sends fun _ => .ok ())
  obtain ⟨sent, reply, m', hrun, hlog, hjudged, hsent⟩ := hshows.tracker m
  exact ⟨sent, reply, m', hrun, hlog, hsent, hjudged.missing_iff hsent⟩

end Jira

end Timesheet
