import Timesheet.Jira.Client
import Timesheet.Proofs.Leads

/-!
What the answers of a Jira server amount to. The requests that a call sends are put on record
together with what came of them, and the last one decides: by its status the token is refused, or
something is missing. A call succeeds exactly if each of its requests is answered with a success
and the answers can be read. All else is a failure of another kind.
-/
namespace Timesheet

namespace Net

variable {σ : Type}

/-- A request that was sent, and what came of it. -/
structure HttpExchange where
  request : HttpRequest
  outcome : HttpOutcome

/-- A network and what went over it, the oldest exchange first. -/
structure Recorded (σ : Type) where
  network : σ
  log : List HttpExchange

/-- The same network, with a record of every exchange. -/
def Transport.recorded (transport : Transport σ) : Transport (Recorded σ) := fun request r =>
  let (outcome, network) := transport request r.network
  (outcome, { network, log := r.log ++ [⟨request, outcome⟩] })

theorem recorded_eq {transport : Transport σ} {request : HttpRequest} {outcome : HttpOutcome}
    {s s' : σ} (h : transport request s = (outcome, s')) (log : List HttpExchange) :
    transport.recorded request ⟨s, log⟩ = (outcome, ⟨s', log ++ [⟨request, outcome⟩]⟩) := by
  unfold Transport.recorded
  simp only [h]

def HttpExchange.status? (x : HttpExchange) : Option Nat :=
  match x.outcome with
  | .answered status _ => some status
  | _ => none

/-- The request was answered with a status from 200 to 299. -/
def HttpExchange.Succeeded (x : HttpExchange) : Prop :=
  ∃ status, x.status? = some status ∧ 200 ≤ status ∧ status < 300

theorem HttpExchange.succeeded_iff {x : HttpExchange} : x.Succeeded ↔
    ∃ body status, x.outcome = .answered status body ∧ 200 ≤ status ∧ status < 300 := by
  unfold HttpExchange.Succeeded HttpExchange.status?
  cases x.outcome with
  | answered status body =>
      constructor
      · rintro ⟨_, ⟨⟩, hsuccess⟩
        exact ⟨body, status, rfl, hsuccess⟩
      · rintro ⟨_, _, ⟨⟩, hsuccess⟩
        exact ⟨status, rfl, hsuccess⟩
  | dropped | timedOut | refused => simp

def lastStatus (sent : List HttpExchange) : Option Nat := sent.getLast?.bind HttpExchange.status?

theorem isSuccess_iff {status : Nat} : isSuccess status = true ↔ 200 ≤ status ∧ status < 300 := by
  simp [isSuccess]

theorem lastStatus_append {sent later : List HttpExchange} (h : later ≠ []) :
    lastStatus (sent ++ later) = lastStatus later := by
  obtain ⟨x, hx⟩ := Option.isSome_iff_exists.mp (List.getLast?_isSome.mpr h)
  rw [lastStatus, lastStatus, List.getLast?_append, hx, Option.some_or]

end Net

namespace Jira

open Net
open HttpExchange (succeeded_iff)

variable {σ α β : Type}

/-- With a record the work does what it does without, and what goes on record and the result are as
`P` says. -/
def Shows (recorded : Web (Recorded σ) α) (plain : Web σ α)
    (P : List HttpExchange → Except TrackerError α → Prop) : Prop :=
  ∀ s log, ∃ sent, P sent (plain.run.run s).1 ∧
    recorded.run.run ⟨s, log⟩ = ((plain.run.run s).1, ⟨(plain.run.run s).2, log ++ sent⟩)

variable {P Q : List HttpExchange → Except TrackerError α → Prop}

theorem run_ofExcept (r : Except TrackerError α) (s : σ) :
    (liftM r : Web σ α).run.run s = (r, s) := by
  cases r <;> rfl

theorem shows_ofExcept {r : Except TrackerError α} (h : P [] r) :
    Shows (liftM r : Web (Recorded σ) α) (liftM r : Web σ α) P := by
  intro s log
  rw [run_ofExcept, run_ofExcept]
  exact ⟨[], h, by rw [List.append_nil]⟩

theorem Shows.mono {recorded : Web (Recorded σ) α} {plain : Web σ α}
    (h : Shows recorded plain P) (hPQ : ∀ sent r, P sent r → Q sent r) :
    Shows recorded plain Q := by
  intro s log
  obtain ⟨sent, hP, hrun⟩ := h s log
  exact ⟨sent, hPQ _ _ hP, hrun⟩

theorem Shows.and {recorded : Web (Recorded σ) α} {plain : Web σ α}
    (hP : Shows recorded plain P) (hQ : Shows recorded plain Q) :
    Shows recorded plain fun sent r => P sent r ∧ Q sent r := by
  intro s log
  obtain ⟨sent, hP, hrun⟩ := hP s log
  obtain ⟨sent', hQ, hrun'⟩ := hQ s log
  have hlog : log ++ sent = log ++ sent' :=
    congrArg (·.2.log) (hrun.symm.trans hrun')
  exact ⟨sent, ⟨hP, List.append_cancel_left hlog ▸ hQ⟩, hrun⟩

theorem Shows.bind {recorded : Web (Recorded σ) α} {plain : Web σ α}
    {next : α → Web (Recorded σ) β} {plainNext : α → Web σ β}
    {R : List HttpExchange → Except TrackerError β → Prop} (h : Shows recorded plain P)
    (error : ∀ sent e, P sent (.error e) → R sent (.error e))
    (ok : ∀ sent a, P sent (.ok a) →
      Shows (next a) (plainNext a) fun later r => R (sent ++ later) r) :
    Shows (recorded >>= next) (plain >>= plainNext) R := by
  intro s log
  obtain ⟨sent, hP, hrun⟩ := h s log
  rw [run_bind, run_bind, hrun]
  rcases hplain : plain.run.run s with ⟨e | a, s'⟩
  · rw [hplain] at hP
    exact ⟨sent, error sent e hP, rfl⟩
  · rw [hplain] at hP
    obtain ⟨later, hR, hlater⟩ := ok sent a hP s' (log ++ sent)
    exact ⟨sent ++ later, hR, by rw [← List.append_assoc]; exact hlater⟩

def heard (path : String) : HttpOutcome → Except TrackerError String
  | .answered status body => accept path status body
  | .dropped => .error requestFailed
  | .timedOut => .error timedOut
  | .refused => .error unreachable

/-- The request of a call was sent, if it could be, and this came of it. -/
inductive Performed (c : Connection) (call : Call) :
    List HttpExchange → Except TrackerError String → Prop
  | unsent (unsendable : call.request? c = none) : Performed c call [] (.error requestFailed)
  | sent {request : HttpRequest} (sendable : call.request? c = some request)
    (outcome : HttpOutcome) :
    Performed c call [⟨request, outcome⟩] (heard request.url.path outcome)

theorem run_perform {transport : Transport σ} {c : Connection} {call : Call}
    {request : HttpRequest} {outcome : HttpOutcome} {s s' : σ}
    (sendable : call.request? c = some request) (h : transport request s = (outcome, s')) :
    (perform transport c call).run.run s = (heard request.url.path outcome, s') := by
  have hlift : (liftM (transport request : StateM σ HttpOutcome) : Web σ HttpOutcome).run.run s =
      (.ok outcome, s') := by
    show ((Except.ok : HttpOutcome → Except TrackerError HttpOutcome) (transport request s).1,
      (transport request s).2) = _
    rw [h]
  unfold perform
  simp only [sendable]
  rw [run_bind, hlift]
  cases outcome with
  | answered status body =>
      unfold heard
      cases accept request.url.path status body <;> rfl
  | dropped => rfl
  | timedOut => rfl
  | refused => rfl

theorem perform_shows (transport : Transport σ) (c : Connection) (call : Call) :
    Shows (perform transport.recorded c call) (perform transport c call) (Performed c call) := by
  intro s log
  cases hrequest : call.request? c with
  | none =>
      unfold perform
      simp only [hrequest]
      exact ⟨[], .unsent hrequest, by rw [List.append_nil]; rfl⟩
  | some request =>
      rcases hrun : transport request s with ⟨outcome, s'⟩
      rw [run_perform hrequest hrun]
      exact ⟨_, .sent hrequest outcome, run_perform hrequest (recorded_eq hrun log)⟩

/-- How a call can end that the tracker does not take as it is. All else is not told by a status. -/
inductive Verdict where
  | unauthorized
  | missing
  | untold

namespace Verdict

def ofStatus : Option Nat → Verdict
  | some 401 => unauthorized
  | some 403 => unauthorized
  | some 404 => missing
  | _ => untold

def ofReply : Except TrackerError α → Verdict
  | .error (.unauthorized _) => unauthorized
  | .error (.missing _) => missing
  | _ => untold

theorem ofStatus_unauthorized_iff {status : Option Nat} :
    ofStatus status = unauthorized ↔ status = some 401 ∨ status = some 403 := by
  unfold ofStatus
  split <;> simp_all

theorem ofStatus_missing_iff {status : Option Nat} :
    ofStatus status = missing ↔ status = some 404 := by
  unfold ofStatus
  split <;> simp_all

theorem ofReply_unauthorized_iff {r : Except TrackerError α} :
    ofReply r = unauthorized ↔ ∃ detail, r = .error (.unauthorized detail) := by
  rcases r with (detail | resource | ⟨text, causes⟩) | a <;> simp [ofReply]

theorem ofReply_missing_iff {r : Except TrackerError α} :
    ofReply r = missing ↔ ∃ resource, r = .error (.missing resource) := by
  rcases r with (detail | resource | ⟨text, causes⟩) | a <;> simp [ofReply]

theorem ofStatus_of_isSuccess {status : Nat} (h : isSuccess status = true) :
    ofStatus (some status) = untold := by
  rw [isSuccess_iff] at h
  unfold ofStatus
  split <;> simp_all

theorem ofReply_accept (path : String) (status : Nat) (body : String) :
    ofReply (accept path status body) = ofStatus (some status) := by
  unfold accept
  split
  · next hsuccess => exact (ofStatus_of_isSuccess hsuccess).symm
  · split
    · next hdenied => rcases hdenied with rfl | rfl <;> rfl
    · next hadmitted =>
        split
        · next hmissing => rw [hmissing]; rfl
        · next hfound =>
            have hstatus : ofStatus (some status) = untold := by
              unfold ofStatus
              split <;> simp_all
            rw [hstatus]
            rfl

end Verdict

/-- The status of the last answer tells the verdict, and the results are those of which `F` holds.
-/
structure Judged (sent : List HttpExchange) (r : Except TrackerError α) (F : α → Prop) : Prop where
  verdict : Verdict.ofReply r = Verdict.ofStatus (lastStatus sent)
  ok_iff : ∀ a, r = .ok a ↔ F a

section Judged
variable {sent later : List HttpExchange} {r : Except TrackerError α} {F G : α → Prop}

theorem Judged.of_error {e : TrackerError} {G : β → Prop}
    (h : Judged sent (.error e : Except TrackerError α) F) (hG : ∀ b, ¬ G b) :
    Judged sent (.error e : Except TrackerError β) G where
  verdict := by
    rw [← h.verdict]
    cases e <;> rfl
  ok_iff b := ⟨nofun, fun hb => (hG b hb).elim⟩

theorem Judged.bind {f : α → Except TrackerError β} {G : β → Prop} (h : Judged sent r F)
    (untold : ∀ a, Verdict.ofReply (f a) = .untold) (hG : ∀ b, G b ↔ ∃ a, F a ∧ f a = .ok b) :
    Judged sent (r >>= f) G := by
  rcases r with e | a
  · refine h.of_error fun b hb => ?_
    obtain ⟨a, ha, -⟩ := (hG b).mp hb
    cases (h.ok_iff a).mpr ha
  · refine ⟨(untold a).trans h.verdict, fun b => ?_⟩
    rw [hG]
    constructor
    · exact fun hb => ⟨a, (h.ok_iff a).mp rfl, hb⟩
    · rintro ⟨a', ha', hb⟩
      cases (h.ok_iff a').mpr ha'
      exact hb

theorem Judged.after {a : α} {r : Except TrackerError β} {G : β → Prop}
    (h : Judged sent (.ok a) F) (hlater : Judged later r G) : Judged (sent ++ later) r G := by
  refine ⟨?_, hlater.ok_iff⟩
  rw [hlater.verdict]
  by_cases hnil : later = []
  · rw [hnil, List.append_nil]
    exact h.verdict
  · rw [lastStatus_append hnil]

end Judged

variable {c : Connection} {call : Call} {sent : List HttpExchange}

def Call.Succeeded (c : Connection) (call : Call) (x : HttpExchange) (body : String) : Prop :=
  call.request? c = some x.request ∧
    ∃ status, x.outcome = .answered status body ∧ 200 ≤ status ∧ status < 300

/-- The call was answered with a success, in which `a` is read. -/
def Call.Answered (c : Connection) (call : Call) (read : Json → Option α) (x : HttpExchange)
    (a : α) : Prop :=
  ∃ body, call.Succeeded c x body ∧ (Json.parse body).bind read = some a

theorem accept_ok_iff {path body text : String} {status : Nat} :
    accept path status body = .ok text ↔ (200 ≤ status ∧ status < 300) ∧ body = text := by
  rw [← isSuccess_iff]
  unfold accept
  split
  · next hsuccess => simp [hsuccess]
  · next hrefused =>
      refine iff_of_false ?_ fun h => hrefused h.1
      split
      · exact nofun
      · split <;> exact nofun

theorem heard_ok_iff {path body : String} {outcome : HttpOutcome} :
    heard path outcome = .ok body ↔
      ∃ status, outcome = .answered status body ∧ 200 ≤ status ∧ status < 300 := by
  cases outcome with
  | answered status text =>
      rw [heard, accept_ok_iff]
      constructor
      · rintro ⟨hsuccess, rfl⟩
        exact ⟨status, rfl, hsuccess⟩
      · rintro ⟨_, ⟨⟩, hsuccess⟩
        exact ⟨hsuccess, rfl⟩
  | dropped | timedOut | refused => simp [heard, requestFailed, timedOut, unreachable]

def Call.AtMost (c : Connection) (call : Call) (sent : List HttpExchange) : Prop :=
  sent = [] ∨ ∃ x, sent = [x] ∧ call.request? c = some x.request

theorem Performed.atMost {r : Except TrackerError String} (h : Performed c call sent r) :
    call.AtMost c sent := by
  cases h with
  | unsent unsendable => exact .inl rfl
  | sent sendable outcome => exact .inr ⟨_, rfl, sendable⟩

theorem Call.AtMost.exists_iff (h : call.AtMost c sent) {x : HttpExchange} (hx : x ∈ sent)
    {K : HttpExchange → Prop} : (∃ y ∈ sent, K y) ↔ K x := by
  rcases h with rfl | ⟨y, rfl, -⟩
  · cases hx
  · obtain rfl := List.mem_singleton.mp hx
    simp

theorem Call.AtMost.lastStatus_iff (h : call.AtMost c sent) {status : Nat} :
    lastStatus sent = some status ↔ ∃ x ∈ sent, x.status? = some status := by
  rcases h with rfl | ⟨x, rfl, -⟩
  · exact ⟨nofun, nofun⟩
  · simp [lastStatus]

theorem Performed.judged {r : Except TrackerError String} (h : Performed c call sent r) :
    Judged sent r fun body => ∃ x, sent = [x] ∧ call.Succeeded c x body := by
  cases h with
  | unsent unsendable => exact ⟨rfl, by simp [requestFailed]⟩
  | @sent request sendable outcome =>
      have honly : ∀ {body : String}, (∃ x, [⟨request, outcome⟩] = [x] ∧ call.Succeeded c x body) ↔
          ∃ status, outcome = .answered status body ∧ 200 ≤ status ∧ status < 300 := by
        intro body
        simp [Call.Succeeded, sendable]
      refine ⟨?_, fun body => ?_⟩
      · cases outcome with
        | answered status body => exact Verdict.ofReply_accept _ _ _
        | dropped | timedOut | refused => rfl
      · rw [honly, heard_ok_iff]

theorem Call.Answered.unique {read : Json → Option α} {x : HttpExchange} {a b : α}
    (ha : call.Answered c read x a) (hb : call.Answered c read x b) : a = b := by
  obtain ⟨body, ⟨-, status, hbody, -⟩, hread⟩ := ha
  obtain ⟨body', ⟨-, status', hbody', -⟩, hread'⟩ := hb
  cases hbody.symm.trans hbody'
  exact Option.some.inj (hread.symm.trans hread')

theorem Call.Answered.succeeded {read : Json → Option α} {x : HttpExchange} {a : α}
    (h : call.Answered c read x a) : x.Succeeded := by
  obtain ⟨body, ⟨-, hbody⟩, -⟩ := h
  exact succeeded_iff.mpr ⟨body, hbody⟩

theorem Shows.read {recorded : Web (Recorded σ) α} {plain : Web σ α}
    {F : List HttpExchange → α → Prop} {G : List HttpExchange → β → Prop}
    {f : α → Except TrackerError β}
    (h : Shows recorded plain fun sent r => Judged sent r (F sent))
    (untold : ∀ a, Verdict.ofReply (f a) = .untold)
    (hG : ∀ sent b, G sent b ↔ ∃ a, F sent a ∧ f a = .ok b) :
    Shows (recorded >>= fun a => liftM (f a)) (plain >>= fun a => liftM (f a))
      fun sent r => Judged sent r (G sent) := by
  refine h.bind ?_ ?_
  · intro sent e hjudged
    exact hjudged.bind untold (hG sent)
  · intro sent a hjudged
    refine shows_ofExcept ?_
    rw [List.append_nil]
    exact hjudged.bind untold (hG sent)

theorem Shows.map {recorded : Web (Recorded σ) α} {plain : Web σ α}
    {F : List HttpExchange → α → Prop} {G : List HttpExchange → β → Prop} {f : α → β}
    (h : Shows recorded plain fun sent r => Judged sent r (F sent))
    (hG : ∀ sent b, G sent b ↔ ∃ a, F sent a ∧ f a = b) :
    Shows (recorded >>= fun a => pure (f a)) (plain >>= fun a => pure (f a))
      fun sent r => Judged sent r (G sent) := by
  refine h.read (f := fun a => .ok (f a)) (fun _ => rfl) fun sent b => ?_
  simp only [hG, Except.ok.injEq]

theorem decode_eq_ok_iff {read : Json → Option α} {body : String} {a : α} :
    decode read body = .ok a ↔ (Json.parse body).bind read = some a := by
  unfold decode
  split <;> simp [*]

theorem fetch_shows (transport : Transport σ) (c : Connection) (call : Call)
    (read : Json → Option α) :
    Shows (fetch transport.recorded c call read) (fetch transport c call read) fun sent r =>
      Judged sent r fun a => ∃ x, sent = [x] ∧ call.Answered c read x a := by
  have hjudged := (perform_shows transport c call).mono fun _ _ h => h.judged
  refine hjudged.read (f := decode read) ?_ ?_
  · intro body
    unfold decode
    split <;> rfl
  · intro sent a
    simp only [decode_eq_ok_iff, Call.Answered]
    constructor
    · rintro ⟨x, hx, body, hsucceeded, ha⟩
      exact ⟨body, ⟨x, hx, hsucceeded⟩, ha⟩
    · rintro ⟨body, ⟨x, hx, hsucceeded⟩, ha⟩
      exact ⟨x, hx, body, hsucceeded, ha⟩

theorem Shows.sends {recorded : Web (Recorded σ) α} {plain : Web σ α}
    {K : List HttpExchange → Prop} (h : Shows recorded plain fun sent _ => K sent)
    (f : α → Except TrackerError β) :
    Shows (recorded >>= fun a => liftM (f a)) (plain >>= fun a => liftM (f a))
      fun sent _ => K sent := by
  refine h.bind (fun _ _ hsent => hsent) fun sent a hsent => shows_ofExcept ?_
  rwa [List.append_nil]

theorem perform_sends (transport : Transport σ) (c : Connection) (call : Call) :
    Shows (perform transport.recorded c call) (perform transport c call) fun sent _ =>
      call.AtMost c sent :=
  (perform_shows transport c call).mono fun _ _ h => h.atMost

theorem fetch_sends (transport : Transport σ) (c : Connection) (call : Call)
    (read : Json → Option α) :
    Shows (fetch transport.recorded c call read) (fetch transport c call read) fun sent _ =>
      call.AtMost c sent :=
  (perform_sends transport c call).sends (decode read)

end Jira

end Timesheet
