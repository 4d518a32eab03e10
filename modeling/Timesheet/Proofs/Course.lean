import Mathlib.Data.List.Pairwise
import Timesheet.Proofs.Holdback
import Timesheet.Proofs.Mirror
import Timesheet.Proofs.Accounts

/-!
What is sent to bring a work-log up to date, in order: the pending deletions of the user, the search
for the ticket in the internal tracker, the deletion of a work-log that the entry left behind, and
the writing of its work-log. Each part may stop at any request, and the later ones may be missing.
All of it is sent through connections that the user may use.
-/
namespace Timesheet

/-- The ticket system of the connection is there, and the user holds the token for it. -/
def Store.Admits (s : Store) (user : UserId) (c : Connection) : Prop :=
  s.system? c.id = some c.system ∧ s.token? user c.id = some c.token

/-- The connection is made first. What is sent through it after that is `P`. -/
inductive Through (c : Connection) (P : List Exchange → Prop) : List Exchange → Prop
  | refused (err : TrackerError) (s : Store) : Through c P [⟨c, .connect, .error err, s⟩]
  | made (s : Store) {sent : List Exchange} (h : P sent) :
    Through c P (⟨c, .connect, .ok (), s⟩ :: sent)

/-- Nothing is sent, or what is sent to the system goes through a connection of the user. -/
def SentTo (s : Store) (user : UserId) (system : SystemId)
    (P : Connection → List Exchange → Prop) (sent : List Exchange) : Prop :=
  sent = [] ∨ ∃ c, c.id = system ∧ s.Admits user c ∧ Through c (P c) sent

/-- Nothing is sent, or it goes to the system that books the work-logs of the project. -/
def SentAlong (s : Store) (user : UserId) (project : ProjectId)
    (P : Connection → List Exchange → Prop) (sent : List Exchange) : Prop :=
  sent = [] ∨ ∃ r, s.bookingRoute? project = some r ∧ SentTo s user r.id P sent

inductive Removing (ticket worklog : String) (c : Connection) : List Exchange → Prop
  | deleted (reply : Except TrackerError Unit) (s : Store) :
    Removing ticket worklog c [⟨c, .deleteWorklog ticket worklog, reply, s⟩]

/-- What is sent for one pending deletion. -/
def Removal (s : Store) (d : StaleWorklog) : List Exchange → Prop :=
  SentTo s d.user d.system (Removing d.ticket d.worklog)

inductive LookingUp (c : Connection) : List Exchange → Prop
  | searched (query : String) (fields : List String) (limit : Nat)
    (reply : Except TrackerError (List Issue)) (s : Store) :
    LookingUp c [⟨c, .search query fields limit, reply, s⟩]
  | opened (query : String) (fields : List String) (limit : Nat) (found : List Issue) (s : Store)
    (key : String) (draft : IssueDraft) (reply : Except TrackerError String) (s' : Store) :
    LookingUp c
      [⟨c, .search query fields limit, .ok found, s⟩, ⟨c, .createIssue key draft, reply, s'⟩]

inductive Writing (c : Connection) : List Exchange → Prop
  | created (ticket : String) (draft : WorklogDraft) (reply : Except TrackerError String)
    (s : Store) : Writing c [⟨c, .createWorklog ticket draft, reply, s⟩]
  | updated (ticket worklog : String) (draft : WorklogDraft) (reply : Except TrackerError Unit)
    (s : Store) : Writing c [⟨c, .updateWorklog ticket worklog draft, reply, s⟩]
  | recreated (ticket worklog what : String) (draft : WorklogDraft) (s : Store)
    (reply : Except TrackerError String) (s' : Store) :
    Writing c [⟨c, .updateWorklog ticket worklog draft, .error (.missing what), s⟩,
      ⟨c, .createWorklog ticket draft, reply, s'⟩]

/-- What is sent for pending deletions, one after the other. -/
inductive Deletions (s : Store) : List StaleWorklog → List Exchange → Prop
  | nil : Deletions s [] []
  | cons {d : StaleWorklog} {rows : List StaleWorklog} {first rest : List Exchange}
    (head : Removal s d first)
    (tail : Deletions s rows rest) : Deletions s (d :: rows) (first ++ rest)

def Retrying (s : Store) (user : UserId) : List Exchange → Prop :=
  Deletions s ((s.pendingOf user).map (·.2))

/-- What is sent when the removal of the work-log of `p` is recorded and retried. If nothing was
pending before, this is the only deletion. -/
def Clearing (s : Store) (p : TimeEntry) (sent : List Exchange) : Prop :=
  ∃ rows, Deletions s rows sent ∧ (∀ d ∈ rows, d.user = p.user) ∧
    (s.pendingOf p.user = [] → rows.length ≤ 1 ∧ ∀ d ∈ rows, p.Has s d.target)

/-- What is sent up to the time when the ticket of an entry of the user is settled. -/
def Opening (s : Store) (user : UserId) (project : ProjectId) (sent : List Exchange) : Prop :=
  ∃ retried looked, sent = retried ++ looked ∧
    Retrying s user retried ∧ SentAlong s user project LookingUp looked

/-- What is sent up to the booking. The deletions `left` are those of what the entry leaves
behind. -/
def Parting (s : Store) (user : UserId) (project : ProjectId) (left : List StaleWorklog)
    (sent : List Exchange) : Prop :=
  ∃ opening removed, sent = opening ++ removed ∧ Opening s user project opening ∧
    Deletions s left removed

/-- All that is sent to bring the work-log of an entry of the user up to date. -/
def Course (s : Store) (user : UserId) (project : ProjectId) (left : List StaleWorklog)
    (sent : List Exchange) : Prop :=
  ∃ parting written, sent = parting ++ written ∧ Parting s user project left parting ∧
    SentAlong s user project Writing written

def Exchange.deletion? : Exchange → Option Worklog
  | ⟨c, .deleteWorklog ticket id, _, _⟩ => some ⟨c.id, ticket, id⟩
  | _ => none

def Exchange.Found : Exchange → Prop
  | ⟨_, .search .., .ok _, _⟩ => True
  | _ => False

/-- The journal `later` is `journal`, followed by a `P`. -/
def Adds (P : List Exchange → Prop) (journal later : List Exchange) : Prop :=
  ∃ sent, later = journal ++ sent ∧ P sent

variable {P Q R : List Exchange → Prop} {journal middle later sent : List Exchange}
  {x y : Exchange} {s s' : Store} {user : UserId} {project : ProjectId}
  {rows left : List StaleWorklog}

theorem Adds.nothing (h : P []) : Adds P journal journal := ⟨[], by simp, h⟩

theorem Adds.one (h : P [x]) : Adds P journal (journal ++ [x]) := ⟨[x], rfl, h⟩

theorem Adds.two (h : P [x, y]) : Adds P journal (journal ++ [x] ++ [y]) := ⟨[x, y], by simp, h⟩

theorem Adds.mono (h : Adds P journal later) (hPQ : ∀ sent, P sent → Q sent) :
    Adds Q journal later := by
  obtain ⟨sent, hj, hP⟩ := h
  exact ⟨sent, hj, hPQ sent hP⟩

theorem Adds.append (h : Adds P journal middle) (h' : Adds Q middle later)
    (hR : ∀ first rest, P first → Q rest → R (first ++ rest)) : Adds R journal later := by
  obtain ⟨first, rfl, hP⟩ := h
  obtain ⟨rest, rfl, hQ⟩ := h'
  exact ⟨first ++ rest, List.append_assoc .., hR first rest hP hQ⟩

theorem Adds.after (h : Adds P (journal ++ [x]) later) (hQ : ∀ sent, P sent → Q (x :: sent)) :
    Adds Q journal later := by
  obtain ⟨sent, rfl, hP⟩ := h
  exact ⟨x :: sent, by simp, hQ sent hP⟩

theorem split_append {first rest before later : List Exchange}
    (h : first ++ rest = before ++ x :: later) :
    (∃ back, first = before ++ x :: back ∧ later = back ++ rest) ∨
      ∃ front, before = first ++ front ∧ rest = front ++ x :: later := by
  rcases List.append_eq_append_iff.mp h with ⟨front, hbefore, hrest⟩ | ⟨back, hfirst, hlater⟩
  · exact .inr ⟨front, hbefore, hrest⟩
  · rcases List.append_eq_cons_iff.mp hlater.symm with ⟨rfl, hrest⟩ | ⟨back', rfl, hlater⟩
    · exact .inr ⟨[], by simpa using hfirst.symm, by simpa using hrest⟩
    · exact .inl ⟨back', hfirst, (List.cons.inj hlater).2⟩

theorem Store.SameCatalog.admits_iff (h : s.SameCatalog s') (user : UserId) (c : Connection) :
    s'.Admits user c ↔ s.Admits user c := by
  rw [Store.Admits, h.system?_eq, h.token?_eq, Store.Admits]

theorem Deletions.none (s : Store) (rows : List StaleWorklog) : Deletions s rows [] := by
  induction rows with
  | nil => exact .nil
  | cons d rest ih =>
      have hnothing : Removal s d [] := .inl rfl
      exact .cons hnothing ih

theorem SentTo.sameCatalog {system : SystemId} {P : Connection → List Exchange → Prop}
    (h : SentTo s' user system P sent) (hs : s.SameCatalog s') : SentTo s user system P sent := by
  simpa only [SentTo, hs.admits_iff] using h

theorem SentAlong.sameCatalog {P : Connection → List Exchange → Prop}
    (h : SentAlong s' user project P sent) (hs : s.SameCatalog s') :
    SentAlong s user project P sent := by
  rcases h with hnothing | ⟨r, hr, hsent⟩
  · exact .inl hnothing
  · exact .inr ⟨r, (hs.bookingRoute?_eq project).symm.trans hr, hsent.sameCatalog hs⟩

theorem Deletions.sameCatalog (h : Deletions s' rows sent) (hs : s.SameCatalog s') :
    Deletions s rows sent := by
  induction h with
  | nil => exact .nil
  | cons head _ ih => exact .cons (SentTo.sameCatalog head hs) ih

theorem Opening.parting (h : Opening s user project sent) : Parting s user project [] sent :=
  ⟨sent, [], by simp, h, .nil⟩

theorem Parting.course (h : Parting s user project left sent) : Course s user project left sent :=
  ⟨sent, [], by simp, h, .inl rfl⟩

theorem Course.nothing (s : Store) (user : UserId) (project : ProjectId) :
    Course s user project [] [] :=
  Parting.course (Opening.parting ⟨[], [], rfl, .none _ _, .inl rfl⟩)

theorem Course.sameCatalog (h : Course s' user project left sent) (hs : s.SameCatalog s')
    (hstale : s'.stale = s.stale) : Course s user project left sent := by
  obtain ⟨_, written, hsent, ⟨_, removed, rfl, ⟨retried, looked, rfl, hretried, hlooked⟩,
    hremoved⟩, hwritten⟩ := h
  rw [Retrying, Store.pendingOf, hstale] at hretried
  have hopening : Opening s user project (retried ++ looked) :=
    ⟨retried, looked, rfl, hretried.sameCatalog hs, hlooked.sameCatalog hs⟩
  exact ⟨_, written, hsent, ⟨_, removed, rfl, hopening, hremoved.sameCatalog hs⟩,
    hwritten.sameCatalog hs⟩

theorem LookingUp.connection_eq {c : Connection} (h : LookingUp c sent) :
    ∀ x ∈ sent, x.connection = c := by
  cases h <;> simp

theorem Writing.connection_eq {c : Connection} (h : Writing c sent) :
    ∀ x ∈ sent, x.connection = c := by
  cases h <;> simp

/-- What is sent to a system goes through one connection, to which the user is admitted. -/
theorem SentTo.connection {system : SystemId} {P : Connection → List Exchange → Prop}
    (h : SentTo s user system P sent) (hP : ∀ c sent, P c sent → ∀ x ∈ sent, x.connection = c) :
    ∀ x ∈ sent, x.connection.id = system ∧ s.Admits user x.connection := by
  rcases h with rfl | ⟨c, hc, hadmits, hthrough⟩
  · simp
  · have hsame : ∀ x ∈ sent, x.connection = c := by
      cases hthrough with
      | refused err s' => simp
      | made s' h => simpa using hP c _ h
    intro x hx
    rw [hsame x hx]
    exact ⟨hc, hadmits⟩

theorem SentAlong.connection {P : Connection → List Exchange → Prop}
    (h : SentAlong s user project P sent)
    (hP : ∀ c sent, P c sent → ∀ x ∈ sent, x.connection = c) :
    ∀ x ∈ sent, s.Admits user x.connection ∧ ∃ r, s.bookingRoute? project = some r ∧
      x.connection.id = r.id ∧ x.connection.system = r.system := by
  rcases h with rfl | ⟨r, hr, hsent⟩
  · simp
  · intro x hx
    obtain ⟨hid, hadmits⟩ := hsent.connection hP x hx
    have hsystem : s.system? r.id = some r.system := (Store.routeId?_of_bookingRoute? hr).2.1
    refine ⟨hadmits, r, hr, hid, ?_⟩
    exact Option.some.inj (hadmits.1.symm.trans (hid ▸ hsystem))

theorem Deletions.admits (h : Deletions s rows sent) (users : ∀ d ∈ rows, d.user = user) :
    ∀ x ∈ sent, s.Admits user x.connection := by
  induction h with
  | nil => simp
  | cons head _ ih =>
      obtain ⟨hd, hrows⟩ := List.forall_mem_cons.mp users
      intro x hx
      rcases List.mem_append.mp hx with hx | hx
      · rw [← hd]
        exact (SentTo.connection head (fun c sent h => by cases h; simp) x hx).2
      · exact ih hrows x hx

theorem Retrying.admits (h : Retrying s user sent) : ∀ x ∈ sent, s.Admits user x.connection := by
  refine Deletions.admits h fun d hd => ?_
  obtain ⟨r, hr, rfl⟩ := List.mem_map.mp hd
  exact (Store.mem_pendingOf.mp hr).2

theorem Course.admits (h : Course s user project left sent) (users : ∀ d ∈ left, d.user = user) :
    ∀ x ∈ sent, s.Admits user x.connection := by
  obtain ⟨_, written, rfl, ⟨_, removed, rfl, ⟨retried, looked, rfl, hretried, hlooked⟩,
    hremoved⟩, hwritten⟩ := h
  intro x hx
  simp only [List.mem_append] at hx
  rcases hx with ((hx | hx) | hx) | hx
  · exact hretried.admits x hx
  · exact (hlooked.connection (fun _ _ h => h.connection_eq) x hx).1
  · exact hremoved.admits users x hx
  · exact (hwritten.connection (fun _ _ h => h.connection_eq) x hx).1

section Phrases
variable {K : Exchange → Prop} {P : Connection → List Exchange → Prop} {system : SystemId}
  (connect : ∀ c reply s', K ⟨c, .connect, reply, s'⟩)
include connect

theorem SentTo.forall (h : SentTo s user system P sent)
    (hP : ∀ c sent, P c sent → ∀ x ∈ sent, K x) : ∀ x ∈ sent, K x := by
  rcases h with rfl | ⟨c, -, -, hthrough⟩
  · simp
  · cases hthrough with
    | refused err s' => simpa using connect c (.error err) s'
    | made s' h => exact List.forall_mem_cons.mpr ⟨connect c (.ok ()) s', hP c _ h⟩

theorem SentAlong.forall (h : SentAlong s user project P sent)
    (hP : ∀ c sent, P c sent → ∀ x ∈ sent, K x) : ∀ x ∈ sent, K x := by
  rcases h with rfl | ⟨r, -, hsent⟩
  · simp
  · exact SentTo.forall connect hsent hP

theorem Deletions.forall (h : Deletions s rows sent)
    (deleted : ∀ c ticket id reply s', K ⟨c, .deleteWorklog ticket id, reply, s'⟩) :
    ∀ x ∈ sent, K x := by
  induction h with
  | nil => simp
  | cons head _ ih =>
      refine List.forall_mem_append.mpr ⟨SentTo.forall connect head fun c sent h => ?_, ih⟩
      cases h with
      | deleted reply s' => simpa using deleted c _ _ reply s'

end Phrases

theorem LookingUp.requests {c : Connection} (h : LookingUp c sent) :
    ∀ x ∈ sent, x.request.LooksUp := by
  cases h <;> simp [Request.LooksUp]

theorem Writing.requests {c : Connection} (h : Writing c sent) :
    ∀ x ∈ sent, x.request.WritesWorklog := by
  cases h <;> simp [Request.WritesWorklog]

theorem Parting.writesNothing (h : Parting s user project left sent) :
    ∀ x ∈ sent, ¬ x.request.WritesWorklog := by
  obtain ⟨_, removed, rfl, ⟨retried, looked, rfl, hretried, hlooked⟩, hremoved⟩ := h
  have hdeletions : ∀ {rows sent}, Deletions s rows sent →
      ∀ x ∈ sent, ¬ x.request.WritesWorklog :=
    fun h => h.forall (fun _ _ _ => not_false) (fun _ _ _ _ _ => not_false)
  refine List.forall_mem_append.mpr ⟨List.forall_mem_append.mpr ⟨hdeletions hretried, ?_⟩,
    hdeletions hremoved⟩
  exact hlooked.forall (fun _ _ _ => not_false)
    fun _ _ h x hx => Sync.not_writesWorklog_of_looksUp (h.requests x hx)

theorem SentAlong.deletion?_eq_none {P : Connection → List Exchange → Prop}
    (h : SentAlong s user project P sent)
    (hP : ∀ c sent, P c sent → ∀ x ∈ sent, x.request.LooksUp ∨ x.request.WritesWorklog) :
    ∀ x ∈ sent, x.deletion? = none := by
  refine h.forall (fun _ _ _ => rfl) fun c sent h x hx => ?_
  obtain ⟨c, request, reply, s'⟩ := x
  cases request with
  | deleteWorklog ticket id => exact (hP _ _ h _ hx).elim False.elim False.elim
  | _ => rfl

theorem Course.deletesFirst (h : Course s user project left sent) :
    sent.Pairwise fun x y => x.request.WritesWorklog → y.deletion? = none := by
  obtain ⟨parting, written, rfl, hparting, hwritten⟩ := h
  have hfront := hparting.writesNothing
  have hback := hwritten.deletion?_eq_none fun _ _ h x hx => .inr (h.requests x hx)
  refine List.pairwise_append.mpr ⟨?_, ?_, fun x hx y hy _ => hback y hy⟩
  · exact List.pairwise_of_forall_mem_list fun x hx y _ hwrites => absurd hwrites (hfront x hx)
  · exact List.pairwise_of_forall_mem_list fun x _ y hy _ => hback y hy

theorem Request.operation_of_looksUp {r : Request} (h : r.LooksUp) :
    r.operation = .search ∨ r.operation = .createIssue := by
  cases r <;> first | exact .inl rfl | exact .inr rfl | exact h.elim

theorem Request.operation_of_writesWorklog {r : Request} (h : r.WritesWorklog) :
    r.operation = .updateWorklog ∨ r.operation = .createWorklog := by
  cases r <;> first | exact .inl rfl | exact .inr rfl | exact h.elim

def countOf (op : Operation) (sent : List Exchange) : Nat :=
  sent.countP fun x => x.request.operation = op

theorem countOf_append {op : Operation} (first rest : List Exchange) :
    countOf op (first ++ rest) = countOf op first + countOf op rest := List.countP_append

theorem countOf_eq_zero {op : Operation} (h : ∀ x ∈ sent, x.request.operation ≠ op) :
    countOf op sent = 0 := List.countP_eq_zero.mpr fun x hx => by simpa using h x hx

theorem LookingUp.once {c : Connection} (h : LookingUp c sent) (op : Operation) :
    countOf op sent ≤ 1 := by
  cases h <;> cases op <;> simp [countOf, Request.operation]

theorem Writing.once {c : Connection} (h : Writing c sent) (op : Operation) :
    countOf op sent ≤ 1 := by
  cases h <;> cases op <;> simp [countOf, Request.operation]

theorem SentAlong.once {P : Connection → List Exchange → Prop} {op : Operation}
    (h : SentAlong s user project P sent) (hconnect : op ≠ .connect)
    (hP : ∀ c sent, P c sent → countOf op sent ≤ 1) : countOf op sent ≤ 1 := by
  have hnone : ∀ c reply s', countOf op [⟨c, .connect, reply, s'⟩] = 0 :=
    fun c reply s' => countOf_eq_zero (by simpa [Request.operation] using hconnect.symm)
  rcases h with rfl | ⟨r, -, rfl | ⟨c, -, -, hthrough⟩⟩
  · simp [countOf]
  · simp [countOf]
  · cases hthrough with
    | refused err s' => rw [hnone]; omega
    | @made s' rest h =>
        rw [← List.singleton_append, countOf_append, hnone, Nat.zero_add]
        exact hP c rest h

theorem Deletions.countOf_eq_zero {op : Operation} (h : Deletions s rows sent)
    (hconnect : op ≠ .connect) (hdelete : op ≠ .deleteWorklog) : countOf op sent = 0 :=
  Timesheet.countOf_eq_zero (h.forall (fun _ _ _ => hconnect.symm) fun _ _ _ _ _ => hdelete.symm)

theorem Course.once {op : Operation} (h : Course s user project left sent)
    (hconnect : op ≠ .connect) (hdelete : op ≠ .deleteWorklog) : countOf op sent ≤ 1 := by
  obtain ⟨_, written, rfl, ⟨_, removed, rfl, ⟨retried, looked, rfl, hretried, hlooked⟩,
    hremoved⟩, hwritten⟩ := h
  rw [countOf_append, countOf_append, countOf_append,
    Deletions.countOf_eq_zero hretried hconnect hdelete,
    hremoved.countOf_eq_zero hconnect hdelete]
  have hlooked_le := hlooked.once hconnect fun _ _ h => h.once op
  have hwritten_le := hwritten.once hconnect fun _ _ h => h.once op
  -- No kind of request is both for looking up and for writing.
  have hdisjoint : countOf op looked = 0 ∨ countOf op written = 0 := by
    by_cases hop : op = .search ∨ op = .createIssue
    · refine .inr (Timesheet.countOf_eq_zero (hwritten.forall (fun _ _ _ => hconnect.symm) ?_))
      intro _ _ h x hx heq
      have hwrites := Request.operation_of_writesWorklog (h.requests x hx)
      rw [heq] at hwrites
      rcases hop with rfl | rfl <;> simp at hwrites
    · refine .inl (Timesheet.countOf_eq_zero (hlooked.forall (fun _ _ _ => hconnect.symm) ?_))
      exact fun _ _ h x hx heq => hop (heq ▸ Request.operation_of_looksUp (h.requests x hx))
  omega

/-- An issue is opened only directly after a search that was answered. -/
def OpenedAfterSearch (sent : List Exchange) : Prop :=
  ∀ before x later, sent = before ++ x :: later → x.request.operation = .createIssue →
    ∃ front y, before = front ++ [y] ∧ y.Found

theorem openedAfterSearch_of_none (h : ∀ x ∈ sent, x.request.operation ≠ .createIssue) :
    OpenedAfterSearch sent := by
  rintro before x later rfl hx
  exact absurd hx (h x (by simp))

theorem OpenedAfterSearch.append {first rest : List Exchange} (h : OpenedAfterSearch first)
    (h' : OpenedAfterSearch rest) : OpenedAfterSearch (first ++ rest) := by
  intro before x later hsplit hx
  rcases split_append hsplit with ⟨back, hfirst, -⟩ | ⟨front, rfl, hrest⟩
  · exact h before x back hfirst hx
  · obtain ⟨front', y, rfl, hfound⟩ := h' front x later hrest hx
    exact ⟨first ++ front', y, by simp, hfound⟩

theorem LookingUp.openedAfterSearch {c : Connection} (h : LookingUp c sent) :
    OpenedAfterSearch sent := by
  cases h with
  | searched query fields limit reply s =>
      exact openedAfterSearch_of_none (by simp [Request.operation])
  | opened query fields limit found s key draft reply s' =>
      intro before x later hsplit hx
      rcases before with _ | ⟨y, _ | ⟨z, rest⟩⟩
      · cases hsplit
        cases hx
      · cases hsplit
        exact ⟨[], _, rfl, trivial⟩
      · simp at hsplit

theorem Course.openedAfterSearch (h : Course s user project left sent) :
    OpenedAfterSearch sent := by
  obtain ⟨_, written, rfl, ⟨_, removed, rfl, ⟨retried, looked, rfl, hretried, hlooked⟩,
    hremoved⟩, hwritten⟩ := h
  have hdeletions : ∀ {rows sent}, Deletions s rows sent → OpenedAfterSearch sent :=
    fun h => openedAfterSearch_of_none (h.forall (by simp [Request.operation])
      (by simp [Request.operation]))
  refine ((OpenedAfterSearch.append (hdeletions hretried) ?_).append (hdeletions hremoved)).append
    (openedAfterSearch_of_none (hwritten.forall (by simp [Request.operation]) ?_))
  · rcases hlooked with rfl | ⟨r, -, rfl | ⟨c, -, -, hthrough⟩⟩
    · exact openedAfterSearch_of_none (by simp)
    · exact openedAfterSearch_of_none (by simp)
    · cases hthrough with
      | refused err s' => exact openedAfterSearch_of_none (by simp [Request.operation])
      | made s' h =>
          exact (openedAfterSearch_of_none (by simp [Request.operation]) :
            OpenedAfterSearch [⟨c, .connect, .ok (), s'⟩]).append h.openedAfterSearch
  · intro _ _ h x hx heq
    rcases Request.operation_of_writesWorklog (h.requests x hx) with hop | hop <;>
      simp [hop] at heq

theorem Course.recreated (h : Course s user project left sent) :
    sent.Pairwise fun x y => x.request.operation = .updateWorklog →
      y.request.operation = .createWorklog → x.gone? ≠ none := by
  obtain ⟨parting, written, rfl, hparting, hwritten⟩ := h
  have hfront : ∀ x ∈ parting, x.request.operation ≠ .updateWorklog := by
    intro x hx hop
    refine hparting.writesNothing x hx ?_
    obtain ⟨c, request, reply, s'⟩ := x
    cases request <;> trivial
  refine List.pairwise_append.mpr ⟨?_, ?_, fun x hx y _ hop => absurd hop (hfront x hx)⟩
  · exact List.pairwise_of_forall_mem_list fun x hx y _ hop => absurd hop (hfront x hx)
  · rcases hwritten with rfl | ⟨r, -, rfl | ⟨c, -, -, hthrough⟩⟩
    · exact .nil
    · exact .nil
    · cases hthrough with
      | refused err s' => simp
      | made s' h => cases h <;> simp [Request.operation, Exchange.gone?]

theorem Course.routed (h : Course s user project left sent) :
    ∀ x ∈ sent, x.request.Books → ∃ r, s.bookingRoute? project = some r ∧
      x.connection.id = r.id ∧ x.connection.system = r.system := by
  obtain ⟨_, written, rfl, ⟨_, removed, rfl, ⟨retried, looked, rfl, hretried, hlooked⟩,
    hremoved⟩, hwritten⟩ := h
  have hdeletions : ∀ {rows sent}, Deletions s rows sent → ∀ x ∈ sent, ¬ x.request.Books :=
    fun h => h.forall (fun _ _ _ => not_false) (fun _ _ _ _ _ => not_false)
  intro x hx hbooks
  simp only [List.mem_append] at hx
  rcases hx with ((hx | hx) | hx) | hx
  · exact absurd hbooks (hdeletions hretried x hx)
  · exact (hlooked.connection (fun _ _ h => h.connection_eq) x hx).2
  · exact absurd hbooks (hdeletions hremoved x hx)
  · exact (hwritten.connection (fun _ _ h => h.connection_eq) x hx).2

def deletionsIn (sent : List Exchange) : List Worklog := sent.filterMap Exchange.deletion?

theorem deletionsIn_append (first rest : List Exchange) :
    deletionsIn (first ++ rest) = deletionsIn first ++ deletionsIn rest := List.filterMap_append

theorem deletionsIn_eq_nil (h : ∀ x ∈ sent, x.deletion? = none) : deletionsIn sent = [] :=
  List.filterMap_eq_nil_iff.mpr h

theorem Removal.deletionsIn {d : StaleWorklog} (h : Removal s d sent) :
    deletionsIn sent = [] ∨ deletionsIn sent = [d.target] := by
  rcases h with rfl | ⟨c, hc, -, hthrough⟩
  · exact .inl rfl
  · cases hthrough with
    | refused err s' => exact .inl rfl
    | made s' h =>
        cases h with
        | deleted reply s'' => exact .inr (by rw [StaleWorklog.target, ← hc]; rfl)

theorem Deletions.sublist (h : Deletions s rows sent) :
    (deletionsIn sent).Sublist (rows.map StaleWorklog.target) := by
  induction h with
  | nil => exact .slnil
  | cons head _ ih =>
      rw [deletionsIn_append, List.map_cons]
      rcases Removal.deletionsIn head with hnone | hone
      · rw [hnone, List.nil_append]
        exact ih.cons _
      · rw [hone]
        exact ih.cons_cons _

theorem Course.deletions (h : Course s user project left sent) :
    ∃ retried removed, deletionsIn sent = retried ++ removed ∧
      retried.Sublist ((s.pendingOf user).map (·.2.target)) ∧
      removed.Sublist (left.map StaleWorklog.target) := by
  obtain ⟨_, written, rfl, ⟨_, removed, rfl, ⟨retried, looked, rfl, hretried, hlooked⟩,
    hremoved⟩, hwritten⟩ := h
  refine ⟨deletionsIn retried, deletionsIn removed, ?_, ?_, hremoved.sublist⟩
  · rw [deletionsIn_append, deletionsIn_append, deletionsIn_append,
      deletionsIn_eq_nil (hlooked.deletion?_eq_none fun _ _ h x hx => .inl (h.requests x hx)),
      deletionsIn_eq_nil (hwritten.deletion?_eq_none fun _ _ h x hx => .inr (h.requests x hx)),
      List.append_nil, List.append_nil]
  · have hsublist := Deletions.sublist hretried
    rwa [List.map_map] at hsublist

end Timesheet
