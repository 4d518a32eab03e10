import Timesheet.Proofs.NaturalOrder
import Timesheet.Proofs.Readiness

/-!
What a refresh collects. When everything is there and the tracker answers, each main ticket is asked
for once, in order, and the keys that come together are stored in natural order. So the stored list
is told by the collected keys alone, whatever the order in which they came.
-/
namespace Timesheet

/-- The main tickets, each followed by the keys that are found for it. -/
def collectedKeys (found : List (String × List String)) : List String :=
  found.flatMap fun f => f.1 :: f.2

namespace Sync

variable {σ : Type} {tracker : Tracker σ} {c : Connection} {id : ProjectId} {p : Project}
  {w : World σ} {found : List (String × List String)}

/-- In the state `x` and those after it, the tracker answers requests for these tickets, made one
after the other, with these keys. -/
def AnswersAll (tracker : Tracker σ) (c : Connection) : List (String × List String) → σ → Prop
  | [], _ => True
  | (main, children) :: rest, x =>
    (tracker c (.subtickets main) x).1 = .ok children ∧
      AnswersAll tracker c rest (tracker c (.subtickets main) x).2

/-- A refresh of the project `id` has all that it needs, and the project may be stored, as any may
after a history from the empty store. The tracker lets it connect and answers for each main
ticket. -/
structure Answered (tracker : Tracker σ) (w : World σ) (id : ProjectId) (p : Project)
    (c : Connection) (found : List (String × List String)) : Prop where
  ready : w.store.Ready id p c
  allowed : w.store.allowsProject p = true
  mains : found.map (·.1) = p.mainTicketKeys
  connects : (tracker c .connect w.remote).1 = .ok ()
  answers : AnswersAll tracker c found (tracker c .connect w.remote).2

/-- The exchanges about these tickets over `c`, each with the store as it is in `s`. -/
def askedFor (s : Store) (c : Connection) (found : List (String × List String)) : List Exchange :=
  found.map fun f => ⟨c, .subtickets f.1, .ok f.2, s⟩

theorem gather_answered (h : AnswersAll tracker c found w.remote) :
    (gather tracker c (found.map (·.1))).Leads
      (fun keys w' => keys = collectedKeys found ∧ w'.store = w.store ∧
        w'.journal = w.journal ++ askedFor w.store c found)
      (fun _ _ => False) w := by
  induction found generalizing w with
  | nil => exact ⟨rfl, rfl, (List.append_nil _).symm⟩
  | cons f rest ih =>
      obtain ⟨main, children⟩ := f
      obtain ⟨hanswer, hrest⟩ := h
      rw [List.map_cons, gather, leads_bind, leads_send, hanswer]
      dsimp only
      rw [leads_bind]
      refine (ih hrest).mono ?_ (fun _ _ h => h)
      intro keys w' hkeys
      obtain ⟨rfl, hstore, hjournal⟩ := hkeys
      refine ⟨rfl, hstore, ?_⟩
      rw [hjournal, World.note_journal, World.note_store, List.append_assoc]
      rfl

theorem resolveSubtickets_answered (h : Answered tracker w id p c found) :
    (resolveSubtickets tracker id).Leads
      (fun keys w' => keys = Text.naturalSort (collectedKeys found) ∧
        w'.store = w.store.withSubtickets id keys ∧
        w'.journal = w.journal ++ ⟨c, .connect, .ok (), w.store⟩ :: askedFor w.store c found)
      (fun _ _ => False) w := by
  rw [leads_resolveSubtickets, h.ready.refreshBase_eq]
  dsimp only
  rw [leads_send, h.connects, ← h.mains]
  refine (gather_answered h.answers).mono ?_ (fun _ _ h => h)
  intro keys w' hkeys
  obtain ⟨rfl, hstore, hjournal⟩ := hkeys
  rw [World.note_store] at hstore hjournal
  have hp : w'.store.project? id = some p := hstore ▸ h.ready.project
  refine (leads_saveSubtickets hp _).mpr ?_
  rw [hstore, if_pos h.allowed]
  refine ⟨rfl, rfl, ?_⟩
  rw [World.put_journal, hjournal, World.note_journal, List.append_assoc]
  rfl

end Sync

/-- A refresh that is answered asks for each main ticket once, in order, and stores all that it
collects, in natural order. Nothing else changes. Any other refresh that collects the same keys, in
whatever order and from whatever tracker, gives and stores the same list. -/
theorem answered_refresh_stores_sorted_keys {σ : Type} {tracker : Tracker σ} {w : World σ}
    {id : ProjectId} {p : Project} {c : Connection} {found : List (String × List String)}
    (h : Sync.Answered tracker w id p c found) :
    ∃ keys w', Sync.outcome (Sync.resolveSubtickets tracker id) w = (.ok keys, w') ∧
      keys.Perm (collectedKeys found) ∧
      keys.Pairwise (fun a b => Text.naturalCompare a b ≠ .gt) ∧
      w'.store = w.store.withSubtickets id keys ∧
      w'.store.project? id = some { p with subtickets := Text.joinKeys keys } ∧
      w'.journal =
        w.journal ++ ⟨c, .connect, .ok (), w.store⟩ :: Sync.askedFor w.store c found ∧
      ∀ (τ : Type) (tracker₂ : Tracker τ) (w₂ : World τ) id₂ p₂ c₂ found₂,
        Sync.Answered tracker₂ w₂ id₂ p₂ c₂ found₂ →
        (collectedKeys found₂).Perm (collectedKeys found) →
        ∃ w₂', Sync.outcome (Sync.resolveSubtickets tracker₂ id₂) w₂ = (.ok keys, w₂') ∧
          w₂'.store.project? id₂ = some { p₂ with subtickets := Text.joinKeys keys } := by
  obtain ⟨keys, w', hrun, rfl, hstore, hjournal⟩ := (Sync.resolveSubtickets_answered h).succeeds
  refine ⟨_, w', hrun, Text.naturalSort_perm _, Text.naturalSort_sorted _, hstore, ?_, hjournal, ?_⟩
  · rw [hstore, Store.project?_withSubtickets, h.ready.project, Option.map_some, if_pos rfl]
  · intro _ tracker₂ w₂ id₂ p₂ c₂ found₂ h₂ hperm
    obtain ⟨keys₂, w₂', hrun₂, rfl, hstore₂, -⟩ := (Sync.resolveSubtickets_answered h₂).succeeds
    rw [Text.naturalSort_eq_of_perm hperm] at hrun₂ hstore₂
    refine ⟨w₂', hrun₂, ?_⟩
    rw [hstore₂, Store.project?_withSubtickets, h₂.ready.project, Option.map_some, if_pos rfl]

def pairProject : Project := { ledProject with mainTickets := some "DEF-2, ABC-1" }

def pairOffice : World InMemory :=
  { store := { office with projects := Table.empty.push pairProject }
    remote := { InMemory.empty with children := [("ABC-1", ["abc-10", "ABC-2"])] }
    journal := [] }

theorem answered_refresh_stores_sorted_keys_pairOffice :
    ∃ w', Sync.outcome (Sync.resolveSubtickets InMemory.tracker ⟨1⟩) pairOffice =
        (.ok ["ABC-1", "ABC-2", "abc-10", "DEF-2"], w') ∧
      w'.store.project? ⟨1⟩ =
        some { pairProject with subtickets := "ABC-1,ABC-2,abc-10,DEF-2" } ∧
      w'.journal.map (·.request) = [.connect, .subtickets "DEF-2", .subtickets "ABC-1"] := by
  have hanswered : Sync.Answered InMemory.tracker pairOffice ⟨1⟩ pairProject
      ⟨⟨1⟩, ⟨"tracker", .jira, "", true⟩, ⟨"token", ""⟩⟩
      [("DEF-2", []), ("ABC-1", ["abc-10", "ABC-2"])] :=
    { ready :=
        { project := rfl, systemId := rfl, system := rfl, mains := by decide
          token := ⟨⟨1⟩, ⟨"ada"⟩, rfl, rfl, rfl⟩ }
      allowed := rfl
      mains := by decide
      connects := rfl
      answers := ⟨rfl, rfl, trivial⟩ }
  obtain ⟨keys, w', hrun, hperm, hsorted, -, hproject, hjournal, -⟩ :=
    answered_refresh_stores_sorted_keys hanswered
  have hkeys : keys = ["ABC-1", "ABC-2", "abc-10", "DEF-2"] :=
    Text.sorted_unique (hperm.trans (by decide)) hsorted (by decide +kernel)
  subst hkeys
  refine ⟨w', hrun, hproject, ?_⟩
  rw [hjournal]
  rfl

end Timesheet
