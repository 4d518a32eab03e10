import Timesheet.Command.Run
import Timesheet.Proofs.Spans

/-!
Entries that are added with a duration. They last as long as was asked for, to the minute, or they
are refused because they would not end on their day.
-/
namespace Timesheet

variable {start finish : Clock} {minutes : Nat}

namespace Clock

theorem ofSeconds?_eq_some_iff {n : Nat} {t : Clock} : ofSeconds? n = some t ↔ t.seconds = n := by
  unfold ofSeconds?
  constructor
  · intro h
    split at h
    · cases h
      rfl
    · cases h
  · rintro rfl
    exact dif_pos t.before_midnight

theorem seconds_eq_parts (t : Clock) : (t.hour * 60 + t.minute) * 60 + t.second = t.seconds := by
  unfold hour minute second
  omega

end Clock

/-- A duration counts from the full minute in which the entry starts. -/
theorem EntryEnd.resolve_duration_eq_some_iff :
    (duration minutes).resolve start = some finish ↔
      finish.seconds + start.second = start.seconds + 60 * minutes := by
  have hparts := start.seconds_eq_parts
  rw [resolve, Clock.ofSeconds?_eq_some_iff]
  omega

theorem EntryEnd.exists_resolve_duration_iff (hfull : start.second = 0) :
    (∃ finish, (duration minutes).resolve start = some finish) ↔
      start.seconds + 60 * minutes < 86400 := by
  simp only [resolve_duration_eq_some_iff, hfull, Nat.add_zero]
  constructor
  · rintro ⟨finish, hfinish⟩
    rw [← hfinish]
    exact finish.before_midnight
  · intro hbefore
    exact ⟨⟨_, hbefore⟩, rfl⟩

theorem spanMinutes_of_add (h : finish.seconds = start.seconds + 60 * minutes) :
    start ≤ finish ∧ spanMinutes start finish = minutes := by
  have hle : start ≤ finish := by
    show start.seconds ≤ finish.seconds
    omega
  refine ⟨hle, ?_⟩
  rw [spanMinutes_of_le hle, h, Nat.add_sub_cancel_left, Nat.mul_div_cancel_left _ (by decide)]

theorem EntryInput.span_of_le (input : EntryInput) (h : input.start ≤ input.finish) :
    input.values.start = input.start ∧ input.values.finish = input.finish ∧
      input.values.minutes = spanMinutes input.start input.finish := by
  have hforward : ¬ input.finish < input.start := Nat.not_lt_of_le h
  unfold values
  rw [if_neg hforward]
  exact ⟨rfl, rfl, rfl⟩

theorem Run.run_meantEnd {σ : Type} (e : EntryEnd) (start : Clock) (m : Machine σ) :
    (Run.meantEnd e start).run.run m =
      match e.resolve start with
      | some finish => (.ok finish, m)
      | none => (.error .pastMidnight, m) := by
  unfold Run.meantEnd
  cases e.resolve start <;> rfl

/-- An entry that starts on a full minute and is to last `minutes` has an end exactly if this is
before midnight; else it is refused. The end is no earlier than the start, and there are `minutes`
between them. Whatever the tracker does, a valid entry is stored with this start and this end, and
with these `minutes`. -/
theorem duration_is_kept (start : Clock) (hfull : start.second = 0) (minutes : Nat) :
    (∀ (σ : Type) (m : Machine σ),
      (start.seconds + 60 * minutes < 86400 →
        ∃ finish, (Run.meantEnd (.duration minutes) start).run.run m = (.ok finish, m)) ∧
      (86400 ≤ start.seconds + 60 * minutes →
        (Run.meantEnd (.duration minutes) start).run.run m = (.error .pastMidnight, m))) ∧
    ∀ (σ : Type) (m m' : Machine σ) (finish : Clock),
      (Run.meantEnd (.duration minutes) start).run.run m = (.ok finish, m') →
      m' = m ∧ finish.seconds = start.seconds + 60 * minutes ∧ start ≤ finish ∧
        spanMinutes start finish = minutes ∧
        ∀ (tracker : Tracker σ) (user : UserId) (w : World σ) (fields : EntryFields) (day : Date),
          (fields.input day start finish).check w.store = .ok () →
          w.store.users.contains user = true →
          ∃ saved w', Sync.outcome
              (Sync.save tracker user none (fields.input day start finish)) w = (.ok saved, w') ∧
            w'.store.entryAt saved.id = .ok (some saved.entry) ∧ saved.entry.start = start ∧
            saved.entry.finish = finish ∧ saved.entry.minutes = minutes := by
  constructor
  · intro σ m
    rw [Run.run_meantEnd]
    constructor
    · intro hbefore
      obtain ⟨finish, hfinish⟩ := (EntryEnd.exists_resolve_duration_iff hfull).mpr hbefore
      exact ⟨finish, by rw [hfinish]⟩
    · intro hpast
      have hnone : (EntryEnd.duration minutes).resolve start = none := by
        rw [Option.eq_none_iff_forall_ne_some]
        intro finish hfinish
        exact Nat.not_lt_of_le hpast
          ((EntryEnd.exists_resolve_duration_iff hfull).mp ⟨finish, hfinish⟩)
      rw [hnone]
  · intro σ m m' finish hrun
    rw [Run.run_meantEnd] at hrun
    cases hfinish : (EntryEnd.duration minutes).resolve start with
    | none =>
        rw [hfinish] at hrun
        cases hrun
    | some t =>
        rw [hfinish] at hrun
        cases hrun
        have hseconds := EntryEnd.resolve_duration_eq_some_iff.mp hfinish
        rw [hfull, Nat.add_zero] at hseconds
        obtain ⟨hle, hspan⟩ := spanMinutes_of_add hseconds
        refine ⟨rfl, hseconds, hle, hspan, ?_⟩
        intro tracker user w fields day hcheck huser
        obtain ⟨saved, w', hsave, -, hstored, hvalues, -⟩ :=
          Sync.save_stores tracker none hcheck huser nofun
        obtain ⟨hstart, hend, hminutes⟩ :=
          (fields.input day start finish).span_of_le hle
        refine ⟨saved, w', hsave, hstored, ?_, ?_, ?_⟩
        · exact (congrArg Values.start hvalues).trans hstart
        · exact (congrArg Values.finish hvalues).trans hend
        · exact (congrArg Values.minutes hvalues).trans (hminutes.trans hspan)

def lateStart : Clock := ⟨80100, by decide⟩

def lateFields : EntryFields :=
  { project := ⟨1⟩, customer := none, activity := none, ticket := "A-1", description := "late" }

def eveningMachine : Machine InMemory :=
  { home := "/home/ada", files := ⟨[]⟩, memory := .empty, console := ⟨[], none, "", ""⟩
    today := onOtherTicket.day, time := ⟨lateStart, 0⟩, remote := InMemory.empty }

/-- After 104 minutes it is a minute before midnight; one minute more is too long. -/
theorem duration_is_kept_late :
    lateStart.second = 0 ∧
    (∃ finish saved w',
      (Run.meantEnd (.duration 104) lateStart).run.run eveningMachine =
        (.ok finish, eveningMachine) ∧
      Sync.outcome (Sync.save InMemory.tracker ⟨1⟩ none
        (lateFields.input onOtherTicket.day lateStart finish)) quietOffice = (.ok saved, w') ∧
      saved.entry.finish.seconds = 86340 ∧ saved.entry.minutes = 104) ∧
    (Run.meantEnd (.duration 105) lateStart).run.run eveningMachine =
      (.error .pastMidnight, eveningMachine) := by
  have hfull : lateStart.second = 0 := by decide
  obtain ⟨hends, hkept⟩ := duration_is_kept lateStart hfull 104
  obtain ⟨finish, hrun⟩ := (hends InMemory eveningMachine).1 (by decide)
  obtain ⟨-, hseconds, -, -, hstored⟩ := hkept InMemory eveningMachine eveningMachine finish hrun
  have hfinish : finish = ⟨86340, by decide⟩ := by
    cases finish
    cases hseconds
    rfl
  subst hfinish
  obtain ⟨saved, w', hsave, -, -, hend, hminutes⟩ :=
    hstored InMemory.tracker ⟨1⟩ quietOffice lateFields onOtherTicket.day (by decide +kernel)
      (by decide +kernel)
  refine ⟨hfull, ⟨_, saved, w', hrun, hsave, by rw [hend], hminutes⟩, ?_⟩
  exact ((duration_is_kept lateStart hfull 105).1 InMemory eveningMachine).2 (by decide)

end Timesheet
