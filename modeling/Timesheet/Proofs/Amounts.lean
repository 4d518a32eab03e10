import Mathlib.Algebra.GroupWithZero.Nat
import Mathlib.Data.List.Induction
import Mathlib.Data.List.TakeWhile
import Timesheet.Calendar.Duration
import Timesheet.Proofs.DigitRuns

/-!
The language of typed amounts of time: numbers with the units `h` and `m`, in any order, and perhaps
a last number without a unit. What is read is exactly this language, each text as the sum of its
parts.
-/
namespace Timesheet.Duration

inductive Scale where
  | hours
  | minutes
deriving DecidableEq

namespace Scale

def letter : Scale → Char
  | hours => 'h'
  | minutes => 'm'

def factor : Scale → Nat
  | hours => 60
  | minutes => 1

def last : Scale → Last
  | hours => .hours
  | minutes => .minutes

end Scale

structure Segment where
  digits : List Char
  scale : Scale
  nonempty : digits ≠ []
  allDigits : Text.AllDigits digits

namespace Segment

def chars (s : Segment) : List Char := s.digits ++ [s.scale.letter]

def minutes (s : Segment) : Nat := s.scale.factor * Text.runValue s.digits

end Segment

/-- Segments, and behind them the digits of a number without a unit. There need not be both, and
behind minutes there is no such number. -/
structure Amount where
  segments : List Segment
  bare : List Char
  bareDigits : Text.AllDigits bare
  nonempty : segments ≠ [] ∨ bare ≠ []
  afterHours : bare ≠ [] → ∀ s ∈ segments.getLast?, s.scale = .hours

namespace Amount

def chars (a : Amount) : List Char := a.segments.flatMap Segment.chars ++ a.bare

/-- A number without a unit counts hours where it stands alone. -/
def bareScale (a : Amount) : Scale := if a.segments.isEmpty then .hours else .minutes

def minutes (a : Amount) : Nat :=
  (a.segments.map Segment.minutes).sum + a.bareScale.factor * Text.runValue a.bare

end Amount

variable {last : Last} {total n : Nat} {run rest cs : List Char} {segments : List Segment}

theorem readOn_moreDigits (h : Text.AllDigits run) :
    readOn last total (some n) (run ++ rest) =
      readOn last total (some (Nat.ofDigitChars 10 run n)) rest := by
  induction run generalizing n with
  | nil => rfl
  | cons c cs ih =>
      obtain ⟨hc, hcs⟩ := List.forall_mem_cons.mp h
      rw [List.cons_append, readOn, if_pos hc, Nat.ofDigitChars_cons]
      exact ih hcs

theorem readOn_digits (hne : run ≠ []) (h : Text.AllDigits run) :
    readOn last total none (run ++ rest) =
      readOn last total (some (Text.runValue run)) rest := by
  cases run with
  | nil => exact absurd rfl hne
  | cons c cs =>
      obtain ⟨hc, hcs⟩ := List.forall_mem_cons.mp h
      rw [List.cons_append, readOn, if_pos hc, Text.runValue, Nat.ofDigitChars_cons]
      exact readOn_moreDigits hcs

theorem readOn_letter (scale : Scale) :
    readOn last total (some n) (scale.letter :: rest) =
      readOn scale.last (total + scale.factor * n) none rest := by
  cases scale with
  | hours => rfl
  | minutes => simp [readOn, Scale.letter, Scale.last, Scale.factor]

theorem readOn_segment (s : Segment) :
    readOn last total none (s.chars ++ rest) =
      readOn s.scale.last (total + s.minutes) none rest := by
  rw [Segment.chars, List.append_assoc, readOn_digits s.nonempty s.allDigits]
  exact readOn_letter s.scale

def lastOf (segments : List Segment) : Last := segments.getLast?.elim .nothing (·.scale.last)

theorem readOn_segments (segments : List Segment) (rest : List Char) :
    readOn .nothing 0 none (segments.flatMap Segment.chars ++ rest) =
      readOn (lastOf segments) (segments.map Segment.minutes).sum none rest := by
  induction segments using List.reverseRecOn generalizing rest with
  | nil => rfl
  | append_singleton front s ih =>
      rw [List.flatMap_append, List.append_assoc, ih, List.flatMap_singleton, readOn_segment]
      simp [lastOf]

theorem digits_or_segment (h : readOn last total none cs = .ok n) :
    Text.AllDigits cs ∨ ∃ (s : Segment) (rest : List Char), cs = s.chars ++ rest := by
  have hwhole := List.takeWhile_append_dropWhile (p := Char.isDigit) (l := cs)
  have hdigits : Text.AllDigits (cs.takeWhile Char.isDigit) := fun c hc =>
    List.mem_takeWhile_imp hc
  have hhead := List.head?_dropWhile_not Char.isDigit cs
  rcases hrest : cs.dropWhile Char.isDigit with _ | ⟨c, rest⟩
  · rw [hrest, List.append_nil] at hwhole
    exact .inl (hwhole ▸ hdigits)
  · rw [hrest] at hwhole hhead
    have hc : ¬ c.isDigit = true := by simpa using hhead
    by_cases hne : cs.takeWhile Char.isDigit = []
    · rw [← hwhole, hne, List.nil_append, readOn, if_neg hc] at h
      split at h
      · cases h
      · split at h <;> cases h
    · have hunit : ∃ scale : Scale, c = scale.letter := by
        rw [← hwhole, readOn_digits hne hdigits, readOn, if_neg hc] at h
        split at h
        · next hh => exact ⟨.hours, hh⟩
        · split at h
          · next hm => exact ⟨.minutes, hm⟩
          · cases h
      obtain ⟨scale, rfl⟩ := hunit
      refine .inr ⟨⟨cs.takeWhile Char.isDigit, scale, hne, hdigits⟩, rest, ?_⟩
      simpa [Segment.chars] using hwhole.symm

theorem exists_segments {last : Last} {total : Nat} {cs : List Char}
    (h : readOn last total none cs = .ok n) :
    ∃ (segments : List Segment) (bare : List Char),
      cs = segments.flatMap Segment.chars ++ bare ∧ Text.AllDigits bare := by
  obtain hdigits | ⟨s, rest, hcs⟩ := digits_or_segment h
  · exact ⟨[], cs, rfl, hdigits⟩
  · have hshorter : rest.length < cs.length := by
      simp only [hcs, Segment.chars, List.length_append, List.length_singleton]
      omega
    rw [hcs, readOn_segment] at h
    obtain ⟨segments, bare, hrest, hbare⟩ := exists_segments h
    exact ⟨s :: segments, bare, by rw [hcs, hrest, List.flatMap_cons, List.append_assoc], hbare⟩
termination_by cs.length

theorem lastOf_eq_nothing_iff : lastOf segments = .nothing ↔ segments = [] := by
  unfold lastOf
  rcases hlast : segments.getLast? with _ | s
  · simpa using List.getLast?_eq_none_iff.mp hlast
  · have hne : segments ≠ [] := fun hnil => by simp [hnil] at hlast
    cases hscale : s.scale <;> simp [hscale, Scale.last, hne]

theorem lastOf_ne_minutes_iff :
    lastOf segments ≠ .minutes ↔ ∀ s ∈ segments.getLast?, s.scale = .hours := by
  unfold lastOf
  rcases segments.getLast? with _ | s
  · simp
  · cases hscale : s.scale <;> simp [hscale, Scale.last]

theorem readOn_bare (h : Text.AllDigits run) :
    readOn (lastOf segments) (segments.map Segment.minutes).sum none run = .ok n ↔
      (segments ≠ [] ∨ run ≠ []) ∧ (run ≠ [] → ∀ s ∈ segments.getLast?, s.scale = .hours) ∧
        (segments.map Segment.minutes).sum +
          (if segments.isEmpty then Scale.hours else .minutes).factor * Text.runValue run = n := by
  rw [← lastOf_ne_minutes_iff]
  have hnil : lastOf segments = .nothing ↔ segments = [] := lastOf_eq_nothing_iff
  by_cases hne : run = []
  · subst hne
    cases hlast : lastOf segments <;> simp_all [readOn, Text.runValue]
  · have hread : readOn (lastOf segments) (segments.map Segment.minutes).sum none (run ++ []) =
        readOn (lastOf segments) (segments.map Segment.minutes).sum (some (Text.runValue run)) [] :=
      readOn_digits hne h
    rw [List.append_nil] at hread
    rw [hread]
    cases hlast : lastOf segments with
    | nothing =>
        obtain rfl := hnil.mp hlast
        simp [readOn, hne, Scale.factor]
    | hours =>
        have hsome : segments ≠ [] := fun h => by simp [hnil.mpr h] at hlast
        simp [readOn, hne, hsome, Scale.factor]
    | minutes => simp [readOn, hne]

/-- A text is read exactly if it is an amount, and then as the minutes of the amount. -/
theorem parse_reads_amounts (text : String) (n : Nat) :
    parse text = .ok n ↔ ∃ a : Amount, text.toList = a.chars ∧ a.minutes = n := by
  unfold parse
  constructor
  · intro h
    obtain ⟨segments, bare, htext, hbare⟩ := exists_segments h
    rw [htext, readOn_segments] at h
    obtain ⟨hnonempty, hafter, hminutes⟩ := (readOn_bare hbare).mp h
    exact ⟨⟨segments, bare, hbare, hnonempty, hafter⟩, htext, hminutes⟩
  · intro h
    obtain ⟨a, htext, hminutes⟩ := h
    rw [htext, Amount.chars, readOn_segments]
    exact (readOn_bare a.bareDigits).mpr ⟨a.nonempty, a.afterHours, hminutes⟩

example : parse "1m2h3" = .ok 124 := by decide +kernel

end Timesheet.Duration
