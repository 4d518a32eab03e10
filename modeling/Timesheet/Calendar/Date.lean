import Timesheet.Calendar.Clock
import Timesheet.Calendar.Month

/-!
Dates of the proleptic Gregorian calendar from year -9999 to year 9999. Dates are ordered by `key`,
which the next day always increases.
-/
namespace Timesheet

def isLeapYear (year : Int) : Bool := year % 4 == 0 && (year % 100 != 0 || year % 400 == 0)

def daysInYear (year : Int) : Nat := if isLeapYear year then 366 else 365

def Month.length (m : Month) (year : Int) : Nat :=
  match m with
  | .april | .june | .september | .november => 30
  | .february => if isLeapYear year then 29 else 28
  | _ => 31

theorem Month.length_le (m : Month) (year : Int) : m.length year ≤ 31 := by
  cases m <;> simp only [Month.length] <;> grind

theorem Month.one_le_length (m : Month) (year : Int) : 1 ≤ m.length year := by
  cases m <;> simp only [Month.length] <;> grind

structure Date where
  year : Int
  month : Month
  day : Nat
  year_ge : -9999 ≤ year
  year_le : year ≤ 9999
  day_pos : 1 ≤ day
  day_le : day ≤ month.length year
deriving DecidableEq

namespace Date

/-- Why three numbers are no date. -/
inductive Fault where
  | year
  | day
deriving DecidableEq

def Fault.message : Fault → String
  | .year => "year was not in range"
  | .day => "day was not in range"

def ofParts (year : Int) (month : Month) (day : Nat) : Except Fault Date :=
  if hy : -9999 ≤ year ∧ year ≤ 9999 then
    if hd : 1 ≤ day ∧ day ≤ month.length year then
      .ok ⟨year, month, day, hy.1, hy.2, hd.1, hd.2⟩
    else .error .day
  else .error .year

/-- Position of a date in the calendar order. -/
def key (d : Date) : Int := (d.year * 12 + d.month.number) * 32 + d.day

instance : LE Date := ⟨fun a b => a.key ≤ b.key⟩
instance : LT Date := ⟨fun a b => a.key < b.key⟩
instance (a b : Date) : Decidable (a ≤ b) := inferInstanceAs (Decidable (a.key ≤ b.key))
instance (a b : Date) : Decidable (a < b) := inferInstanceAs (Decidable (a.key < b.key))

def next? (d : Date) : Option Date :=
  if h : d.day + 1 ≤ d.month.length d.year then
    some { d with day := d.day + 1, day_pos := by omega, day_le := h }
  else
    match d.month.next? with
    | some m =>
      some { d with month := m, day := 1, day_pos := by omega, day_le := m.one_le_length d.year }
    | none =>
      if hy : d.year + 1 ≤ 9999 then
        some { year := d.year + 1, month := .january, day := 1
               year_ge := by have := d.year_ge; omega, year_le := hy
               day_pos := by omega, day_le := Month.one_le_length _ _ }
      else none

def prev? (d : Date) : Option Date :=
  if h : 1 ≤ d.day - 1 then
    some { d with day := d.day - 1, day_pos := h, day_le := by have := d.day_le; omega }
  else
    match d.month.prev? with
    | some m =>
      some { d with month := m, day := m.length d.year, day_pos := m.one_le_length d.year
                    day_le := Nat.le_refl _ }
    | none =>
      if hy : -9999 ≤ d.year - 1 then
        some { year := d.year - 1, month := .december, day := Month.december.length (d.year - 1)
               year_ge := hy, year_le := by have := d.year_le; omega
               day_pos := Month.one_le_length _ _, day_le := Nat.le_refl _ }
      else none

theorem key_lt_of_next? {d n : Date} (h : d.next? = some n) : d.key < n.key := by
  have hd := d.day_le
  have hl := Month.length_le d.month d.year
  unfold next? at h
  split at h
  · cases h
    simp only [key]
    omega
  · split at h
    · next m hm =>
      cases h
      have : d.month.number < m.number := by
        revert hm
        cases d.month <;> cases m <;> decide
      simp only [key]
      omega
    · next =>
      split at h
      · cases h
        have := d.month.number_le
        have : Month.january.number = 1 := rfl
        simp only [key]
        omega
      · cases h

/-- The dates from `d` on, as long as they do not pass `last`; `d` itself is always among them. -/
def upTo (last d : Date) : List Date :=
  d :: match _h : d.next? with
    | none => []
    | some n => if n ≤ last then upTo last n else []
termination_by (last.key - d.key).toNat
decreasing_by
  have h₁ := key_lt_of_next? _h
  have h₂ : n.key ≤ last.key := by assumption
  omega

def back? : Nat → Date → Option Date
  | 0, d => some d
  | n + 1, d => d.prev?.bind (back? n)

def daysBefore (m : Month) (year : Int) : Nat :=
  (Month.all.filter (·.number < m.number)).foldl (fun n k => n + k.length year) 0

/-- Number of the day, counted so that 0001-01-01, a Monday, is 1. -/
def dayNumber (d : Date) : Int :=
  let y := d.year - 1
  365 * y + y / 4 - y / 100 + y / 400 + daysBefore d.month d.year + d.day

def weekday (d : Date) : Weekday :=
  match ((d.dayNumber - 1) % 7).toNat with
  | 0 => .monday | 1 => .tuesday | 2 => .wednesday | 3 => .thursday
  | 4 => .friday | 5 => .saturday | _ => .sunday

/-- Looks for `w` among the `n` days before `d`, the nearest first. -/
def searchBack (w : Weekday) : Nat → Date → Option Date
  | 0, _ => none
  | n + 1, d => d.prev?.bind fun p => if p.weekday = w then some p else searchBack w n p

def lastBefore? (w : Weekday) (d : Date) : Option Date := searchBack w 7 d

/-- The `n`-th day of the months from `ms` on. -/
def nthDay? (year : Int) : List Month → Nat → Option Date
  | [], _ => none
  | m :: ms, n =>
    if n ≤ m.length year then (ofParts year m n).toOption else nthDay? year ms (n - m.length year)

def ofOrdinal? (year : Int) (n : Nat) : Option Date := nthDay? year Month.all n

/-- The date of a week and a day of it: week 1 is the one with 4 January in it. -/
def ofWeek? (year : Int) (week : Nat) (w : Weekday) : Option Date := do
  let newYear ← (ofParts year .january 1).toOption
  let january4 ← (ofParts year .january 4).toOption
  let long := newYear.weekday = .thursday ∨ (isLeapYear year ∧ newYear.weekday = .wednesday)
  if 1 ≤ week ∧ (week ≤ 52 ∨ (week = 53 ∧ long)) then
    let ordinal : Int := week * 7 + w.number - (january4.weekday.number + 3)
    if ordinal ≤ 0 then ofOrdinal? (year - 1) (ordinal + daysInYear (year - 1)).toNat
    else if ordinal ≤ daysInYear year then ofOrdinal? year ordinal.toNat
    else ofOrdinal? (year + 1) (ordinal - daysInYear year).toNat
  else none

/-- The form `YYYY-MM-DD`, with a minus sign before a negative year. -/
def text (d : Date) : String :=
  (if d.year < 0 then "-" else "") ++ padNat 4 d.year.natAbs ++ "-" ++ padNat 2 d.month.number ++
    "-" ++ padNat 2 d.day

end Date

end Timesheet
