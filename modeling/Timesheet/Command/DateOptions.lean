import Timesheet.Config

/-!
The options that say which day is meant, and the day that they mean. Without options it is today, or
still yesterday before the time at which a day ends.
-/
namespace Timesheet

structure DateOptions where
  today : Bool
  yesterday : Bool
  weekday : Option Weekday
  date : Option Date
  day : Option Nat
  month : Option Month
  year : Option Int
deriving DecidableEq

inductive DateFault where
  /-- The calendar ends before the day. -/
  | outOfRange
  /-- A year without a month. -/
  | noMonth
  | noDate (fault : Date.Fault)
deriving DecidableEq

def DateFault.message : DateFault → String
  | .outOfRange => "Date out of range"
  | .noMonth => "Invalid argument combination"
  | .noDate fault => fault.message

namespace DateOptions

def none : DateOptions :=
  { today := false, yesterday := false, weekday := .none, date := .none, day := .none
    month := .none, year := .none }

/-- One of the options that mean a day by themselves is given. -/
def isSet (o : DateOptions) : Bool :=
  o.today || o.yesterday || o.weekday.isSome || o.date.isSome || o.day.isSome

def choices (o : DateOptions) : Nat :=
  ([o.today, o.yesterday, o.weekday.isSome, o.date.isSome, o.day.isSome].filter id).length

/-- The options go together: at most one of those that exclude each other; a year only with a month;
and a month only with a day, or with an option that excludes a day. -/
def permitted (o : DateOptions) : Bool :=
  o.choices ≤ 1 && (!o.year.isSome || o.month.isSome) && (!o.month.isSome || o.isSet)

def sameMonth (d : Date) (day : Nat) : Except DateFault Date :=
  (Date.ofParts d.year d.month day).mapError .noDate

def orOutOfRange : Option Date → Except DateFault Date
  | some d => .ok d
  | .none => .error .outOfRange

/-- The last day of that number, as far as it can be told from this month and the one before. -/
def lastDay (today : Date) (day : Nat) : Except DateFault Date := do
  if day > today.day then sameMonth (← orOutOfRange (today.back? day)) day
  else sameMonth today day

/-- Year in which the month and day were last, counted from today. -/
def lastYear (today : Date) (month : Month) (day : Nat) : Int :=
  if (month = today.month ∧ day > today.day) ∨ month.number > today.month.number then today.year - 1
  else today.year

/-- The day that is meant at `time` on the day `today`, when days end at `dayStart`. -/
def resolve (o : DateOptions) (today : Date) (time dayStart : FineClock) : Except DateFault Date :=
  if o.today then .ok today
  else if o.yesterday then orOutOfRange today.prev?
  else
    match o.weekday, o.date, o.day with
    | some w, _, _ => orOutOfRange (today.lastBefore? w)
    | .none, some d, _ => .ok d
    | .none, .none, some day =>
      match o.month, o.year with
      | .none, .none => lastDay today day
      | .none, some _ => .error .noMonth
      | some month, .none =>
        (Date.ofParts (lastYear today month day) month day).mapError .noDate
      | some month, some year => (Date.ofParts year month day).mapError .noDate
    | .none, .none, .none => if time < dayStart then orOutOfRange today.prev? else .ok today

end DateOptions

end Timesheet
