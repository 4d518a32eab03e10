import Timesheet.Calendar.Date

/-!
Dates in the notations of ISO 8601: calendar, ordinal and week dates, each in the basic form without
and the extended form with separators. A time of day may follow; it has to be well formed and does
not change the date.
-/
namespace Timesheet.Iso8601

def digits (n : Nat) (cs : List Char) : Option (Nat × List Char) :=
  let run := cs.take n
  if run.length = n ∧ run.all Char.isDigit then
    some (run.foldl (fun v c => 10 * v + (c.toNat - '0'.toNat)) 0, cs.drop n)
  else none

/-- Four digits, or a sign and six digits. -/
def year : List Char → Option (Int × List Char)
  | '-' :: cs => (digits 6 cs).map fun (n, rest) => (-(n : Int), rest)
  | '+' :: cs => (digits 6 cs).map fun (n, rest) => ((n : Int), rest)
  | cs => (digits 4 cs).map fun (n, rest) => ((n : Int), rest)

def skip (c : Char) : List Char → Option (List Char)
  | x :: rest => if x = c then some rest else none
  | [] => none

/-- Skips the separator `c`, which only the extended form has. -/
def separator (extended : Bool) (c : Char) (cs : List Char) : Option (List Char) :=
  if extended then skip c cs else some cs

def monthDay (extended : Bool) (cs : List Char) : Option ((Month × Nat) × List Char) := do
  let (m, cs) ← digits 2 cs
  let month ← Month.ofNumber? m
  let cs ← separator extended '-' cs
  let (day, cs) ← digits 2 cs
  if day = 0 then none else some ((month, day), cs)

def ordinal (cs : List Char) : Option (Nat × List Char) := do
  let (n, cs) ← digits 3 cs
  if n = 0 then none else some (n, cs)

def weekDay (extended : Bool) (cs : List Char) : Option ((Nat × Weekday) × List Char) := do
  let cs ← skip 'W' cs
  let (week, cs) ← digits 2 cs
  let cs ← separator extended '-' cs
  let (n, cs) ← digits 1 cs
  let weekday ← Weekday.ofNumber? n
  if week = 0 then none else some ((week, weekday), cs)

/-- Reads the date; what follows the year decides which of the three notations it is. -/
def date (cs : List Char) : Option (Date × Bool × List Char) := do
  let (y, cs) ← year cs
  let (extended, cs) := match skip '-' cs with
    | some rest => (true, rest)
    | none => (false, cs)
  match monthDay extended cs with
  | some ((m, d), rest) => return (← (Date.ofParts y m d).toOption, extended, rest)
  | none =>
    match ordinal cs with
    | some (n, rest) => return (← Date.ofOrdinal? y n, extended, rest)
    | none =>
      let ((week, weekday), rest) ← weekDay extended cs
      return (← Date.ofWeek? y week weekday, extended, rest)

/-- Two digits and, after a point or comma, the digits of a fraction of them. -/
def decimal (cs : List Char) : Option (Nat × Option (List Char) × List Char) := do
  let (n, rest) ← digits 2 cs
  match rest with
  | '.' :: tail | ',' :: tail =>
    let fraction := tail.takeWhile Char.isDigit
    if fraction.isEmpty then none else some (n, some fraction, tail.drop fraction.length)
  | _ => some (n, none, rest)

/-- Value of the digits of a fraction. The sum is rounded after every digit, so that many nines add
up to one. -/
def fractionValue (fraction : List Char) : Float :=
  (fraction.foldl (fun (sum, unit) c =>
    let unit := unit * 10
    (sum + (c.toNat - '0'.toNat).toFloat / unit, unit)) ((0.0 : Float), (1.0 : Float))).1

/-- The fraction of an hour is less than sixty minutes. -/
def isHourFraction (fraction : List Char) : Bool := fractionValue fraction * 60 < 60

/-- The fraction of a second is less than one also after rounding to billionths. -/
def isSecondFraction (fraction : List Char) : Bool :=
  (fractionValue fraction * 1000000000).round < 1000000000

def second (extended : Bool) (cs : List Char) : Option (List Char) :=
  match decimal cs with
  | some (s, fraction, rest) =>
    if s ≤ 60 ∧ fraction.all isSecondFraction then some rest else none
  | none => if extended then none else some cs

/-- Reads the time after the letter T. Hours may end it, minutes too; a fraction ends it. Colons are
for the extended form, where a first colon is optional. -/
def time (extended : Bool) (cs : List Char) : Option (List Char) := do
  let cs ← skip 'T' cs
  let (hour, fraction, cs) ← decimal cs
  if hour ≥ 24 ∨ !fraction.all isHourFraction then none
  else if fraction.isSome then some cs
  else
    let cs ← match skip ':' cs with
      | some rest => if extended then some rest else none
      | none => some cs
    match decimal cs with
    | none => if extended then none else some cs
    | some (minute, fraction, rest) =>
      if minute ≥ 60 then none
      else if fraction.isSome then some rest
      else if extended then
        match skip ':' rest with
        | some rest => second true rest
        | none => some rest
      else second false rest

def offset (extended : Bool) (cs : List Char) : Option (List Char) :=
  match cs with
  | 'Z' :: rest => some rest
  | '+' :: rest | '-' :: rest => do
    let (hour, rest) ← digits 2 rest
    if hour > 25 then none
    else
      let rest := match skip ':' rest with
        | some tail => if extended then tail else rest
        | none => rest
      match digits 2 rest with
      | some (minute, tail) => if minute < 60 then some tail else none
      | none => some rest
  | _ => none

/-- The date that `text` starts with, if nothing but a well-formed time follows. -/
def parseDate (text : String) : Option Date := do
  let (d, extended, rest) ← date text.toList
  if rest.isEmpty then some d
  else
    let rest ← time extended rest
    if rest.isEmpty then some d
    else
      let rest ← offset extended rest
      if rest.isEmpty then some d else none

end Timesheet.Iso8601
