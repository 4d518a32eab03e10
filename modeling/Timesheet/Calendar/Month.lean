/-!
Months and days of the week.
-/
namespace Timesheet

inductive Month where
  | january | february | march | april | may | june
  | july | august | september | october | november | december
deriving DecidableEq

namespace Month

def all : List Month :=
  [january, february, march, april, may, june, july, august, september, october, november, december]

/-- 1 for January to 12 for December. -/
def number : Month → Nat
  | january => 1 | february => 2 | march => 3 | april => 4 | may => 5 | june => 6
  | july => 7 | august => 8 | september => 9 | october => 10 | november => 11 | december => 12

theorem number_le (m : Month) : m.number ≤ 12 := by
  cases m <;> decide

def name : Month → String
  | january => "January" | february => "February" | march => "March" | april => "April"
  | may => "May" | june => "June" | july => "July" | august => "August"
  | september => "September" | october => "October" | november => "November"
  | december => "December"

def ofNumber? (n : Nat) : Option Month := all.find? (·.number == n)

def ofName? (text : String) : Option Month := all.find? (·.name == text)

def next? (m : Month) : Option Month := ofNumber? (m.number + 1)

def prev? (m : Month) : Option Month := ofNumber? (m.number - 1)

end Month

inductive Weekday where
  | monday | tuesday | wednesday | thursday | friday | saturday | sunday
deriving DecidableEq

namespace Weekday

def all : List Weekday := [monday, tuesday, wednesday, thursday, friday, saturday, sunday]

/-- 1 for Monday to 7 for Sunday. -/
def number : Weekday → Nat
  | monday => 1 | tuesday => 2 | wednesday => 3 | thursday => 4 | friday => 5
  | saturday => 6 | sunday => 7

def name : Weekday → String
  | monday => "Monday" | tuesday => "Tuesday" | wednesday => "Wednesday"
  | thursday => "Thursday" | friday => "Friday" | saturday => "Saturday" | sunday => "Sunday"

def ofNumber? (n : Nat) : Option Weekday := all.find? (·.number == n)

def isWeekend : Weekday → Bool
  | saturday | sunday => true
  | _ => false

end Weekday

end Timesheet
