import Timesheet.Text.Natural

/-!
Amounts of time as they are typed, such as `1h30`, `90m` or `2`: numbers with the units `h` and `m`.
A number without a unit at the end counts minutes after hours, hours when it stands alone, and is
refused after minutes.
-/
namespace Timesheet.Duration

inductive Fault where
  | unitWithoutNumber
  | unexpected (c : Char)
  | numberAfterMinutes (n : Nat)
  | empty
deriving DecidableEq

def Fault.message : Fault → String
  | .unitWithoutNumber => "Number expected before unit"
  | .unexpected c => "Unexpected character in duration: '" ++ c.toString ++ "'"
  | .numberAfterMinutes n => "Unable to parse duration, unknown unit for value " ++ toString n
  | .empty => "Number expected"

inductive Last where
  | nothing
  | hours
  | minutes
deriving DecidableEq

/-- Reads on after `total` minutes, with the number in `number` still without a unit. -/
def readOn (last : Last) (total : Nat) (number : Option Nat) : List Char → Except Fault Nat
  | [] =>
    match number, last with
    | some n, .nothing => .ok (60 * n)
    | some n, .hours => .ok (total + n)
    | some n, .minutes => .error (.numberAfterMinutes n)
    | none, .nothing => .error .empty
    | none, _ => .ok total
  | c :: cs =>
    if c.isDigit then readOn last total (some (10 * number.getD 0 + (c.toNat - '0'.toNat))) cs
    else if c = 'h' then
      match number with
      | some n => readOn .hours (total + 60 * n) none cs
      | none => .error .unitWithoutNumber
    else if c = 'm' then
      match number with
      | some n => readOn .minutes (total + n) none cs
      | none => .error .unitWithoutNumber
    else .error (.unexpected c)

def parse (text : String) : Except Fault Nat := readOn .nothing 0 none text.toList

end Timesheet.Duration
