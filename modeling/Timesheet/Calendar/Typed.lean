import Timesheet.Calendar.Date
import Timesheet.Text.Blank
import Timesheet.Text.LetterCase

/-!
Times of day and days of the week as they are typed, and dates and times in the forms in which they
are written.
-/
namespace Timesheet

def digit? (c : Char) : Option Nat := if c.isDigit then some (c.toNat - '0'.toNat) else none

/-- Reads `HH:MM`, both parts with two digits; white space around it does not count. -/
def Clock.ofTyped? (text : String) : Option Clock :=
  match Text.trimBlank text.toList with
  | [a, b, ':', c, d] => do
    ofParts? (10 * (← digit? a) + (← digit? b)) (10 * (← digit? c) + (← digit? d)) 0
  | _ => none

def digits? (cs : List Char) : Option Nat :=
  cs.foldlM (fun n c => (digit? c).map fun d => 10 * n + d) 0

/-- Reads `HH:MM` or `HH:MM:SS`. -/
def Clock.ofText? (text : String) : Option Clock :=
  match text.toList with
  | [a, b, ':', c, d] => do ofParts? (← digits? [a, b]) (← digits? [c, d]) 0
  | [a, b, ':', c, d, ':', e, f] => do
    ofParts? (← digits? [a, b]) (← digits? [c, d]) (← digits? [e, f])
  | _ => none

/-- Reads `YYYY-MM-DD`, with a minus sign before a negative year. -/
def Date.ofText? (text : String) : Option Date :=
  let read (sign : Int) (cs : List Char) : Option Date :=
    match cs with
    | [a, b, c, d, '-', e, f, '-', g, h] => do
      let year ← digits? [a, b, c, d]
      let month ← Month.ofNumber? (← digits? [e, f])
      (ofParts (sign * year) month (← digits? [g, h])).toOption
    | _ => none
  match text.toList with
  | '-' :: rest => read (-1) rest
  | cs => read 1 cs

namespace Weekday

def shortName (w : Weekday) : String := String.ofList (w.name.toList.take 3)

/-- The day whose English name, or short name, this is in any letter case. -/
def ofTyped? (text : String) : Option Weekday :=
  let small := Text.lower text.toList
  all.find? fun w => Text.lower w.name.toList == small || Text.lower w.shortName.toList == small

def refusal (text : String) : String := "Invalid weekday: \"" ++ text ++ "\""

end Weekday

end Timesheet
