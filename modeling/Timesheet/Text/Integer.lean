/-!
Decimal integers within bounds, as they are typed: an optional sign and at least one digit.
-/
namespace Timesheet.Text

inductive IntegerError where
  | empty
  | invalidDigit
  | tooLarge
  | tooSmall
deriving DecidableEq

def IntegerError.message : IntegerError → String
  | .empty => "cannot parse integer from empty string"
  | .invalidDigit => "invalid digit found in string"
  | .tooLarge => "number too large to fit in target type"
  | .tooSmall => "number too small to fit in target type"

/-- Appends digits to `value` as long as the result stays within `limit`. -/
def readMagnitude (limit : Nat) (overflow : IntegerError) (value : Nat) :
    List Char → Except IntegerError Nat
  | [] => .ok value
  | c :: cs =>
    if c.isDigit then
      let next := 10 * value + (c.toNat - '0'.toNat)
      if next ≤ limit then readMagnitude limit overflow next cs else .error overflow
    else .error .invalidDigit

/-- Reads an integer from `-lowest` to `highest`. -/
def readInteger (lowest highest : Nat) (cs : List Char) : Except IntegerError Int :=
  match cs with
  | [] => .error .empty
  | ['+'] | ['-'] => .error .invalidDigit
  | '+' :: digits => (readMagnitude highest .tooLarge 0 digits).map Int.ofNat
  | '-' :: digits => (readMagnitude lowest .tooSmall 0 digits).map (fun n => -(n : Int))
  | digits => (readMagnitude highest .tooLarge 0 digits).map Int.ofNat

/-- Reads a natural number up to `highest`; a minus sign is not one of its characters. -/
def readNatural (highest : Nat) (cs : List Char) : Except IntegerError Nat :=
  match cs with
  | [] => .error .empty
  | ['+'] => .error .invalidDigit
  | '+' :: digits => readMagnitude highest .tooLarge 0 digits
  | digits => readMagnitude highest .tooLarge 0 digits

end Timesheet.Text
