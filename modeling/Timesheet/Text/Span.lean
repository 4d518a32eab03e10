/-!
Spans of code points that a letter-case mapping moves together.
-/
namespace Timesheet.Text

/-- Every `step`-th code point from `first` to `last`, moved so that `first` becomes `image`. -/
structure Span where
  first : Nat
  last : Nat
  step : Nat
  image : Nat

def Span.image? (s : Span) (n : Nat) : Option Nat :=
  if s.first ≤ n ∧ n ≤ s.last ∧ (n - s.first) % s.step = 0 then some (s.image + (n - s.first))
  else none

end Timesheet.Text
