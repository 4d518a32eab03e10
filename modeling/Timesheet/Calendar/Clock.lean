/-!
Times of day and amounts of minutes.
-/
namespace Timesheet

/-- A time of day, in whole seconds since midnight. -/
structure Clock where
  seconds : Nat
  before_midnight : seconds < 86400
deriving DecidableEq

namespace Clock

instance : LE Clock := ⟨fun a b => a.seconds ≤ b.seconds⟩
instance : LT Clock := ⟨fun a b => a.seconds < b.seconds⟩
instance (a b : Clock) : Decidable (a ≤ b) := inferInstanceAs (Decidable (a.seconds ≤ b.seconds))
instance (a b : Clock) : Decidable (a < b) := inferInstanceAs (Decidable (a.seconds < b.seconds))

def midnight : Clock := ⟨0, by decide⟩

def ofSeconds? (n : Nat) : Option Clock := if h : n < 86400 then some ⟨n, h⟩ else none

def ofParts? (hour minute second : Nat) : Option Clock :=
  if hour < 24 ∧ minute < 60 ∧ second < 60 then ofSeconds? (hour * 3600 + minute * 60 + second)
  else none

def hour (t : Clock) : Nat := t.seconds / 3600
def minute (t : Clock) : Nat := t.seconds / 60 % 60
def second (t : Clock) : Nat := t.seconds % 60

end Clock

/-- `n` in decimal with at least `width` digits. -/
def padNat (width n : Nat) : String :=
  let digits := toString n
  String.ofList (List.replicate (width - digits.length) '0') ++ digits

namespace Clock

/-- The form `HH:MM`; seconds are cut off. -/
def shortText (t : Clock) : String := padNat 2 t.hour ++ ":" ++ padNat 2 t.minute

def text (t : Clock) : String := t.shortText ++ ":" ++ padNat 2 t.second

end Clock

/-- Whole minutes from `start` to `finish`, cut toward zero; negative when `finish` comes first. -/
def spanMinutes (start finish : Clock) : Int :=
  ((finish.seconds : Int) - (start.seconds : Int)).tdiv 60

/-- Hours and minutes of an amount of minutes, both with its sign. -/
def minutesText (minutes : Int) : String :=
  let rest := minutes.tmod 60
  toString (minutes.tdiv 60) ++ ":" ++ if rest < 0 then toString rest else padNat 2 rest.toNat

end Timesheet
