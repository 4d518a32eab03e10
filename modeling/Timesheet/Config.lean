import Timesheet.Toml.Reader
import Timesheet.Toml.Writer

/-!
The configuration: where the data is, for whom the program acts, when a day ends, and how long it
waits for a ticket system.
-/
namespace Timesheet

/-- A time of day with a fraction of a second. -/
structure FineClock where
  clock : Clock
  nanoseconds : Nat
deriving DecidableEq

instance : LT FineClock :=
  ⟨fun a b => a.clock < b.clock ∨ (a.clock = b.clock ∧ a.nanoseconds < b.nanoseconds)⟩

instance (a b : FineClock) : Decidable (a < b) :=
  inferInstanceAs (Decidable (_ ∨ (_ ∧ _)))

structure Config where
  dataPath : String
  user : Option String
  /-- Entries added before this time belong to the day before. -/
  threshold : Option FineClock
  /-- Seconds that a request may take. -/
  timeout : Option Nat
deriving DecidableEq

namespace Config

def ofDataPath (path : String) : Config :=
  { dataPath := path, user := none, threshold := none, timeout := none }

def dayStart (c : Config) : FineClock := c.threshold.getD ⟨.midnight, 0⟩

def timeoutSeconds (c : Config) : Nat := c.timeout.getD 30

def asText : Toml → Option String
  | .text s => some s
  | _ => none

def asNatural (last : Nat) : Toml → Option Nat
  | .integer n => if 0 ≤ n ∧ n ≤ last then some n.toNat else none
  | _ => none

/-- Hour, minute, second and nanoseconds; further items do not count. -/
def asClock : Toml → Option FineClock
  | .array (h :: m :: s :: n :: _) => do
    let clock ← Clock.ofParts? (← asNatural 23 h) (← asNatural 59 m) (← asNatural 59 s)
    return ⟨clock, ← asNatural 999999999 n⟩
  | _ => none

def optional {α : Type} (ms : Toml.Members) (key : String) (read : Toml → Option α) :
    Option (Option α) :=
  match Toml.member? ms key with
  | none => some none
  | some value => (read value).map some

/-- The configuration that a document describes. Unknown keys do not count. -/
def parse (document : String) : Option Config := do
  let ms ← Toml.parse document
  let dataPath ← asText (← Toml.member? ms "data_path")
  let user ← optional ms "user" asText
  let threshold ← optional ms "day_change_threshold" asClock
  let timeout ← optional ms "tracker_timeout_secs" (asNatural Toml.maxInteger)
  return { dataPath, user, threshold, timeout }

def line (key : String) (value : List Char) : List Char :=
  key.toList ++ " = ".toList ++ value ++ ['\n']

def writeClock (t : FineClock) : List Char :=
  let items := [t.clock.hour, t.clock.minute, t.clock.second, t.nanoseconds]
  "[\n".toList ++ items.flatMap (fun n => "    ".toList ++ (toString n).toList ++ ",\n".toList) ++
    [']']

/-- The document of a configuration. A timeout that is no number of 64 bits cannot be written. -/
def render (c : Config) : Option String :=
  if c.timeout.any (Toml.maxInteger < ·) then none
  else
    some <| String.ofList <|
      line "data_path" (Toml.writeText c.dataPath) ++
      (c.user.elim [] fun u => line "user" (Toml.writeText u)) ++
      (c.threshold.elim [] fun t => line "day_change_threshold" (writeClock t)) ++
      (c.timeout.elim [] fun n => line "tracker_timeout_secs" (toString n).toList)

end Config

end Timesheet
