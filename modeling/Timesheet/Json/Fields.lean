import Timesheet.Json.Reader

/-!
Records of known fields inside JSON values. A record is an object, in which members of other names
do not count and no known name occurs twice, or an array with the values in the order of the fields.
-/
namespace Timesheet.Json

/-- The values of a record's fields, each with its name, as far as they are there. -/
structure Fields where
  /-- The record is an object, so that an optional field may be left out. -/
  named : Bool
  values : List (String × Json)

namespace Fields

/-- The members with known names, unless a name is no text or a known one occurs again. -/
def pick (names : List String) : List (JsonText × Json) → Option (List (String × Json))
  | [] => some []
  | (none, _) :: _ => none
  | (some name, value) :: rest => do
    let picked ← pick names rest
    if !names.contains name then some picked
    else if picked.any (·.1 == name) then none
    else some ((name, value) :: picked)

def ofJson (names : List String) : Json → Option Fields
  | object members => (pick names members).map (⟨true, ·⟩)
  | array items =>
    if items.length ≤ names.length then some ⟨false, names.zip items⟩ else none
  | _ => none

def value? (f : Fields) (name : String) : Option Json :=
  (f.values.find? (·.1 == name)).map (·.2)

def required {α : Type} (f : Fields) (name : String) (read : Json → Option α) : Option α :=
  (f.value? name).bind read

/-- A field for which `null` stands for nothing; only in an object it may be left out. -/
def optional {α : Type} (f : Fields) (name : String) (read : Json → Option α) :
    Option (Option α) :=
  match f.value? name with
  | some null => some none
  | some value => (read value).map some
  | none => if f.named then some none else none

/-- A field with a value of its own when it is left out. -/
def withDefault {α : Type} (f : Fields) (name : String) (default : α) (read : Json → Option α) :
    Option α :=
  match f.value? name with
  | some value => read value
  | none => some default

end Fields

def asText : Json → Option String
  | text s => s
  | _ => none

def asList {α : Type} (read : Json → Option α) : Json → Option (List α)
  | array items => items.mapM read
  | _ => none

end Timesheet.Json
