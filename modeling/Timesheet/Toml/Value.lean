/-!
TOML values, and the rules on defining tables: a table is defined once, though tables above it may
be named before it, and dotted keys add to tables that dotted keys have made.
-/
namespace Timesheet

/-- What brought a table about. -/
inductive TableOrigin where
  /-- A header of its own, or the start of the document. -/
  | header
  /-- The header of a table inside it. -/
  | implied
  /-- A dotted key. -/
  | dotted
  /-- Braces. -/
  | braces
deriving DecidableEq

inductive Toml where
  | text (s : String)
  | integer (n : Int)
  /-- As it is written. -/
  | float (digits : String)
  | boolean (b : Bool)
  /-- As it is written. -/
  | moment (digits : String)
  | array (items : List Toml)
  | table (origin : TableOrigin) (members : List (String × Toml))
  | tables (items : List (List (String × Toml)))
deriving Inhabited

namespace Toml

/-- Integers have 64 bits; this is the largest. -/
def maxInteger : Nat := 0x7FFFFFFFFFFFFFFF

abbrev Members := List (String × Toml)

def member? (ms : Members) (key : String) : Option Toml := (ms.find? (·.1 == key)).map (·.2)

def put (ms : Members) (key : String) (value : Toml) : Members :=
  if (member? ms key).isSome then ms.map fun m => if m.1 = key then (key, value) else m
  else ms ++ [(key, value)]

def addNew (ms : Members) (key : String) (value : Toml) : Option Members :=
  if (member? ms key).isSome then none else some (ms ++ [(key, value)])

def alterLast (f : Members → Option Members) (items : List Members) : Option (List Members) := do
  let last ← items.getLast?
  return items.dropLast ++ [← f last]

/-- Adds a value under a key with points in it. `open?` says whether the table at hand takes a last
key: one that was reached over points has to be one that dotted keys have made. -/
def addDotted (open? : Bool) (ms : Members) (value : Toml) : List String → Option Members
  | [] => none
  | [key] => if open? then addNew ms key value else none
  | key :: path =>
    match member? ms key with
    | none => do
      return put ms key (.table .dotted (← addDotted true [] value path))
    | some (.table .dotted inner) => do
      return put ms key (.table .dotted (← addDotted true inner value path))
    | some (.table .implied inner) => do
      return put ms key (.table .implied (← addDotted false inner value path))
    | some (.tables items) => do
      return put ms key (.tables (← alterLast (fun ms => addDotted false ms value path) items))
    | _ => none

def addAll (ms : Members) (pairs : List (List String × Toml)) : Option Members :=
  pairs.foldlM (fun ms (path, value) => addDotted true ms value path) ms

def alterAt (f : Option Toml → Option Toml) (ms : Members) : List String → Option Members
  | [] => none
  | [key] => do return put ms key (← f (member? ms key))
  | key :: path =>
    match member? ms key with
    | none => do return put ms key (.table .implied (← alterAt f [] path))
    | some (.table .braces _) => none
    | some (.table origin inner) => do return put ms key (.table origin (← alterAt f inner path))
    | some (.tables items) => do
      return put ms key (.tables (← alterLast (fun ms => alterAt f ms path) items))
    | _ => none

inductive Header where
  /-- The start of the document. -/
  | root
  | table (path : List String)
  /-- Another table of several. -/
  | element (path : List String)

structure Section where
  header : Header
  pairs : List (List String × Toml)

def addSection (ms : Members) (s : Section) : Option Members :=
  match s.header with
  | .root => addAll ms s.pairs
  | .table path =>
    alterAt (fun
      | none => (addAll [] s.pairs).map (.table .header)
      | some (.table .implied inner) => (addAll inner s.pairs).map (.table .header)
      | some _ => none) ms path
  | .element path =>
    alterAt (fun
      | none => (addAll [] s.pairs).map fun t => .tables [t]
      | some (.tables items) => (addAll [] s.pairs).map fun t => .tables (items ++ [t])
      | some _ => none) ms path

def ofSections (parts : List Section) : Option Members := parts.foldlM addSection []

end Toml

end Timesheet
