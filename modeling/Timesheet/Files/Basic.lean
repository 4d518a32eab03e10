import Timesheet.Files.Location
import Timesheet.Store.Basic

/-!
Folders and files, and making folders.
-/
namespace Timesheet

inductive Node where
  | folder
  | text (content : String)
  | store (content : Store)

/-- Folders and files by their locations, without steps up in them. -/
structure Files where
  nodes : List (Location × Node)

inductive FileFault where
  | missing
  | taken
  | notFolder
  | nameTooLong
  | strayNull
deriving DecidableEq

def FileFault.message : FileFault → String
  | missing => "No such file or directory (os error 2)"
  | taken => "File exists (os error 17)"
  | notFolder => "Not a directory (os error 20)"
  | nameTooLong => "File name too long (os error 36)"
  | strayNull => "file name contained an unexpected NUL byte"

namespace Files

/-- What is at a location. The root and the folder in which the program runs are always there. -/
def node? (fs : Files) (l : Location) : Option Node :=
  if l = [] ∨ l = Location.root then some .folder else (fs.nodes.find? (·.1 == l)).map (·.2)

def put (fs : Files) (l : Location) (node : Node) : Files :=
  ⟨fs.nodes.filter (·.1 ≠ l) ++ [(l, node)]⟩

theorem node?_put (fs : Files) {l : Location} (node : Node) (h : ¬(l = [] ∨ l = Location.root)) :
    (fs.put l node).node? l = some node := by
  unfold node? put
  rw [if_neg h, List.find?_append]
  have hold : (fs.nodes.filter (·.1 ≠ l)).find? (·.1 == l) = none := by
    rw [List.find?_eq_none]
    intro x hx
    have := (List.mem_filter.1 hx).2
    simpa using this
  rw [hold]
  simp

def withFolders (fs : Files) (l : Location) : Files :=
  (List.range l.length).foldl (fun fs n => fs.put (l.take (n + 1)) .folder) fs

def maxName : Nat := 255

def maxPath : Nat := 4095

def enter (fs : Files) (here : Location) (name : String) : Except FileFault Location :=
  if name = ".." then .ok here.up
  else if maxName < name.utf8ByteSize then .error .nameTooLong
  else
    match fs.node? (here ++ [name]) with
    | some .folder => .ok (here ++ [name])
    | some _ => .error .notFolder
    | none => .error .missing

def follow (fs : Files) (l : Location) : Except FileFault Location := l.foldlM fs.enter []

def isFolder (fs : Files) (l : Location) : Bool := (fs.follow l).isOk

def makeFolder (fs : Files) (l : Location) : Except FileFault Files := do
  if l.any (·.contains '\x00') then throw .strayNull
  if maxPath < l.text.utf8ByteSize then throw .nameTooLong
  let here ← fs.follow l.dropLast
  match l.getLast? with
  | none | some ".." => throw .taken
  | some name =>
    if maxName < name.utf8ByteSize then throw .nameTooLong
    if (fs.node? (here ++ [name])).isSome then throw .taken
    return fs.put (here ++ [name]) .folder

/-- Work on files. What it did before a failure stays. -/
abbrev Work (ε : Type) := ExceptT ε (StateM Files)

def ensureFolder (l : Location) : Work FileFault Unit := do
  let fs ← get
  match fs.makeFolder l with
  | .ok fs => set fs
  | .error e => if !fs.isFolder l then throw e

/-- Makes a folder with all folders that lead to it, unless they are there. -/
def ensureFolders (l : Location) : Work FileFault Unit :=
  tryCatch (ensureFolder l) fun e =>
    if _h : e = .missing ∧ l ≠ [] then do
      ensureFolders l.dropLast
      ensureFolder l
    else throw e
termination_by l.length
decreasing_by
  rw [List.length_dropLast]
  have := List.length_pos_iff.2 _h.2
  omega

end Files

end Timesheet
