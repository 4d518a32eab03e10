import Timesheet.Files.Basic
import Timesheet.Net.Percent

/-!
Where a store is kept: in a file, or in memory for as long as it is open.
-/
namespace Timesheet

inductive Place where
  | memory
  | file (l : Location)
deriving DecidableEq

inductive OpenFault where
  | folders (fault : FileFault)
  | nullAt (position : Nat)
  | badAddress
  | noFile
  /-- There is no room for a journal next to the file. -/
  | noJournal
  | notStore
deriving DecidableEq

def OpenFault.texts : OpenFault → List String
  | folders fault => [fault.message]
  | nullAt position =>
    List.replicate 2 ("nul byte found in provided data at position: " ++ toString position)
  | badAddress => ["SQL error or missing database"]
  | noFile => ["Unable to open the database file"]
  | noJournal => ["unable to open database file"]
  | notStore => ["file is not a database"]

namespace Place

/-- What a part of an address means; it ends at a null character. -/
def meaning (cs : List Char) : String :=
  String.ofList (((Net.percentDecode? cs).getD cs).takeWhile (· ≠ '\x00'))

def setting (cs : List Char) : String × String :=
  (meaning (cs.takeWhile (· ≠ '=')), meaning ((cs.dropWhile (· ≠ '=')).drop 1))

/-- Values that a setting may have, where not all are allowed. -/
def allowed? : String → Option (List String)
  | "mode" => some ["ro", "rw", "rwc", "memory"]
  | "cache" => some ["shared", "private"]
  | "vfs" => some ["unix", "unix-none", "unix-dotfile", "unix-excl"]
  | _ => none

/-- The path in what follows `file:`. It may name this computer first. -/
def localPath? (cs : List Char) : Option (List Char) :=
  match cs with
  | '/' :: '/' :: rest =>
    let host := rest.takeWhile (· ≠ '/')
    if host = [] ∨ host = "localhost".toList then some (rest.dropWhile (· ≠ '/')) else none
  | _ => some cs

/-- The name of the file or of a store in memory, and the mode, in what follows `file:`. -/
def ofAddress? (cs : List Char) : Option (String × String) := do
  let cs ← localPath? cs
  let cs := cs.takeWhile (· ≠ '#')
  let settings := (Text.splitOnChar '&' ((cs.dropWhile (· ≠ '?')).drop 1)).map setting
  if settings.all fun s => (allowed? s.1).all (s.2 ∈ ·) then
    return (meaning (cs.takeWhile (· ≠ '?')), ((settings.find? (·.1 = "mode")).map (·.2)).getD "")
  else none

def scheme : List Char := "file:".toList

def longScheme : List Char := "sqlite://".toList

/-- An address that starts with the other scheme gets the common one. -/
def commonScheme (cs : List Char) : List Char :=
  if longScheme.isPrefixOf cs then scheme ++ cs.drop longScheme.length else cs

/-- The file that a path or an address names, and the mode in which it is opened. -/
def named? (cs : List Char) : Option (String × String) :=
  if scheme.isPrefixOf cs then ofAddress? (cs.drop scheme.length)
  else some (String.ofList cs, "")

end Place

namespace Files

def maxStorePath : Nat := 504

/-- Bytes that the name of a journal has beyond that of the store. -/
def journalSuffix : Nat := "-journal".utf8ByteSize

def isReachable (fs : Files) (l : Location) : Bool :=
  fs.isFolder l.dropLast && l.all (·.utf8ByteSize ≤ maxName) && l.text.utf8ByteSize ≤ maxStorePath

def beginStore (l : Location) : Work OpenFault Unit :=
  if (l.getLastD "").utf8ByteSize + journalSuffix ≤ maxName then
    modify (·.put l (.store .empty))
  else do
    modify (·.put l (.text ""))
    throw .noJournal

/-- Opens the store in a file. Where there is no file a store begins, if `creates` says so; an empty
file is as good as none. -/
def openFile (creates : Bool) (l : Location) : Work OpenFault Unit := do
  let fs ← get
  if !fs.isReachable l then throw .noFile
  match fs.node? l with
  | some (.store _) => return
  | some .folder => throw .noFile
  | some (.text content) => if content.isEmpty then beginStore l else throw .notStore
  | none => if creates then beginStore l else throw .noFile

def openStore (path : String) : Work OpenFault Place := do
  if let some folder := (Location.ofText path).parent? then
    (ensureFolders folder).adapt .folders
  let cs := Place.commonScheme path.toList
  if cs.contains '\x00' then
    throw (.nullAt (String.ofList (cs.takeWhile (· ≠ '\x00'))).utf8ByteSize)
  match Place.named? cs with
  | none => throw .badAddress
  | some (name, mode) =>
    if name = "" ∨ name = ":memory:" ∨ mode = "memory" then return .memory
    let l := (Location.ofText name).straight
    openFile (mode ≠ "ro" && mode ≠ "rw") l
    return .file l

end Files

end Timesheet
