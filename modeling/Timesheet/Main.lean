import Timesheet.Command.Run
import Timesheet.Net.Http
import Timesheet.Store.Document

/-!
The program: files, the clock and the console around `Command.perform`. There is no network here, so
every ticket system counts as unreachable.
-/
namespace Timesheet.Program

/-- What is at a path. A file that is no text counts as one with a null character. -/
def nodeAt (path : String) : IO (Option Node) := do
  try
    let there ← IO.FS.realPath path
    if ← there.isDir then return some .folder
    let content := (String.fromUTF8? (← IO.FS.readBinFile there)).getD "\x00"
    match Store.parse content with
    | some store => return some (.store store)
    | none => return some (.text content)
  catch _ => return none

def stations (l : Location) : List Location :=
  (List.range l.length).map fun n => Location.straight (l.take (n + 1))

def loadWay (files : Files) (l : Location) : IO Files :=
  (stations l).foldlM (fun files l => do
    match ← nodeAt l.text with
    | some node => return files.put l node
    | none => return files) files

def saveNode (before : Files) (l : Location) : Node → IO Unit
  | .folder => IO.FS.createDirAll l.text
  | .store store => IO.FS.writeFile l.text store.render
  | .text content =>
    match before.node? l with
    | some (.text old) => unless old = content do IO.FS.writeFile l.text content
    | _ => IO.FS.writeFile l.text content

/-- Date and time of day, as a file gets them that is written now. -/
def now : IO (Date × FineClock) := do
  let (_, path) ← IO.FS.createTempFile
  let written := (← path.metadata).modified
  IO.FS.removeFile path
  let seconds := written.sec.toNat
  let some epoch := Date.ofText? "1970-01-01" | throw (.userError "no epoch")
  let some today := (List.range (seconds / 86400)).foldlM (fun (d : Date) _ => d.next?) epoch
    | throw (.userError "the calendar has ended")
  let some clock := Clock.ofSeconds? (seconds % 86400) | throw (.userError "no time of day")
  return (today, ⟨clock, written.nsec.toNat⟩)

def loadFiles (home : String) : IO Files := do
  let files ← loadWay ⟨[]⟩ (configLocation home)
  let config := match files.node? (configLocation home) with
    | some (.text content) => Config.parse content
    | _ => none
  let path := (config.getD (Run.defaultConfig home)).dataPath
  let files ← loadWay files (.ofText path)
  match Place.named? (Place.commonScheme path.toList) with
  | some (name, _) => loadWay files (.ofText name)
  | none => return files

def load (home : String) : IO (Machine Unit) := do
  let files ← loadFiles home
  let (today, time) ← now
  let console : Console := ⟨[], none, "", ""⟩
  return { home, files, memory := .empty, console, today, time, remote := () }

def save (before after : Machine Unit) : IO Unit := do
  for (l, node) in after.files.nodes do
    saveNode before.files l node

/-- Runs a command on what was typed so far, and anew with one line more as long as that is not
enough. What `shown` characters of both outputs have shown already is not printed again. -/
partial def converse (command : Command) (m : Machine Unit) (typed : String)
    (shown : Nat × Nat) : IO (Option CommandError × Machine Unit) := do
  let keys := if ← (← IO.getStdin).isTty then some typed.toList else none
  let console : Console := ⟨typed.toList, keys, "", ""⟩
  let (failure, after) := command.perform (Jira.tracker Net.unreachable) { m with console }
  IO.print (String.ofList (after.console.out.toList.drop shown.1))
  IO.eprint (String.ofList (after.console.err.toList.drop shown.2))
  if failure = some .endOfInput then
    let line ← (← IO.getStdin).getLine
    if !line.isEmpty then
      return ← converse command m (typed ++ line)
        (after.console.out.length, after.console.err.length)
  return (failure, after)

def run (words : List String) : IO Nat := do
  match Command.ofWords words with
  | .error stop =>
    IO.print stop.text
    return stop.exitCode
  | .ok command =>
    let home := (← IO.getEnv "HOME").getD "."
    let m ← load home
    let (failure, after) ← converse command m "" (0, 0)
    save m after
    match failure with
    | none => return 0
    | some e =>
      IO.eprint e.line
      return 1

end Timesheet.Program

def main (words : List String) : IO UInt32 := do
  try
    return (← Timesheet.Program.run words).toUInt32
  catch e =>
    IO.eprintln ("Error: " ++ toString e)
    return 1
