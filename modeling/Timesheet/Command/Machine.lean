import Timesheet.Command.Error
import Timesheet.Config
import Timesheet.Sync.World
import Timesheet.Text.Backspace

/-!
The surroundings of a command: files with the configuration and the stores among them, a console,
the time, and a remote side.
-/
namespace Timesheet

structure Console where
  /-- Text that was typed ahead. -/
  input : List Char
  /-- Keys that are pressed, when the console is a terminal. -/
  keys : Option (List Char)
  out : String
  err : String

structure Machine (σ : Type) where
  home : String
  files : Files
  /-- The store that is kept in memory while it is open. -/
  memory : Store
  console : Console
  today : Date
  time : FineClock
  remote : σ

def configLocation (home : String) : Location := .ofText (home ++ "/.config/tlog/config.toml")

namespace Machine

variable {σ : Type}

def configText? (m : Machine σ) : Option String :=
  match m.files.node? (configLocation m.home) with
  | some (.text content) => some content
  | _ => none

def storeAt (m : Machine σ) : Place → Store
  | .memory => m.memory
  | .file l =>
    match m.files.node? l with
    | some (.store s) => s
    | _ => .empty

def putStore (m : Machine σ) (s : Store) : Place → Machine σ
  | .memory => { m with memory := s }
  | .file l => { m with files := m.files.put l (.store s) }

end Machine

/-- The run of a command. What it did before a failure stays. -/
abbrev Run (σ : Type) := ExceptT CommandError (StateM (Machine σ))

namespace Run

variable {σ α : Type}

def onConsole (f : Console → Console) : Run σ Unit :=
  modify fun m => { m with console := f m.console }

def print (line : String) : Run σ Unit := onConsole fun c => { c with out := c.out ++ line ++ "\n" }

/-- Prints a line for the person, not for other programs. -/
def tell (line : String) : Run σ Unit := onConsole fun c => { c with err := c.err ++ line ++ "\n" }

def firstLine (input : List Char) : List Char :=
  let line := input.takeWhile (· ≠ '\n')
  if line.length < input.length ∧ line.getLast? = some '\r' then line.dropLast else line

/-- Reads a line of input; backspaces in it take back what was typed before them. -/
def readLine : Run σ String := do
  let input := (← get).console.input
  if input.isEmpty then throw .endOfInput
  onConsole fun c => { c with input := (input.dropWhile (· ≠ '\n')).drop 1 }
  return String.ofList (Text.edited (firstLine input))

def keyChar (c : Char) : Option Char :=
  if c = '\n' ∨ c = '\r' then some '\n'
  else if c.toNat < 0x20 ∨ c = '\x7f' then none
  else some c

def nextKey : List Char → Option (Char × List Char)
  | [] => none
  | c :: cs =>
    match keyChar c with
    | some k => some (k, cs)
    | none => nextKey cs

def readKey : Run σ Char := do
  match (← get).console.keys with
  | none => throw .notATerminal
  | some keys =>
    match nextKey keys with
    | none => throw .endOfInput
    | some (k, rest) =>
      onConsole fun c => { c with keys := some rest }
      return k

def onFiles {ε : Type} (fault : ε → CommandError) (work : Files.Work ε α) : Run σ α := do
  let m ← get
  let (result, files) := work.run.run m.files
  set { m with files }
  match result with
  | .ok a => return a
  | .error e => throw (fault e)

def defaultConfig (home : String) : Config :=
  .ofDataPath (home ++ "/.local/share/tlog/tlog.db")

def configFile : Run σ (Option Config) := do
  match (← get).configText? with
  | none => return none
  | some text =>
    match Config.parse text with
    | some c => return some c
    | none => throw .invalidConfig

def config : Run σ Config := do return (← configFile).getD (defaultConfig (← get).home)

/-- Writes the file anew. One that cannot be written is left empty. -/
def writeConfig (c : Config) : Run σ Unit := do
  let l := configLocation (← get).home
  onFiles .file (Files.ensureFolders l.dropLast)
  let content := c.render
  modify fun m => { m with files := m.files.put l (.text (content.getD "")) }
  if content.isNone then throw .unwritableConfig

def updateConfig (change : Config → Config) : Run σ Config := do
  let c := change (← config)
  writeConfig c
  return c

def openStore (path : String) : Run σ Place := do
  let place ← onFiles .opening (Files.openStore path)
  if place = .memory then modify fun m => { m with memory := .empty }
  return place

def openData : Run σ Place := do openStore (← config).dataPath

def putStore (place : Place) (s : Store) : Run σ Unit := modify (·.putStore s place)

def onStore (place : Place) (work : Sync σ α) : Run σ α := do
  let m ← get
  let world : World σ := { store := m.storeAt place, remote := m.remote, journal := [] }
  let (result, w) := work.run.run world
  modify fun m => { m with remote := w.remote }
  putStore place w.store
  match result with
  | .ok a => return a
  | .error e => throw (.sync e)

def statement (place : Place) (f : Store → Except StorageError (α × Store)) : Run σ α := do
  match f ((← get).storeAt place) with
  | .ok (a, s) =>
    putStore place s
    return a
  | .error e => throw (.storage e)

def look (place : Place) (f : Store → α) : Run σ α := do return f ((← get).storeAt place)

end Run

end Timesheet
