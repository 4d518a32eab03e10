import Timesheet.Command.Prompt
import Timesheet.Command.Reader
import Timesheet.Jira.Client
import Timesheet.Report.Listing
import Timesheet.Sync.Subtickets

/-!
Running commands.
-/
namespace Timesheet.Run

variable {σ : Type}

/-- Success in bold green, as far as the console has colours; the text is what counts. -/
def tellSuccess (text : String) : Run σ Unit := tell ("Success: " ++ text)

structure Session where
  config : Config
  data : Place
  user : UserId

def session : Run σ Session := do
  let c ← config
  let data ← openStore c.dataPath
  match c.user with
  | none => throw .noUserConfigured
  | some name =>
    match ← look data (·.userNamed? name) with
    | none => throw (.noSuchActor name)
    | some (id, _) => return ⟨c, data, id⟩

def meantDay (c : Config) (o : DateOptions) : Run σ Date := do
  let m ← get
  match o.resolve m.today m.time c.dayStart with
  | .ok d => return d
  | .error e => throw (.date e)

def meantEnd (e : EntryEnd) (start : Clock) : Run σ Clock := do
  match e.resolve start with
  | some t => return t
  | none => throw .pastMidnight

def alertLine (a : Alert) : String :=
  (if a.reauthenticate then "Unauthorized: " else "Warning: ") ++ a.text

def tellSaved (s : Saved) : Run σ Unit := do
  if let some a := s.alert then tell (alertLine a)
  let e := s.entry
  tellSuccess ("Entry " ++ toString s.id ++ " saved: " ++ e.day.text ++ " " ++ e.start.shortText ++
    "-" ++ e.finish.shortText ++ " (" ++ minutesText e.minutes ++ ", " ++ e.kind.label ++ ")")

variable (tracker : Tracker σ)

def add (start : Clock) (finish : EntryEnd) (fields : EntryFields) (date : DateOptions) :
    Run σ Unit := do
  let s ← session
  let day ← meantDay s.config date
  let finish ← meantEnd finish start
  tellSaved (← onStore s.data (Sync.save tracker s.user none (fields.input day start finish)))

def edit (id : EntryId) (change : EntryChange) : Run σ Unit := do
  let s ← session
  match ← look s.data (·.entryAt id) with
  | .error e => throw (.storage e)
  | .ok none => throw (.noSuchEntry id)
  | .ok (some e) =>
    let input := change.applyTo (EntryInput.ofEntry e)
    tellSaved (← onStore s.data (Sync.save tracker s.user (some id) input))

def delete (id : EntryId) (confirmed : Bool) : Run σ Unit := do
  let s ← session
  if !confirmed then
    if !(← consent ("Delete entry " ++ toString id ++ "?")) then throw .deletionAborted
  if let some a ← onStore s.data (Sync.delete tracker s.user id) then tell (alertLine a)
  tellSuccess ("Entry " ++ toString id ++ " deleted")

def bulk (range : Sync.BulkRange) (start : Clock) (finish : EntryEnd) (fields : EntryFields) :
    Run σ Unit := do
  let s ← session
  let finish ← meantEnd finish start
  let saved ← onStore s.data
    (Sync.bulkCreate tracker s.user (fields.input range.first start finish) range)
  for s in saved do
    if let some a := s.alert then tell (s.entry.day.text ++ " " ++ alertLine a)
  tellSuccess ("Created " ++ toString saved.length ++ " entries")

def showDay (date : DateOptions) : Run σ Unit := do
  let s ← session
  let day ← meantDay s.config date
  match ← look s.data (Listing.day · s.user day) with
  | .error e => throw (.storage e)
  | .ok report =>
    print report.grid.render
    tell report.total

def printListing (listing : Store → Grid) : Run σ Unit := do
  print (← look (← openData) listing).render

def tellCreated {kind : RowKind} (what name : String) (id : Id kind) : Run σ Unit :=
  tellSuccess (what ++ " " ++ quoted name ++ " created with id " ++ toString id)

def userNamed (data : Place) (name : String) : Run σ UserId := do
  match ← look data (·.userNamed? name) with
  | some (id, _) => return id
  | none => throw (.noSuchUser name)

def createProject (d : ProjectDraft) : Run σ Unit := do
  let data ← openData
  let name ← match d.name with
    | some name => pure name
    | none => ask "Enter new project name"
  let lead ← match d.lead with
    | some lead => do pure (some (← userNamed data lead))
    | none => pure none
  let project := { Project.blank name with
    customer := d.customer, system := d.system, prefixes := d.prefixes
    internalKey := d.internalKey, internalSystem := d.internalSystem, lead
    mainTickets := d.mainTickets }
  tellCreated "Project" name (← statement data (Store.createProject project))

def alterProject (f : Store → Except Store.NoSuchProject Store) : Run σ Unit := do
  let data ← openData
  match ← look data f with
  | .ok s => putStore data s
  | .error e => throw (.noSuchProject e)

def setMainTickets (id : ProjectId) (words : List String) : Run σ Unit := do
  alterProject (Store.setMainTickets id (words.flatMap Text.splitKeys))
  tellSuccess ("Main tickets of project " ++ toString id ++
    " updated, run `tlog project sync-subtickets " ++ toString id ++
    "` to refresh its subtickets")

def refreshLine (r : Sync.Refresh) : String :=
  match r.result with
  | .ok keys => "Synced: " ++ r.project.name ++ ": " ++ toString keys.length ++ " subtickets"
  | .error e =>
    "Failed: " ++ r.project.name ++ ": " ++ e.message ++ " (" ++ toString e.status ++ ")"

def syncSubtickets (id : Option ProjectId) : Run σ Unit := do
  let data ← openData
  match id with
  | some id =>
    let keys ← onStore data (Sync.resolveSubtickets tracker id)
    tellSuccess ("Project " ++ toString id ++ " has " ++ toString keys.length ++ " subtickets")
  | none =>
    for r in ← onStore data (Sync.refreshSubtickets tracker) do tell (refreshLine r)

def createSystem (s : TicketSystem) : Run σ Unit := do
  let data ← openData
  let s := { s with url := Jira.trimSlashes s.url }
  tellCreated "Ticket system" s.name (← statement data (Store.createSystem s))

def createUser (name : String) : Run σ Unit := do
  let name := Text.trim name
  tellCreated "User" name (← statement (← openData) (Store.createUser name))

def createCustomer (name : String) : Run σ Unit := do
  let name := Text.trim name
  tellCreated "Customer" name
    (← statement (← openData) fun s => .ok (Store.createCustomer name s))

def createActivity (name : String) : Run σ Unit := do
  let name := Text.trim name
  tellCreated "Activity" name (← statement (← openData) (Store.createActivity name))

def storeToken (system : SystemId) (user : Option String) : Run σ Unit := do
  let data ← openData
  let name ← match user with
    | some name => pure name
    | none =>
      match (← configFile).bind (·.user) with
      | some name => pure name
      | none => throw .noUserGiven
  let id ← userNamed data name
  match ← look data (·.system? system) with
  | none => throw (.noSuchSystem system)
  | some s =>
    let token ← ask "Access token"
    let secret ← askOptional "Token secret, for basic authentication"
    statement data fun st =>
      (Store.setToken id system ⟨token, secret.getD ""⟩ st).map fun st => ((), st)
    tellSuccess ("Token for " ++ quoted name ++ " on " ++ quoted s.name ++ " stored")

def tellUpdated (what value : String) : Run σ Unit :=
  tellSuccess (what ++ " updated to " ++ value)

def dataPathSetting (new : Option String) : Run σ Unit := do
  match new with
  | none => print (← config).dataPath
  | some path =>
    let c ← updateConfig fun c => { c with dataPath := path }
    tellUpdated "Data path" c.dataPath

def actingUser (new : Option String) : Run σ Unit := do
  match new with
  | none => print ((← config).user.getD "")
  | some name =>
    let _ ← updateConfig fun c => { c with user := some name }
    tellUpdated "User" name

def dayStart (new : Option Clock) : Run σ Unit := do
  match new with
  | none => print (← config).dayStart.clock.shortText
  | some t =>
    let _ ← updateConfig fun c => { c with threshold := some ⟨t, 0⟩ }
    tellUpdated "Day change threshold" t.shortText

def timeout (new : Option Nat) : Run σ Unit := do
  match new with
  | none => print (toString (← config).timeoutSeconds)
  | some n =>
    let _ ← updateConfig fun c => { c with timeout := some n }
    tellUpdated "Tracker timeout" (toString n ++ "s")

def resetConfig : Run σ Unit := do
  if !(← consent "Do you want to reset to default configuration?") then throw .resetAborted
  writeConfig (defaultConfig (← get).home)
  tellSuccess "Default configuration restored"

end Timesheet.Run

namespace Timesheet

def Command.run {σ : Type} (tracker : Tracker σ) : Command → Run σ Unit
  | .add start finish fields date => Run.add tracker start finish fields date
  | .edit id change => Run.edit tracker id change
  | .delete id confirmed => Run.delete tracker id confirmed
  | .bulk range start finish fields => Run.bulk tracker range start finish fields
  | .showDay date => Run.showDay date
  | .createProject draft => Run.createProject draft
  | .listProjects => Run.printListing Listing.projects
  | .setMainTickets id keys => Run.setMainTickets id keys
  | .syncSubtickets id => Run.syncSubtickets tracker id
  | .setProjectActive id active => Run.alterProject (Store.setProjectActive id active)
  | .createSystem system => Run.createSystem system
  | .listSystems => Run.printListing Listing.systems
  | .createUser name => Run.createUser name
  | .listUsers => Run.printListing Listing.users
  | .storeToken system user => Run.storeToken system user
  | .createCustomer name => Run.createCustomer name
  | .listCustomers => Run.printListing Listing.customers
  | .createActivity name => Run.createActivity name
  | .listActivities => Run.printListing Listing.activities
  | .dataPath new => Run.dataPathSetting new
  | .actingUser new => Run.actingUser new
  | .dayStart new => Run.dayStart new
  | .timeout new => Run.timeout new
  | .resetConfig => Run.resetConfig

def Command.perform {σ : Type} (tracker : Tracker σ) (c : Command) (m : Machine σ) :
    Option CommandError × Machine σ :=
  let (result, m) := (c.run tracker).run.run m
  let failure := match result with
    | .ok _ => none
    | .error e => some e
  (failure, m)

/-- What is printed when reading a command line stops. Help and usage have no text of their own. -/
def Stop.text : Stop → String
  | .version => "tlog 0.1.0\n"
  | _ => ""

def Stop.exitCode : Stop → Nat
  | .usage => 2
  | _ => 0

def CommandError.line (e : CommandError) : String := "Error: " ++ e.message ++ "\n"

def runWords {σ : Type} (tracker : Tracker σ) (words : List String) (m : Machine σ) :
    Nat × Machine σ :=
  match Command.ofWords words with
  | .error stop =>
    (stop.exitCode, { m with console := { m.console with out := m.console.out ++ stop.text } })
  | .ok c =>
    match c.perform tracker m with
    | (none, m) => (0, m)
    | (some e, m) =>
      (1, { m with console := { m.console with err := m.console.err ++ e.line } })

end Timesheet
