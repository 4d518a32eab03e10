import Timesheet.Command.DateOptions
import Timesheet.Files.Place
import Timesheet.Store.Catalog
import Timesheet.Sync.Error

/-!
Why a command fails.
-/
namespace Timesheet

inductive CommandError where
  | noUserConfigured
  /-- The configured user does not exist. -/
  | noSuchActor (name : String)
  | noUserGiven
  | noSuchUser (name : String)
  | noSuchEntry (id : EntryId)
  | noSuchSystem (id : SystemId)
  | noSuchProject (error : Store.NoSuchProject)
  | pastMidnight
  | deletionAborted
  | resetAborted
  | notATerminal
  | endOfInput
  | noAnswer (attempts : Nat)
  | invalidConfig
  | unwritableConfig
  | date (fault : DateFault)
  | file (fault : FileFault)
  | opening (fault : OpenFault)
  | storage (error : StorageError)
  | sync (error : SyncError)
deriving DecidableEq

def CommandError.message : CommandError → String
  | noUserConfigured => "No user configured, run `tlog config user <name>` first"
  | noSuchActor name =>
    "User " ++ quoted name ++ " doesn't exist, create it with `tlog user create`"
  | noUserGiven => "No user given and none configured"
  | noSuchUser name => "User " ++ quoted name ++ " doesn't exist"
  | noSuchEntry id => "Entry " ++ toString id ++ " doesn't exist"
  | noSuchSystem id => "Ticket system " ++ toString id ++ " doesn't exist"
  | noSuchProject error => error.message
  | pastMidnight => "Entry can't extend past midnight"
  | deletionAborted => "Deletion aborted"
  | resetAborted => "Config reset aborted"
  | notATerminal => "Not a terminal"
  | endOfInput => "EOF"
  | noAnswer attempts =>
    "Unable to parse response in " ++ toString attempts ++ " attempts"
  | invalidConfig => "invalid configuration"
  | unwritableConfig => "out-of-range value for u64 type"
  | date fault => fault.message
  | file fault => fault.message
  | opening fault => ": ".intercalate fault.texts
  | storage error => ": ".intercalate error.texts
  | sync error => error.chain

end Timesheet
