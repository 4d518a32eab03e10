import Timesheet.Calendar.Duration
import Timesheet.Calendar.Iso8601
import Timesheet.Command.Basic
import Timesheet.Command.Switches
import Timesheet.Text.Integer

/-!
The commands that command lines spell.
-/
namespace Timesheet

namespace Typed

def anything (s : String) : Option String := some s

def id? {kind : RowKind} (s : String) : Option (Id kind) :=
  (Text.readInteger 0x80000000 0x7FFFFFFF (Text.trimBlank s.toList)).toOption.map Id.mk

def integer? (lowest highest : Int) (s : String) : Option Int :=
  (Text.readInteger 0x8000000000000000 0x7FFFFFFFFFFFFFFF s.toList).toOption.filter
    fun n => lowest ≤ n && n ≤ highest

def day? (s : String) : Option Nat := (integer? 0 255 s).map Int.toNat

def year? (s : String) : Option Int := integer? (-0x80000000) 0x7FFFFFFF s

def seconds? (s : String) : Option Nat := (Text.readNatural 0xFFFFFFFFFFFFFFFF s.toList).toOption

def minutes? (s : String) : Option Nat := (Duration.parse s).toOption

def kind? (s : String) : Option SystemKind :=
  if s = "jira" then some .jira else if s = "otrs" then some .otrs else none

def path? (s : String) : Option String := if s = "" then none else some s

def accepts {α : Type} (read : String → Option α) (s : String) : Bool := (read s).isSome

def valued {α : Type} (long : String) (short : Option Char) (read : String → Option α) : Switch :=
  { long, short, check := some (accepts read) }

def flag (long : String) (short : Option Char) : Switch := { long, short, check := none }

def optional {α : Type} (g : Given) (long : String) (read : String → Option α) : Option α :=
  (g.value? long).bind read

def required {α : Type} (g : Given) (long : String) (read : String → Option α) :
    Except Stop α :=
  match optional g long read with
  | some a => .ok a
  | none => .error .usage

def word? {α : Type} (g : Given) (place : Nat) (read : String → Option α) : Option α :=
  g.words[place]?.bind read

def word {α : Type} (g : Given) (place : Nat) (read : String → Option α) : Except Stop α :=
  match word? g place read with
  | some a => .ok a
  | none => .error .usage

def demand (ok : Bool) : Except Stop Unit := if ok then .ok () else .error .usage

def dateSwitches : List Switch :=
  [flag "today" none, flag "yesterday" none, valued "weekday" (some 'w') Weekday.ofTyped?,
    valued "date" none Iso8601.parseDate, valued "day" (some 'd') day?,
    valued "month" (some 'm') Month.ofName?, valued "year" none year?]

def dateOptions (g : Given) : Except Stop DateOptions := do
  let o : DateOptions :=
    { today := g.has "today", yesterday := g.has "yesterday"
      weekday := optional g "weekday" Weekday.ofTyped?, date := optional g "date" Iso8601.parseDate
      day := optional g "day" day?, month := optional g "month" Month.ofName?
      year := optional g "year" year? }
  demand o.permitted
  return o

def readDateOptions (words : List String) : Except Stop DateOptions := do
  dateOptions (← ({ switches := dateSwitches, places := [], endless := false } : Takes).read words)

def startSwitch : Switch := valued "start" (some 's') Clock.ofTyped?

def endSwitches : List Switch :=
  [valued "end" (some 'e') Clock.ofTyped?, valued "time" (some 't') minutes?]

def entryEnd (g : Given) : Except Stop EntryEnd :=
  match optional g "end" Clock.ofTyped?, optional g "time" minutes? with
  | some t, none => .ok (.clock t)
  | none, some n => .ok (.duration n)
  | _, _ => .error .usage

def fieldSwitches : List Switch :=
  [valued "project" (some 'p') (id? : String → Option ProjectId),
    valued "customer" none (id? : String → Option CustomerId),
    valued "activity" (some 'a') (id? : String → Option ActivityId), valued "ticket" none anything,
    valued "message" (some 'M') anything]

def entryFields (g : Given) : Except Stop EntryFields := do
  return { project := ← required g "project" id?, customer := optional g "customer" id?
           activity := optional g "activity" id?, ticket := (g.value? "ticket").getD ""
           description := (g.value? "message").getD "" }

def command (switches : List Switch) (places : List (String → Bool)) (endless : Bool)
    (make : Given → Except Stop Command) (words : List String) : Except Stop Command := do
  make (← ({ switches, places, endless } : Takes).read words)

def bare (c : Command) : List String → Except Stop Command := command [] [] false fun _ => .ok c

def single {α : Type} (read : String → Option α) (make : α → Command) :
    List String → Except Stop Command :=
  command [] [accepts read] false fun g => do return make (← word g 0 read)

def atMostOne {α : Type} (read : String → Option α) (make : Option α → Command) :
    List String → Except Stop Command :=
  command [] [accepts read] false fun g => .ok (make (word? g 0 read))

def add : List String → Except Stop Command :=
  command (startSwitch :: endSwitches ++ fieldSwitches ++ dateSwitches) [] false fun g => do
    return .add (← required g "start" Clock.ofTyped?) (← entryEnd g) (← entryFields g)
      (← dateOptions g)

def edit : List String → Except Stop Command :=
  let switches := startSwitch :: valued "end" (some 'e') Clock.ofTyped? ::
    valued "date" none Iso8601.parseDate :: flag "no-customer" none :: fieldSwitches
  command switches [accepts (id? : String → Option EntryId)] false fun g => do
    demand !(g.has "customer" && g.has "no-customer")
    let customer := match optional g "customer" id? with
      | some id => .set id
      | none => if g.has "no-customer" then .clear else .keep
    return .edit (← word g 0 id?)
      { start := optional g "start" Clock.ofTyped?, finish := optional g "end" Clock.ofTyped?
        day := optional g "date" Iso8601.parseDate, project := optional g "project" id?, customer
        activity := optional g "activity" id?, ticket := g.value? "ticket"
        description := g.value? "message" }

def delete : List String → Except Stop Command :=
  command [flag "yes" (some 'y')] [accepts (id? : String → Option EntryId)] false fun g => do
    return .delete (← word g 0 id?) (g.has "yes")

def bulk : List String → Except Stop Command :=
  let switches := valued "from" none Iso8601.parseDate :: valued "to" none Iso8601.parseDate ::
    flag "skip-weekends" none :: startSwitch :: endSwitches ++ fieldSwitches
  command switches [] false fun g => do
    let range : Sync.BulkRange :=
      { first := ← required g "from" Iso8601.parseDate, last := ← required g "to" Iso8601.parseDate
        skipWeekends := g.has "skip-weekends" }
    return .bulk range (← required g "start" Clock.ofTyped?) (← entryEnd g) (← entryFields g)

def showDay : List String → Except Stop Command :=
  command dateSwitches [] false fun g => do return .showDay (← dateOptions g)

def createProject : List String → Except Stop Command :=
  let switches := [valued "name" none anything,
    valued "customer" none (id? : String → Option CustomerId),
    valued "ticket-system" none (id? : String → Option SystemId), valued "prefixes" none anything,
    valued "internal-key" none anything,
    valued "internal-system" none (id? : String → Option SystemId), valued "lead" none anything,
    valued "main-tickets" none anything]
  command switches [] false fun g => do
    demand (g.has "internal-key" == g.has "internal-system")
    return .createProject
      { name := g.value? "name", customer := optional g "customer" id?
        system := optional g "ticket-system" id?, prefixes := g.value? "prefixes"
        internalKey := g.value? "internal-key", internalSystem := optional g "internal-system" id?
        lead := g.value? "lead", mainTickets := g.value? "main-tickets" }

def setMainTickets : List String → Except Stop Command :=
  command [] [accepts (id? : String → Option ProjectId)] true fun g => do
    return .setMainTickets (← word g 0 id?) (g.words.drop 1)

def createSystem : List String → Except Stop Command :=
  let switches := [valued "kind" none kind?, valued "url" none anything, flag "no-book-time" none]
  command switches [accepts anything] false fun g => do
    return .createSystem
      { name := ← word g 0 anything, kind := ← required g "kind" kind?
        url := ← required g "url" anything, bookTime := !g.has "no-book-time" }

def storeToken : List String → Except Stop Command :=
  command [valued "user" none anything] [accepts (id? : String → Option SystemId)] false fun g => do
    return .storeToken (← word g 0 id?) (g.value? "user")

end Typed

inductive CommandTree where
  | command (read : List String → Except Stop Command)
  /-- Every member has one or more names. -/
  | group (members : List (List String × CommandTree))

namespace CommandTree

def member? (members : List (List String × CommandTree)) (name : String) : Option CommandTree :=
  (members.find? (·.1.contains name)).map (·.2)

def projects : CommandTree := .group
  [(["create"], .command Typed.createProject), (["list"], .command (Typed.bare .listProjects)),
    (["main-tickets"], .command Typed.setMainTickets),
    (["sync-subtickets"], .command (Typed.atMostOne Typed.id? .syncSubtickets)),
    (["activate"], .command (Typed.single Typed.id? (.setProjectActive · true))),
    (["deactivate"], .command (Typed.single Typed.id? (.setProjectActive · false)))]

def systems : CommandTree := .group
  [(["create"], .command Typed.createSystem), (["list"], .command (Typed.bare .listSystems))]

def users : CommandTree := .group
  [(["create"], .command (Typed.single Typed.anything .createUser)),
    (["list"], .command (Typed.bare .listUsers)), (["token"], .command Typed.storeToken)]

def customers : CommandTree := .group
  [(["create"], .command (Typed.single Typed.anything .createCustomer)),
    (["list"], .command (Typed.bare .listCustomers))]

def activities : CommandTree := .group
  [(["create"], .command (Typed.single Typed.anything .createActivity)),
    (["list"], .command (Typed.bare .listActivities))]

def settings : CommandTree := .group
  [(["data-path"], .command (Typed.atMostOne Typed.path? .dataPath)),
    (["user"], .command (Typed.atMostOne Typed.anything .actingUser)),
    (["day-change-threshold"], .command (Typed.atMostOne Clock.ofTyped? .dayStart)),
    (["tracker-timeout"], .command (Typed.atMostOne Typed.seconds? .timeout)),
    (["reset"], .command (Typed.bare .resetConfig))]

def all : CommandTree := .group
  [(["add", "new", "n", "a"], .command Typed.add), (["edit", "e"], .command Typed.edit),
    (["delete", "rm"], .command Typed.delete), (["bulk"], .command Typed.bulk),
    (["show", "s"], .command Typed.showDay), (["project", "p"], projects),
    (["ticket-system", "ts"], systems), (["user"], users), (["customer"], customers),
    (["activity"], activities), (["config"], settings)]

def readHelp : CommandTree → List String → Except Stop Command
  | _, [] => .error .help
  | .command _, _ :: _ => .error .usage
  | .group members, name :: rest =>
    match member? members name with
    | some tree => readHelp tree rest
    | none => if name = "help" ∧ rest.isEmpty then .error .help else .error .usage

/-- What a switch before the name of a command asks for. -/
def readFront (top : Bool) (word : String) : Stop :=
  match word.toList with
  | ['-', '-'] => .usage
  | '-' :: '-' :: name =>
    if name = "help".toList then .help
    else if top ∧ name = "version".toList then .version
    else .usage
  | '-' :: 'h' :: _ => .help
  | '-' :: 'V' :: _ => if top then .version else .usage
  | _ => .usage

def read (top : Bool) : CommandTree → List String → Except Stop Command
  | .command read, words => read words
  | .group _, [] => .error .usage
  | .group members, word :: rest =>
    if Takes.looksLikeSwitch word then .error (readFront top word)
    else
      match member? members word with
      | some tree => tree.read false rest
      | none => if word = "help" then readHelp (.group members) rest else .error .usage

end CommandTree

def Command.ofWords (words : List String) : Except Stop Command := CommandTree.all.read true words

end Timesheet
