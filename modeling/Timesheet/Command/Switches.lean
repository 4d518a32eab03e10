import Timesheet.Id

/-!
Reading the words of a command line: switches with and without values, in long and short form, and
words in places of their own.
-/
namespace Timesheet

/-- A switch, such as `--start`. One without a check takes no value. -/
structure Switch where
  long : String
  short : Option Char
  /-- Whether a text can be its value. -/
  check : Option (String → Bool)

/-- What a command takes. -/
structure Takes where
  switches : List Switch
  /-- Whether a text can stand in each place. -/
  places : List (String → Bool)
  /-- Any number of words may follow. -/
  endless : Bool

inductive Stop where
  | help
  | version
  | usage
deriving DecidableEq

/-- What was given: switches by their long names, in order, and words. -/
structure Given where
  switches : List (String × String)
  words : List String
deriving DecidableEq

namespace Given

def empty : Given := ⟨[], []⟩

def has (g : Given) (long : String) : Bool := g.switches.any (·.1 == long)

def value? (g : Given) (long : String) : Option String :=
  (g.switches.find? (·.1 == long)).map (·.2)

def addSwitch (g : Given) (s : Switch) (value : String) : Except Stop Given :=
  if g.has s.long || !(s.check.all (· value)) then .error .usage
  else .ok { g with switches := g.switches ++ [(s.long, value)] }

def addWord (takes : Takes) (g : Given) (word : String) : Except Stop Given :=
  match takes.places[g.words.length]? with
  | some check => if check word then .ok { g with words := g.words ++ [word] } else .error .usage
  | none => if takes.endless then .ok { g with words := g.words ++ [word] } else .error .usage

end Given

namespace Takes

/-- The word cannot be the value of a switch before it. -/
def looksLikeSwitch (word : String) : Bool :=
  match word.toList with
  | '-' :: _ :: _ => true
  | _ => false

/-- Letters after a single hyphen. The last switch may still lack its value. -/
def readLetters (takes : Takes) (g : Given) : List Char → Except Stop (Given × Option Switch)
  | [] => .ok (g, none)
  | c :: cs =>
    match takes.switches.find? (·.short == some c) with
    | none => .error (if c = 'h' then .help else .usage)
    | some s =>
      if s.check.isNone then do readLetters takes (← g.addSwitch s "") cs
      else
        match cs with
        | [] => .ok (g, some s)
        | '=' :: value => do return (← g.addSwitch s (String.ofList value), none)
        | value => do return (← g.addSwitch s (String.ofList value), none)

/-- A switch by its long name, with a value perhaps. One without may still lack it. -/
def readLong (takes : Takes) (g : Given) (name : List Char) (value : Option (List Char)) :
    Except Stop (Given × Option Switch) :=
  match takes.switches.find? (·.long.toList == name) with
  | none => .error (if name = "help".toList ∧ value.isNone then .help else .usage)
  | some s =>
    match s.check, value with
    | none, none => do return (← g.addSwitch s "", none)
    | none, some _ => .error .usage
    | some _, some value => do return (← g.addSwitch s (String.ofList value), none)
    | some _, none => .ok (g, some s)

def readSwitch (takes : Takes) (g : Given) (word : String) :
    Except Stop (Given × Option Switch) :=
  match word.toList with
  | '-' :: '-' :: rest =>
    let name := rest.takeWhile (· ≠ '=')
    match rest.drop name.length with
    | _ :: value => readLong takes g name (some value)
    | [] => readLong takes g name none
  | _ :: letters => readLetters takes g letters
  | [] => .error .usage

/-- Reads the words of a command line; `pending` is a switch that waits for its value. After two
hyphens alone no word is a switch. -/
def readOn (takes : Takes) (g : Given) (pending : Option Switch) : List String → Except Stop Given
  | [] => if pending.isSome then .error .usage else .ok g
  | word :: rest =>
    match pending with
    | some s =>
      if looksLikeSwitch word then .error .usage
      else do readOn takes (← g.addSwitch s word) none rest
    | none =>
      if word = "--" then rest.foldlM (fun g word => g.addWord takes word) g
      else if looksLikeSwitch word then do
        let (g, pending) ← readSwitch takes g word
        readOn takes g pending rest
      else do readOn takes (← g.addWord takes word) none rest

def read (takes : Takes) (words : List String) : Except Stop Given :=
  readOn takes .empty none words

end Takes

end Timesheet
