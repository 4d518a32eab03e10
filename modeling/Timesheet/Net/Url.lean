import Timesheet.Net.Host
import Timesheet.Net.Percent

/-!
Addresses of resources on the web, read as leniently as the URL standard of browsers says.
-/
namespace Timesheet.Net

inductive Scheme where
  | http
  | https
deriving DecidableEq

def Scheme.name : Scheme → String
  | .http => "http"
  | .https => "https"

def Scheme.portNumber : Scheme → Nat
  | .http => 80
  | .https => 443

structure Url where
  scheme : Scheme
  host : String
  portNumber : Nat
  path : String
  query : Option String
deriving DecidableEq

namespace Url

def target (u : Url) : String := u.path ++ (u.query.map ("?" ++ ·)).getD ""

/-- Drops control characters and blanks at both ends, and tabs and line ends everywhere. -/
def tidy (cs : List Char) : List Char :=
  let outer (c : Char) : Bool := c.toNat ≤ 0x20
  let trimmed := ((cs.dropWhile outer).reverse.dropWhile outer).reverse
  trimmed.filter fun c => c ≠ '\t' && c ≠ '\n' && c ≠ '\r'

def scheme? (cs : List Char) : Option (Scheme × List Char) := do
  let name := cs.takeWhile (· ≠ ':')
  match cs.dropWhile (· ≠ ':') with
  | _ :: rest =>
    let scheme ← [Scheme.http, .https].find? (·.name.toList == name.map Char.toLower)
    return (scheme, rest)
  | [] => none

def isSlash (c : Char) : Bool := c == '/' || c == '\\'

def endsAuthority (c : Char) : Bool := isSlash c || c == '?' || c == '#'

/-- What follows the last `@`: who the user is does not matter here. -/
def dropUser (cs : List Char) : List Char := (cs.reverse.takeWhile (· ≠ '@')).reverse

/-- The text of the host, and the rest from the colon on. Colons inside brackets belong to the
host. -/
def splitNumber (cs : List Char) : List Char × List Char :=
  match cs with
  | '[' :: _ =>
    let inside := cs.takeWhile (· ≠ ']')
    (inside ++ (cs.drop inside.length).take 1, cs.drop (inside.length + 1))
  | _ => (cs.takeWhile (· ≠ ':'), cs.dropWhile (· ≠ ':'))

def portNumber? (scheme : Scheme) : List Char → Option Nat
  | [] | [':'] => some scheme.portNumber
  | ':' :: digits =>
    if digits.all Char.isDigit then
      let n := digits.foldl (fun v c => 10 * v + (c.toNat - '0'.toNat)) 0
      if n < 65536 then some n else none
    else none
  | _ => none

/-- Points may be written as percent triples. -/
def isDot (segment : List Char) : Bool :=
  segment.map Char.toLower ∈ [".", "%2e"].map String.toList

def isDoubleDot (segment : List Char) : Bool :=
  segment.map Char.toLower ∈ ["..", ".%2e", "%2e.", "%2e%2e"].map String.toList

def segments : List Char → List (List Char)
  | [] => [[]]
  | c :: cs =>
    if isSlash c then [] :: segments cs
    else
      match segments cs with
      | [] => [[c]]
      | s :: rest => (c :: s) :: rest

/-- Takes a point segment as staying and a double point as going up; `above` holds the segments
before, the nearest first. -/
def walk (above : List (List Char)) : List (List Char) → List (List Char)
  | [] => above.reverse
  | s :: rest =>
    let up := if isDoubleDot s then above.drop 1 else above
    if isDoubleDot s ∨ isDot s then walk (if rest.isEmpty then [] :: up else up) rest
    else walk (percentEncode pathExtra s :: above) rest

def normalPath (cs : List Char) : List Char :=
  let inner := match cs with
    | c :: rest => if isSlash c then rest else cs
    | [] => []
  '/' :: Text.joinOnChar '/' (walk [] (segments inner))

def parse? (text : String) : Option Url := do
  let (scheme, rest) ← scheme? (tidy text.toList)
  let rest := rest.dropWhile isSlash
  let authority := rest.takeWhile (!endsAuthority ·)
  let rest := rest.drop authority.length
  let (hostText, numberText) := splitNumber (dropUser authority)
  let host ← Host.parse? hostText
  let portNumber ← portNumber? scheme numberText
  let rest := rest.takeWhile (· ≠ '#')
  let path := normalPath (rest.takeWhile (· ≠ '?'))
  let query := match rest.dropWhile (· ≠ '?') with
    | _ :: q => some (String.ofList (percentEncode queryExtra q))
    | [] => none
  return { scheme, host, portNumber, path := String.ofList path, query }

def withPairs (u : Url) (pairs : List (String × String)) : Url :=
  { u with query := some (String.ofList (appendPairs (u.query.map String.toList) pairs)) }

end Url

end Timesheet.Net
