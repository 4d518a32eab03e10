import Timesheet.Net.Name
import Timesheet.Net.Percent

/-!
Hosts of addresses: names, and numeric ones in their two versions.
-/
namespace Timesheet.Net.Host

/-- A number in decimal, octal with a leading zero, or hexadecimal with a leading `0x`. -/
def number? (cs : List Char) : Option Nat :=
  let read (base : Nat) (digits : List Char) : Option Nat :=
    digits.foldlM (fun n c => do
      let d ← Json.hexValue? c
      if d < base then some (base * n + d) else none) 0
  match cs with
  | [] => none
  | '0' :: 'x' :: digits | '0' :: 'X' :: digits => read 16 digits
  | '0' :: digits => read 8 digits
  | digits => read 10 digits

/-- Parts between points; one empty part at the end does not count. -/
def parts (cs : List Char) : List (List Char) :=
  let all := Text.splitOnChar '.' cs
  match all.reverse with
  | [] :: rest => if rest.isEmpty then all else rest.reverse
  | _ => all

/-- Such a host is a number and no name. -/
def endsInNumber (cs : List Char) : Bool :=
  match (parts cs).getLast? with
  | some last => !last.isEmpty && (last.all Char.isDigit || (number? last).isSome)
  | none => false

/-- The number of an address with four bytes, of which the last number may hold several. -/
def version4? (cs : List Char) : Option Nat := do
  let numbers ← (parts cs).mapM number?
  let front := numbers.dropLast
  let last ← numbers.getLast?
  let room := Nat.pow 256 (4 - front.length)
  if front.length < 4 ∧ front.all (· < 256) ∧ last < room then
    some (front.foldl (fun n part => 256 * n + part) 0 * room + last)
  else none

def version4Text (n : Nat) : String :=
  ".".intercalate ([0x1000000, 0x10000, 0x100, 1].map fun unit => toString (n / unit % 256))

def isGroup (cs : List Char) : Bool :=
  !cs.isEmpty && cs.length ≤ 4 && cs.all fun c => (Json.hexValue? c).isSome

/-- Decimal numbers below 256 without needless zeros, four of them. -/
def isQuad (cs : List Char) : Bool :=
  let numbers := Text.splitOnChar '.' cs
  numbers.length == 4 && numbers.all fun n =>
    !n.isEmpty && n.length ≤ 3 && n.all Char.isDigit && (n.length == 1 || n.head? != some '0') &&
      (n.foldl (fun v c => 10 * v + (c.toNat - '0'.toNat)) 0) < 256

/-- How many groups of four digits a row of groups stands for; a quad may end it. -/
def groupCount? (cs : List Char) (quadAtEnd : Bool) : Option Nat :=
  if cs.isEmpty then some 0
  else
    let groups := Text.splitOnChar ':' cs
    match groups.reverse with
    | last :: front =>
      if !front.all isGroup then none
      else if isGroup last then some groups.length
      else if quadAtEnd && isQuad last then some (groups.length + 1)
      else none
    | [] => none

/-- The part before the first double colon and the part after it. -/
def doubleColon? : List Char → Option (List Char × List Char)
  | ':' :: ':' :: rest => some ([], rest)
  | c :: rest => (doubleColon? rest).map fun (a, b) => (c :: a, b)
  | [] => none

/-- Eight groups, of which a double colon replaces at least one. -/
def isVersion6 (cs : List Char) : Bool :=
  match doubleColon? cs with
  | none => groupCount? cs true == some 8
  | some (a, b) =>
    match groupCount? a false, groupCount? b true with
    | some m, some n => m + n ≤ 7
    | _, _ => false

def parse? (cs : List Char) : Option String :=
  match cs with
  | '[' :: rest =>
    if rest.getLast? = some ']' ∧ isVersion6 rest.dropLast then
      some (String.ofList (cs.map Char.toLower))
    else none
  | _ => do
    let name ← Name.parse? (← percentDecode? cs)
    if endsInNumber name then return version4Text (← version4? name)
    else return String.ofList name

end Timesheet.Net.Host
