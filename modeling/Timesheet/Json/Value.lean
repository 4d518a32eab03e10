/-!
JSON values and their compact form.
-/
namespace Timesheet

/-- A text in a JSON value. Escapes can spell half of a surrogate pair, and then there is no text.
-/
abbrev JsonText := Option String

inductive Json where
  | null
  | bool (value : Bool)
  | number (digits : String)
  | text (content : JsonText)
  | array (items : List Json)
  /-- Members in order; a name may occur more than once. -/
  | object (members : List (JsonText × Json))
deriving Inhabited

namespace Json

def ofText (s : String) : Json := text (some s)

def ofInt (n : Int) : Json := number (toString n)

def ofMembers (members : List (String × Json)) : Json :=
  object (members.map fun (name, value) => (some name, value))

def hexDigit (n : Nat) : Char := "0123456789abcdef".toList[n]?.getD '0'

def escape (c : Char) : List Char :=
  if c = '"' then ['\\', '"']
  else if c = '\\' then ['\\', '\\']
  else if c = '\x08' then ['\\', 'b']
  else if c = '\t' then ['\\', 't']
  else if c = '\n' then ['\\', 'n']
  else if c = '\x0c' then ['\\', 'f']
  else if c = '\r' then ['\\', 'r']
  else if c.toNat < 0x20 then
    ['\\', 'u', '0', '0', hexDigit (c.toNat / 16), hexDigit (c.toNat % 16)]
  else [c]

def writeText (s : JsonText) : List Char :=
  '"' :: (s.getD "").toList.flatMap escape ++ ['"']

mutual

def compactChars : Json → List Char
  | null => "null".toList
  | bool true => "true".toList
  | bool false => "false".toList
  | number digits => digits.toList
  | text s => writeText s
  | array items => '[' :: compactItems items ++ [']']
  | object members => '\x7b' :: compactMembers members ++ ['\x7d']

def compactItems : List Json → List Char
  | [] => []
  | [item] => compactChars item
  | item :: rest => compactChars item ++ ',' :: compactItems rest

def compactMembers : List (JsonText × Json) → List Char
  | [] => []
  | [(name, value)] => writeText name ++ ':' :: compactChars value
  | (name, value) :: rest =>
    writeText name ++ ':' :: compactChars value ++ ',' :: compactMembers rest

end

def compact (j : Json) : String := String.ofList j.compactChars

end Json

end Timesheet
