import Timesheet.Json.Reader

/-!
Percent encoding of the bytes of a text and its reading, and the form encoding of names and values.
-/
namespace Timesheet.Net

def hexDigit (n : Nat) : Char := "0123456789ABCDEF".toList[n]?.getD '0'

def percentByte (b : UInt8) : List Char := ['%', hexDigit (b.toNat / 16), hexDigit (b.toNat % 16)]

def percentChar (c : Char) : List Char := (String.utf8EncodeChar c).flatMap percentByte

/-- Control characters and everything beyond ASCII are always encoded, further characters as
`extra` says. -/
def percentEncode (extra : List Char) (cs : List Char) : List Char :=
  cs.flatMap fun c =>
    if c.toNat < 0x20 ∨ 0x7F ≤ c.toNat ∨ c ∈ extra then percentChar c else [c]

def percentBytes : List Char → List UInt8
  | '%' :: a :: b :: rest =>
    match Json.hexValues? [a, b] with
    | some n => n.toUInt8 :: percentBytes rest
    | none => String.utf8EncodeChar '%' ++ percentBytes (a :: b :: rest)
  | c :: rest => String.utf8EncodeChar c ++ percentBytes rest
  | [] => []
termination_by cs => cs.length

/-- Decodes percent triples; together they have to spell characters. -/
def percentDecode? (cs : List Char) : Option (List Char) :=
  (String.fromUTF8? ⟨(percentBytes cs).toArray⟩).map String.toList

def pathExtra : List Char := [' ', '"', '<', '>', '\u0060', '#', '?', '\x7b', '\x7d']

def queryExtra : List Char := [' ', '"', '<', '>', '#', '\'']

/-- The form encoding keeps letters, digits and four marks, and writes a plus sign for a blank. -/
def formChar (c : Char) : List Char :=
  if c.isAlphanum ∨ c ∈ ['*', '-', '.', '_'] then [c]
  else if c = ' ' then ['+']
  else percentChar c

def formPair (pair : String × String) : List Char :=
  pair.1.toList.flatMap formChar ++ '=' :: pair.2.toList.flatMap formChar

def appendPairs (query : Option (List Char)) (pairs : List (String × String)) : List Char :=
  pairs.foldl (fun q pair => if q.isEmpty then formPair pair else q ++ '&' :: formPair pair)
    (query.getD [])

end Timesheet.Net
