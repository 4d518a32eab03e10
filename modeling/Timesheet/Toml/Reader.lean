import Timesheet.Toml.Scalar

/-!
Reading TOML documents: keys, arrays, tables in braces, and the lines of a document.
-/
namespace Timesheet.Toml

def isBare (c : Char) : Bool := c.isAlphanum || c == '-' || c == '_'

def simpleKey? : List Char → Option (String × List Char)
  | '"' :: rest => (basicText rest).map fun (s, rest) => (String.ofList s, rest)
  | '\'' :: rest => (literalText rest).map fun (s, rest) => (String.ofList s, rest)
  | cs =>
    let name := cs.takeWhile isBare
    if name.isEmpty then none else some (String.ofList name, cs.dropWhile isBare)

/-- Tables and arrays stand within each other at most so often. -/
def maxDepth : Nat := 79

/-- At most `room` keys with points between them, and the rest after the blanks that follow. -/
def keys? (room : Nat) (cs : List Char) : Option (List String × List Char) :=
  match room with
  | 0 => none
  | room + 1 => do
    let (first, rest) ← simpleKey? (skipIndent cs)
    match skipIndent rest with
    | '.' :: rest =>
      let (path, rest) ← keys? room rest
      return (first :: path, rest)
    | rest => return ([first], rest)

def key? (cs : List Char) : Option (List String × List Char) := keys? maxDepth cs

def skipComment : List Char → List Char
  | '#' :: rest => rest.dropWhile isPlain
  | cs => cs

def skipFiller (fuel : Nat) (cs : List Char) : List Char :=
  match fuel with
  | 0 => cs
  | fuel + 1 =>
    let rest := skipComment (skipIndent cs)
    match newline? rest with
    | some rest => skipFiller fuel rest
    | none => rest

mutual

/-- Reads a value at the start of `cs` that is at most `depth` deep. Every step uses up a character,
so the number of characters is enough for `fuel`. -/
def value? (fuel depth : Nat) (cs : List Char) : Option (Toml × List Char) :=
  match fuel with
  | 0 => none
  | fuel + 1 =>
    match cs, depth with
    | '[' :: _, 0 | '\x7b' :: _, 0 => none
    | '[' :: rest, depth + 1 =>
      (items? fuel depth rest).map fun (items, rest) => (.array items, rest)
    | '\x7b' :: rest, depth + 1 =>
      match skipIndent rest with
      | '\x7d' :: rest => some (.table .braces [], rest)
      | rest => do
        let (pairs, rest) ← pairs? fuel depth rest
        return (.table .braces (← addAll [] pairs), rest)
    | _, _ => scalarValue? cs

def items? (fuel depth : Nat) (cs : List Char) : Option (List Toml × List Char) :=
  match fuel with
  | 0 => none
  | fuel + 1 =>
    match skipFiller cs.length cs with
    | ']' :: rest => some ([], rest)
    | cs => do
      let (item, rest) ← value? fuel depth cs
      match skipFiller rest.length rest with
      | ']' :: rest => return ([item], rest)
      | ',' :: rest =>
        let (items, rest) ← items? fuel depth rest
        return (item :: items, rest)
      | _ => none

def pairs? (fuel depth : Nat) (cs : List Char) :
    Option (List (List String × Toml) × List Char) :=
  match fuel with
  | 0 => none
  | fuel + 1 => do
    let (path, rest) ← key? cs
    let rest ← Json.skipWord ['='] rest
    let (value, rest) ← value? fuel depth (skipIndent rest)
    match skipIndent rest with
    | '\x7d' :: rest => return ([(path, value)], rest)
    | ',' :: rest =>
      let (pairs, rest) ← pairs? fuel depth rest
      return ((path, value) :: pairs, rest)
    | _ => none

end

/-- The rest after blanks, a comment perhaps, and the end of the line. -/
def lineEnd? (cs : List Char) : Option (List Char) :=
  match skipComment (skipIndent cs) with
  | [] => some []
  | rest => newline? rest

def header? (cs : List Char) : Option (Header × List Char) :=
  match cs with
  | '[' :: '[' :: rest => do
    let (path, rest) ← key? rest
    return (.element path, ← Json.skipWord [']', ']'] rest)
  | '[' :: rest => do
    let (path, rest) ← key? rest
    return (.table path, ← Json.skipWord [']'] rest)
  | _ => none

/-- Reads the lines of a document below a header, with the pairs read so far. -/
def lines? (fuel : Nat) (header : Header) (pairs : List (List String × Toml)) (cs : List Char) :
    Option (List Section) :=
  match fuel with
  | 0 => none
  | fuel + 1 =>
    match skipIndent cs with
    | [] => some [⟨header, pairs⟩]
    | '[' :: rest => do
      let (next, rest) ← header? ('[' :: rest)
      let later ← lines? fuel next [] (← lineEnd? rest)
      return ⟨header, pairs⟩ :: later
    | rest =>
      match lineEnd? rest with
      | some rest => lines? fuel header pairs rest
      | none => do
        let (path, rest) ← key? rest
        let rest ← Json.skipWord ['='] rest
        let (value, rest) ← value? (rest.length + 1) maxDepth (skipIndent rest)
        lines? fuel header (pairs ++ [(path, value)]) (← lineEnd? rest)

def parse (document : String) : Option Members := do
  let cs := match document.toList with
    | '\uFEFF' :: rest => rest
    | cs => cs
  ofSections (← lines? (cs.length + 1) .root [] cs)

end Timesheet.Toml
