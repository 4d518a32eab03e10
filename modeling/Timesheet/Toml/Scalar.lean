import Timesheet.Calendar.Typed
import Timesheet.Json.Reader
import Timesheet.Toml.Value

/-!
The values of TOML that have no parts: texts in four kinds of quotes, numbers, and moments of time.
Every reader gives what it read and the rest of the input.
-/
namespace Timesheet.Toml

/-- Control characters other than the tab are not written as they are. -/
def isPlain (c : Char) : Bool := c == '\t' || (0x20 ≤ c.toNat && c != '\x7f')

def isIndent (c : Char) : Bool := c == ' ' || c == '\t'

def skipIndent (cs : List Char) : List Char := cs.dropWhile isIndent

def newline? : List Char → Option (List Char)
  | '\n' :: rest => some rest
  | '\r' :: '\n' :: rest => some rest
  | _ => none

/-- A character by the hexadecimal digits of its number, unless that is the number of half of a
surrogate pair. -/
def scalar? (digits : List Char) : Option Char := do
  let n ← Json.hexValues? digits
  if n.isValidChar then some (Char.ofNat n) else none

/-- What follows a backslash, up to the end of the escape. -/
def escape? : List Char → Option (Char × List Char)
  | 'b' :: rest => some ('\x08', rest)
  | 't' :: rest => some ('\t', rest)
  | 'n' :: rest => some ('\n', rest)
  | 'f' :: rest => some ('\x0c', rest)
  | 'r' :: rest => some ('\r', rest)
  | '"' :: rest => some ('"', rest)
  | '\\' :: rest => some ('\\', rest)
  | 'u' :: a :: b :: c :: d :: rest => (scalar? [a, b, c, d]).map (·, rest)
  | 'U' :: a :: b :: c :: d :: e :: f :: g :: h :: rest =>
    (scalar? [a, b, c, d, e, f, g, h]).map (·, rest)
  | _ => none

theorem escape?_length {cs rest : List Char} {c : Char} (h : escape? cs = some (c, rest)) :
    rest.length < cs.length := by
  unfold escape? at h
  split at h
  case h_8 | h_9 =>
    obtain ⟨_, _, hc⟩ := Option.map_eq_some_iff.1 h
    cases hc
    simp only [List.length_cons]
    omega
  all_goals
    cases h
    try simp

def basicText (cs : List Char) : Option (List Char × List Char) :=
  match cs with
  | '"' :: rest => some ([], rest)
  | '\\' :: tail =>
    match _h : escape? tail with
    | some (c, rest) => (basicText rest).map fun (s, rest) => (c :: s, rest)
    | none => none
  | c :: rest => if isPlain c then (basicText rest).map fun (s, rest) => (c :: s, rest) else none
  | [] => none
termination_by cs.length
decreasing_by
  · have := escape?_length _h
    simp only [List.length_cons]
    omega
  · simp

def literalText : List Char → Option (List Char × List Char)
  | '\'' :: rest => some ([], rest)
  | c :: rest => if isPlain c then (literalText rest).map fun (s, rest) => (c :: s, rest) else none
  | [] => none

/-- Three closing quotes, with up to two of the text before them. -/
def closing? (q : Char) (cs : List Char) : Option (List Char × List Char) :=
  let run := cs.takeWhile (· = q)
  if run.length < 3 then none
  else
    let inner := min (run.length - 3) 2
    some (List.replicate inner q, cs.drop (inner + 3))

def skipLines : List Char → List Char
  | '\r' :: '\n' :: rest => skipLines rest
  | c :: rest => if isIndent c || c == '\n' then skipLines rest else c :: rest
  | [] => []

/-- After a backslash at the end of a line: the first character of a later line that is not blank.
-/
def continued? (cs : List Char) : Option (List Char) :=
  (newline? (skipIndent cs)).map skipLines

def basicLines (fuel : Nat) (cs : List Char) : Option (List Char × List Char) :=
  match fuel with
  | 0 => none
  | fuel + 1 =>
    match closing? '"' cs with
    | some found => some found
    | none =>
      match cs with
      | '\\' :: tail =>
        match continued? tail with
        | some rest => basicLines fuel rest
        | none =>
          match escape? tail with
          | some (c, rest) => (basicLines fuel rest).map fun (s, rest) => (c :: s, rest)
          | none => none
      | c :: tail =>
        match newline? cs with
        | some rest => (basicLines fuel rest).map fun (s, rest) => ('\n' :: s, rest)
        | none =>
          if isPlain c then (basicLines fuel tail).map fun (s, rest) => (c :: s, rest) else none
      | [] => none

def literalLines (fuel : Nat) (cs : List Char) : Option (List Char × List Char) :=
  match fuel with
  | 0 => none
  | fuel + 1 =>
    match closing? '\'' cs with
    | some found => some found
    | none =>
      match cs with
      | c :: tail =>
        match newline? cs with
        | some rest => (literalLines fuel rest).map fun (s, rest) => ('\n' :: s, rest)
        | none =>
          if isPlain c then (literalLines fuel tail).map fun (s, rest) => (c :: s, rest) else none
      | [] => none

/-- A line end right after the opening quotes does not count. -/
def dropNewline (cs : List Char) : List Char := (newline? cs).getD cs

def readText? : List Char → Option (List Char × List Char)
  | '"' :: '"' :: '"' :: rest => basicLines (rest.length + 1) (dropNewline rest)
  | '"' :: rest => basicText rest
  | '\'' :: '\'' :: '\'' :: rest => literalLines (rest.length + 1) (dropNewline rest)
  | '\'' :: rest => literalText rest
  | _ => none

/-- Digits of a base with single underscores between them. -/
def digitGroups (isDigit : Char → Bool) : List Char → List Char × List Char
  | c :: '_' :: d :: rest =>
    if isDigit c && isDigit d then
      let (ds, rest) := digitGroups isDigit (d :: rest)
      (c :: ds, rest)
    else if isDigit c then ([c], '_' :: d :: rest)
    else ([], c :: '_' :: d :: rest)
  | c :: rest =>
    if isDigit c then
      let (ds, rest) := digitGroups isDigit rest
      (c :: ds, rest)
    else ([], c :: rest)
  | [] => ([], [])

def valueIn (base : Nat) (digits : List Char) : Nat :=
  digits.foldl (fun n c => base * n + (Json.hexValue? c).getD 0) 0

def sign : List Char → List Char × List Char
  | '+' :: rest => (['+'], rest)
  | '-' :: rest => (['-'], rest)
  | cs => ([], cs)

def decimal? (cs : List Char) : Option (List Char × List Char) :=
  match cs with
  | '0' :: rest => some (['0'], rest)
  | _ =>
    let (digits, rest) := digitGroups Char.isDigit cs
    if digits.isEmpty then none else some (digits, rest)

def inRange? (n : Int) : Option Toml :=
  if -(maxInteger : Int) - 1 ≤ n ∧ n ≤ maxInteger then some (.integer n) else none

def based? (base : Nat) (isDigit : Char → Bool) (cs : List Char) : Option (Toml × List Char) := do
  let (digits, rest) := digitGroups isDigit cs
  if digits.isEmpty then none else return (← inRange? (valueIn base digits), rest)

def integer? (cs : List Char) : Option (Toml × List Char) :=
  match cs with
  | '0' :: 'x' :: rest => based? 16 (fun c => (Json.hexValue? c).isSome) rest
  | '0' :: 'o' :: rest => based? 8 (fun c => '0' ≤ c && c ≤ '7') rest
  | '0' :: 'b' :: rest => based? 2 (fun c => c == '0' || c == '1') rest
  | _ => do
    let (s, rest) := sign cs
    let (digits, rest) ← decimal? rest
    let n : Int := valueIn 10 digits
    return (← inRange? (if s = ['-'] then -n else n), rest)

def fraction? : List Char → Option (List Char × List Char)
  | '.' :: rest =>
    let (digits, rest) := digitGroups Char.isDigit rest
    if digits.isEmpty then none else some ('.' :: digits, rest)
  | _ => none

def exponent? : List Char → Option (List Char × List Char)
  | c :: rest =>
    if c = 'e' ∨ c = 'E' then
      let (s, rest) := sign rest
      let (digits, rest) := digitGroups Char.isDigit rest
      if digits.isEmpty then none else some ('e' :: s ++ digits, rest)
    else none
  | [] => none

def exponentValue : List Char → Int
  | _ :: '-' :: digits => -(valueIn 10 digits : Int)
  | _ :: '+' :: digits => valueIn 10 digits
  | _ :: digits => valueIn 10 digits
  | [] => 0

/-- From here on a float of 64 bits is infinite: half way between the largest of them and the next
power of two. It has 309 digits. -/
def infinityBound : Nat := (Nat.pow 2 54 - 1) * Nat.pow 2 970

/-- Whether the number with these digits and `scale` zeros after them is infinite as a float. -/
def isInfinite (digits : List Char) (scale : Int) : Bool :=
  let digits := digits.dropWhile (· = '0')
  let length := digits.length + scale
  let shift := fun n : Int => Nat.pow 10 n.toNat
  !digits.isEmpty && (309 < length ||
    (length = 309 && infinityBound * shift (-scale) ≤ valueIn 10 digits * shift scale))

/-- A number with a point or an exponent, or one that has a name. A positive one has to be small
enough. -/
def float? (cs : List Char) : Option (Toml × List Char) := do
  let (s, rest) := sign cs
  match rest with
  | 'i' :: 'n' :: 'f' :: rest => return (.float (String.ofList (s ++ "inf".toList)), rest)
  | 'n' :: 'a' :: 'n' :: rest => return (.float (String.ofList (s ++ "nan".toList)), rest)
  | _ =>
    let (whole, rest) ← decimal? rest
    let (f, rest) := (fraction? rest).getD ([], rest)
    let (e, rest) := (exponent? rest).getD ([], rest)
    let places := f.drop 1
    if f.isEmpty && e.isEmpty then none
    else if s ≠ ['-'] && isInfinite (whole ++ places) (exponentValue e - places.length) then none
    else return (.float (String.ofList (s ++ whole ++ f ++ e)), rest)

/-- Reads a number of two digits up to `last`. -/
def pair? (last : Nat) : List Char → Option (List Char)
  | a :: b :: rest => do
    let n ← digits? [a, b]
    if n ≤ last then some rest else none
  | _ => none

def dateRest? (cs : List Char) : Option (List Char) := do
  let _ ← Date.ofText? (String.ofList (cs.take 10))
  if cs.head? = some '-' then none else some (cs.drop 10)

/-- Skips hours, minutes and seconds, and a fraction of a second. -/
def timeRest? (cs : List Char) : Option (List Char) := do
  let cs ← pair? 23 cs
  let cs ← Json.skipWord [':'] cs
  let cs ← pair? 59 cs
  let cs ← Json.skipWord [':'] cs
  let cs ← pair? 60 cs
  match cs with
  | '.' :: rest =>
    let digits := rest.takeWhile Char.isDigit
    if digits.isEmpty then none else some (rest.drop digits.length)
  | _ => some cs

def offsetRest? : List Char → Option (List Char)
  | 'Z' :: rest | 'z' :: rest => some rest
  | '+' :: rest | '-' :: rest => do
    let cs ← pair? 23 rest
    pair? 59 (← Json.skipWord [':'] cs)
  | _ => none

def momentRest? (cs : List Char) : Option (List Char) :=
  match dateRest? cs with
  | some rest =>
    match rest with
    | c :: tail =>
      if c = 'T' ∨ c = 't' ∨ c = ' ' then
        match timeRest? tail with
        | some rest => some ((offsetRest? rest).getD rest)
        | none => some rest
      else some rest
    | [] => some rest
  | none => timeRest? cs

def moment? (cs : List Char) : Option (Toml × List Char) :=
  (momentRest? cs).map fun rest =>
    (.moment (String.ofList (cs.take (cs.length - rest.length))), rest)

def scalarValue? (cs : List Char) : Option (Toml × List Char) :=
  match cs with
  | '"' :: _ | '\'' :: _ => (readText? cs).map fun (s, rest) => (.text (String.ofList s), rest)
  | 't' :: rest => (Json.skipWord "rue".toList rest).map fun rest => (.boolean true, rest)
  | 'f' :: rest => (Json.skipWord "alse".toList rest).map fun rest => (.boolean false, rest)
  | _ => moment? cs <|> float? cs <|> integer? cs

end Timesheet.Toml
