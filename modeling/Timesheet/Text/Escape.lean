/-!
Style codes of terminals inside a text: which characters are a code, what is left of a text without
them, and how a style goes on in the next line.
-/
namespace Timesheet.Text.Escape

def escape : Char := '\x1b'

/-- Characters that open a style code: the escape, or one character for the escape and a bracket. -/
def isIntroducer (c : Char) : Bool := c = escape || c = '\u009b'

/-- Marks between the introducer of a style code and its numbers. -/
def isOpening (c : Char) : Bool := "[()#;?".toList.contains c

/-- Letters and signs that end a style code. -/
def isFinal (c : Char) : Bool :=
  ('A' ≤ c && c ≤ 'P') || ('f' ≤ c && c ≤ 'n') || "RZcqry=><".toList.contains c

/-- How long the numbers of a style code and its end are, when so many digits of a number of at most
four were read. The last digit can be the end itself; the longest code counts. -/
def numbersLength? (digits : Nat) : List Char → Option Nat
  | [] => none
  | c :: cs =>
    if c.isDigit then
      if digits < 4 then some (1 + (numbersLength? (digits + 1) cs).getD 0) else some 1
    else if isFinal c then some 1
    else if c = ';' then (numbersLength? 0 cs).map (1 + ·)
    else none

def codeLength? : List Char → Option Nat
  | [] => none
  | c :: cs =>
    if isIntroducer c then
      let opening := cs.takeWhile isOpening
      (numbersLength? 0 (cs.drop opening.length)).map (1 + opening.length + ·)
    else none

/-- The text after `skip` characters, without the codes that `length?` finds. -/
def without (length? : List Char → Option Nat) : (skip : Nat) → List Char → List Char
  | _, [] => []
  | skip + 1, _ :: cs => without length? skip cs
  | 0, c :: cs =>
    match length? (c :: cs) with
    | some n => without length? (n - 1) cs
    | none => c :: without length? 0 cs

def strip (cs : List Char) : List Char := without codeLength? 0 cs

def codes : (skip : Nat) → List Char → List (List Char)
  | _, [] => []
  | skip + 1, _ :: cs => codes skip cs
  | 0, c :: cs =>
    match codeLength? (c :: cs) with
    | some n => (c :: cs).take n :: codes (n - 1) cs
    | none => codes 0 cs

def reset : List Char := escape :: "[0m".toList

/-- Styles that hold after a text, when `active` held before it. -/
def stylesAfter (active : List (List Char)) (line : List Char) : List (List Char) :=
  (codes 0 line).foldl (fun active code => if code = reset then [] else active ++ [code]) active

/-- Lines of one text, each with the styles of its own: what a line leaves on is ended there and
begins again in the next one. -/
def perLine (active : List (List Char)) : List (List Char) → List (List Char)
  | [] => []
  | line :: lines =>
    let after := stylesAfter active line
    (active.flatten ++ line ++ if after.isEmpty then [] else reset) :: perLine after lines

def between (lo hi : Nat) (c : Char) : Bool := lo ≤ c.toNat && c.toNat ≤ hi

def sequenceLength? (lowestFinal : Nat) (cs : List Char) : Option Nat :=
  let signs := cs.takeWhile (between 0x20 0x2F)
  match cs.drop signs.length with
  | c :: _ => if between lowestFinal 0x7E c then some (signs.length + 1) else none
  | [] => none

def stringLength? : List Char → Option Nat
  | [] => none
  | '\x07' :: _ => some 1
  | '\x1b' :: '\\' :: _ => some 2
  | _ :: cs => (stringLength? cs).map (1 + ·)

def commandLength? : List Char → Option Nat
  | '\x1b' :: '[' :: cs =>
    let parameters := cs.takeWhile (between 0x30 0x3F)
    (sequenceLength? 0x40 (cs.drop parameters.length)).map (2 + parameters.length + ·)
  | '\x1b' :: c :: cs =>
    if "]PX^_".toList.contains c then (stringLength? cs).map (2 + ·)
    else (sequenceLength? 0x30 (c :: cs)).map (1 + ·)
  | _ => none

/-- What a terminal shows of a text. It knows more commands than styles, each after the escape, and
the characters of none of them take a column. -/
def shown (cs : List Char) : List Char := without commandLength? 0 cs

end Timesheet.Text.Escape
