/-!
Writing texts. A text is put into the first quotes in which it can stand without escapes: double,
single, three double, three single ones. Where no quotes allow that, it has escapes in double
quotes, three of them when it has several lines.
-/
namespace Timesheet.Toml

/-- Control characters that only an escape can write; a tab or a line end is none of them. -/
def isUnwritable (c : Char) : Bool :=
  (c.toNat < 0x20 && c != '\t' && c != '\n') || c == '\x7f'

def longestRun (q : Char) (cs : List Char) : Nat :=
  (cs.foldl (fun (best, run) c => if c = q then (max best (run + 1), run + 1) else (best, 0))
    (0, 0)).1

def upperHex (n : Nat) : Char := "0123456789ABCDEF".toList[n]?.getD '0'

/-- The escape of a character that is neither a quote nor a line end. -/
def escapeOf (c : Char) : List Char :=
  if c = '\x08' then ['\\', 'b']
  else if c = '\t' then ['\\', 't']
  else if c = '\x0c' then ['\\', 'f']
  else if c = '\r' then ['\\', 'r']
  else if c = '\\' then ['\\', '\\']
  else if isUnwritable c then
    ['\\', 'u', '0', '0', upperHex (c.toNat / 16), upperHex (c.toNat % 16)]
  else [c]

def escapeLine (cs : List Char) : List Char :=
  cs.flatMap fun c =>
    if c = '"' then ['\\', '"'] else if c = '\n' then ['\\', 'n'] else escapeOf c

/-- A text between three double quotes, of which the last `run` characters were quotes: every third
quote in a row has an escape. -/
def escapeLines (run : Nat) : List Char → List Char
  | [] => []
  | c :: cs =>
    if c = '"' then
      if run < 2 then '"' :: escapeLines (run + 1) cs else '\\' :: '"' :: escapeLines 0 cs
    else if c = '\n' then '\n' :: escapeLines 0 cs
    else escapeOf c ++ escapeLines 0 cs

/-- A line end after the opening quotes of a text that has several lines. -/
def opening (cs : List Char) : List Char := if cs.contains '\n' then ['\n'] else []

def writeText (s : String) : List Char :=
  let cs := s.toList
  let bare := !cs.any isUnwritable
  let oneLine := !cs.contains '\n'
  let three (q : Char) : List Char := [q, q, q]
  let backslash := cs.contains '\\'
  if bare && !backslash && oneLine && !cs.contains '"' then '"' :: escapeLine cs ++ ['"']
  else if bare && oneLine && !cs.contains '\'' then '\'' :: cs ++ ['\'']
  else if bare && !backslash && longestRun '"' cs ≤ 2 then
    three '"' ++ opening cs ++ escapeLines 0 cs ++ three '"'
  else if bare && longestRun '\'' cs ≤ 2 then three '\'' ++ opening cs ++ cs ++ three '\''
  else if oneLine then '"' :: escapeLine cs ++ ['"']
  else three '"' ++ opening cs ++ escapeLines 0 cs ++ three '"'

end Timesheet.Toml
