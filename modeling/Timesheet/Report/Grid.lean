import Timesheet.Text.Escape
import Timesheet.Text.Keys
import Timesheet.Text.Width

/-!
Tables of text inside box lines. Columns are as wide as their widest line, counted in the columns of
a terminal. A line break in a cell starts another line of its row.
-/
namespace Timesheet

structure Grid where
  header : List String
  rows : List (List String)
deriving DecidableEq

namespace Grid

structure Rule where
  left : Char
  line : Char
  crossing : Char
  right : Char

def topRule : Rule := ⟨'┏', '━', '┯', '┓'⟩
def headerRule : Rule := ⟨'┣', '━', '┿', '┫'⟩
def innerRule : Rule := ⟨'┠', '─', '┼', '┨'⟩
def bottomRule : Rule := ⟨'┗', '━', '┷', '┛'⟩

/-- A rule over columns of these widths; a column has a blank on each side of its text. -/
def Rule.draw (r : Rule) (widths : List Nat) : List Char :=
  let segments := widths.map fun w => List.replicate (w + 2) r.line
  r.left :: Text.joinOnChar r.crossing segments ++ [r.right]

def cellLines (cell : String) : List (List Char) :=
  Text.Escape.perLine [] (Text.splitOnChar '\n' cell.toList)

/-- Columns of a line, of which a terminal takes its commands away. -/
def lineWidth (line : List Char) : Nat := Text.textWidth (Text.Escape.shown line)

def cellWidth (cell : String) : Nat := ((cellLines cell).map lineWidth).foldl max 0

def widths (g : Grid) : List Nat :=
  g.rows.foldl (fun ws row => List.zipWith max ws (row.map cellWidth)) (g.header.map cellWidth)

def pad (width : Nat) (line : List Char) : List Char :=
  ' ' :: line ++ List.replicate (width - lineWidth line + 1) ' '

def rowLines (widths : List Nat) (row : List String) : List (List Char) :=
  let cells := row.map cellLines
  let height := (cells.map List.length).foldl max 0
  (List.range height).map fun n =>
    let texts := List.zipWith (fun w cell => pad w (cell[n]?.getD [])) widths cells
    '┃' :: Text.joinOnChar '│' texts ++ ['┃']

def lines (g : Grid) : List (List Char) :=
  let ws := g.widths
  let body := (g.rows.map (rowLines ws)).intersperse [innerRule.draw ws]
  [topRule.draw ws] ++ rowLines ws g.header ++ [headerRule.draw ws] ++ body.flatten ++
    [bottomRule.draw ws]

def render (g : Grid) : String := String.ofList (Text.joinOnChar '\n' g.lines)

end Grid

end Timesheet
