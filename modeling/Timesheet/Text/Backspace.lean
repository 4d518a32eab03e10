import Timesheet.Text.Cluster

/-!
Backspaces in a typed line. Each takes back the cluster before it.
-/
namespace Timesheet.Text

def byteCount : List Char → Nat
  | [] => 0
  | c :: cs => c.utf8Size + byteCount cs

def dropBytes : Nat → List Char → List Char
  | 0, cs => cs
  | _ + 1, [] => []
  | n + 1, c :: cs => dropBytes (n + 1 - c.utf8Size) cs

/-- The text so far, in reverse, and the sizes of its clusters, the last one first. -/
structure Draft where
  reversed : List Char
  /-- Each is kept in a byte. -/
  sizes : List Nat

namespace Draft

def backspace (d : Draft) : Draft :=
  match d.sizes with
  | [] => d
  | size :: sizes => ⟨dropBytes size d.reversed, sizes⟩

def type (d : Draft) (cluster : List Char) : Draft :=
  if cluster = ['\x08'] then d.backspace
  else ⟨cluster.reverse ++ d.reversed, byteCount cluster % 256 :: d.sizes⟩

end Draft

def edited (line : List Char) : List Char :=
  ((clusters line).foldl Draft.type ⟨[], []⟩).reversed.reverse

end Timesheet.Text
