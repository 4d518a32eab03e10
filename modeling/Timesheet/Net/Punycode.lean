/-!
Names beyond ASCII in ASCII: the characters of ASCII come first, then numbers that tell which
characters are put in and where.
-/
namespace Timesheet.Net.Punycode

/-- Digits of base 36, letters first. -/
def digit? (c : Char) : Option Nat :=
  if 'a' ≤ c ∧ c ≤ 'z' then some (c.toNat - 'a'.toNat)
  else if c.isDigit then some (c.toNat - '0'.toNat + 26)
  else none

/-- A digit at the place `k` below this threshold ends its number. -/
def threshold (k bias : Nat) : Nat :=
  if k ≤ bias then 1 else if bias + 26 ≤ k then 26 else k - bias

/-- Divides until the number is small, and counts the divisions in steps of the base. -/
def shrink (n k : Nat) : Nat × Nat :=
  if h : 455 < n then shrink (n / 35) (k + 36) else (n, k)
termination_by n
decreasing_by exact Nat.div_lt_self (by omega) (by omega)

def adapt (number count : Nat) (first : Bool) : Nat :=
  let n := if first then number / 700 else number / 2
  let (n, k) := shrink (n + n / count) 0
  k + 36 * n / (n + 38)

/-- Reads one number, added to `sum`, and gives the rest. -/
def number? (bias : Nat) : (place weight sum : Nat) → List Char → Option (Nat × List Char)
  | _, _, _, [] => none
  | place, weight, sum, c :: cs =>
    match digit? c with
    | none => none
    | some d =>
      let t := threshold place bias
      if d < t then some (sum + d * weight, cs)
      else number? bias (place + 36) (weight * (36 - t)) (sum + d * weight) cs

theorem length_of_number? {bias place weight sum : Nat} {cs rest : List Char} {n : Nat}
    (h : number? bias place weight sum cs = some (n, rest)) : rest.length < cs.length := by
  induction cs generalizing place weight sum with
  | nil => simp [number?] at h
  | cons c cs ih =>
    rw [number?] at h
    split at h
    · simp at h
    · simp only at h
      split at h
      · simp only [Option.some.injEq, Prod.mk.injEq] at h
        simp [h.2]
      · exact Nat.lt_succ_of_lt (ih h)

def lastCode : Nat := 0x10FFFF

/-- Puts in the characters that the numbers tell, the lowest first. `code` is the character before,
and `place` the one after its place; numbers count on from there, going round the text. -/
def insertAll (bias code place : Nat) (out : List Char) (cs : List Char) : Option (List Char) :=
  if cs.isEmpty then some out
  else
    match _h : number? bias 36 1 place cs with
    | none => none
    | some (n, rest) =>
      let count := out.length + 1
      let next := code + n / count
      if next > lastCode ∨ (0xD800 ≤ next ∧ next ≤ 0xDFFF) then none
      else
        insertAll (adapt (n - place) count (place = 0)) next (n % count + 1)
          (out.insertIdx (n % count) (Char.ofNat next)) rest
termination_by cs.length
decreasing_by exact length_of_number? _h

def splitLastHyphen (cs : List Char) : List Char × List Char :=
  let tail := (cs.reverse.takeWhile (· ≠ '-')).reverse
  (cs.take (cs.length - tail.length - 1), tail)

def decode? (cs : List Char) : Option (List Char) :=
  let (basic, numbers) := splitLastHyphen cs
  insertAll 72 0x80 0 basic numbers

end Timesheet.Net.Punycode
