import Timesheet.Proofs.NaturalOrder

/-!
Runs of digits within texts. A run is one part wherever it stands, so where two runs face each other
behind beginnings that look the same, their numbers decide.
-/
namespace Timesheet.Text

theorem run_ends {c : Char} (hc : c.isDigit = false) (front back : List Char) :
    (front ++ c :: back).takeWhile Char.isDigit = front.takeWhile Char.isDigit ∧
      (front ++ c :: back).dropWhile Char.isDigit = front.dropWhile Char.isDigit ++ c :: back := by
  induction front with
  | nil => simp [hc]
  | cons d front ih =>
      cases hd : d.isDigit with
      | true => simp [hd, ih]
      | false => simp [hd]

theorem parts_letter {c : Char} (hc : c.isDigit = false) (front back : List Char) :
    parts (front ++ c :: back) = parts front ++ .letter (lowerForm c) :: parts back := by
  fun_induction parts front with
  | case1 => rw [List.nil_append, parts, if_neg (by simp [hc]), List.nil_append]
  | case2 d front hd ih =>
      obtain ⟨htake, hdrop⟩ := run_ends hc front back
      rw [List.cons_append, parts, if_pos hd, htake, hdrop, ih, List.cons_append]
  | case3 d front hd ih => rw [List.cons_append, parts, if_neg hd, ih, List.cons_append]

theorem parts_append {front : List Char} (h : ∀ c ∈ front.getLast?, c.isDigit = false)
    (back : List Char) : parts (front ++ back) = parts front ++ parts back := by
  rcases List.eq_nil_or_concat front with rfl | ⟨init, c, rfl⟩
  · rw [parts, List.nil_append, List.nil_append]
  · have hc : c.isDigit = false := h c (by simp)
    rw [List.concat_eq_append, List.append_assoc, List.singleton_append, parts_letter hc,
      parts_letter hc, parts, List.append_assoc, List.singleton_append]

theorem parts_run {run rest : List Char} (hne : run ≠ []) (hrun : AllDigits run)
    (hrest : ∀ c ∈ rest.head?, c.isDigit = false) :
    parts (run ++ rest) = .number (runValue run) :: parts rest := by
  cases run with
  | nil => exact absurd rfl hne
  | cons c cs =>
      obtain ⟨hc, hcs⟩ := List.forall_mem_cons.mp hrun
      have hstop : rest.takeWhile Char.isDigit = [] ∧ rest.dropWhile Char.isDigit = rest := by
        cases rest with
        | nil => exact ⟨rfl, rfl⟩
        | cons d ds => simp [hrest d rfl]
      rw [List.cons_append, parts, if_pos hc, List.takeWhile_append_of_pos hcs,
        List.dropWhile_append_of_pos hcs, hstop.1, hstop.2, List.append_nil]

theorem sameForms_split {as bs : List Char} (h : as.map lowerForm = bs.map lowerForm) :
    as.takeWhile Char.isDigit = bs.takeWhile Char.isDigit ∧
      (as.dropWhile Char.isDigit).map lowerForm = (bs.dropWhile Char.isDigit).map lowerForm := by
  induction as generalizing bs with
  | nil =>
      cases bs with
      | nil => exact ⟨rfl, rfl⟩
      | cons b bs => cases h
  | cons a as ih =>
      obtain ⟨b, bs, rfl, hforms, hrest⟩ := List.map_eq_cons_iff.mp h.symm
      have hdigit : b.isDigit = a.isDigit := sameForm_isDigit hforms
      cases ha : a.isDigit with
      | false => simp [ha, hdigit, hforms, hrest]
      | true =>
          rw [ha] at hdigit
          rw [lowerForm_of_digit ha, lowerForm_of_digit hdigit] at hforms
          cases hforms
          simpa [ha] using ih hrest.symm

theorem parts_congr {as bs : List Char} (h : as.map lowerForm = bs.map lowerForm) :
    parts as = parts bs := by
  fun_induction parts as generalizing bs with
  | case1 =>
      cases bs with
      | nil => rw [parts]
      | cons b bs => cases h
  | case2 c cs hc ih =>
      obtain ⟨d, ds, rfl, hforms, hrest⟩ := List.map_eq_cons_iff.mp h.symm
      obtain ⟨htake, hdrop⟩ := sameForms_split hrest.symm
      have hd : d.isDigit = true := (sameForm_isDigit hforms).trans hc
      rw [lowerForm_of_digit hc, lowerForm_of_digit hd] at hforms
      cases hforms
      rw [ih hdrop, htake, parts, if_pos hc]
  | case3 c cs hc ih =>
      obtain ⟨d, ds, rfl, hforms, hrest⟩ := List.map_eq_cons_iff.mp h.symm
      have hd : ¬ d.isDigit = true := sameForm_isDigit hforms ▸ hc
      rw [ih hrest.symm, parts, if_neg hd, hforms]

/-- A text of digits, at least one. -/
structure IsRun (s : String) : Prop where
  nonempty : s.toList ≠ []
  digits : AllDigits s.toList

/-- The number that a text of digits denotes. -/
def numberOf (s : String) : Nat := runValue s.toList

/-- Two runs of digits behind beginnings that differ in case only, each up to where it ends. -/
structure Facing (p m s q n t : String) : Prop where
  forms : p.toList.map lowerForm = q.toList.map lowerForm
  left : IsRun m
  right : IsRun n
  before : ∀ c ∈ p.toList.getLast?, c.isDigit = false
  before' : ∀ c ∈ q.toList.getLast?, c.isDigit = false
  behind : ∀ c ∈ s.toList.head?, c.isDigit = false
  behind' : ∀ c ∈ t.toList.head?, c.isDigit = false

theorem compareParts_facing {p m s q n t : String} (h : Facing p m s q n t) :
    compareParts (p ++ m ++ s).toList (q ++ n ++ t).toList =
      (compare (numberOf m) (numberOf n)).then (compareParts s.toList t.toList) := by
  simp only [String.toList_append, List.append_assoc]
  rw [compareParts_eq, parts_append h.before, parts_append h.before',
    parts_run h.left.nonempty h.left.digits h.behind,
    parts_run h.right.nonempty h.right.digits h.behind', parts_congr h.forms, lexCompare_append,
    lexCompare, Part.compare_numbers, ← compareParts_eq]
  rfl

/-- Where two runs of digits face each other, the numbers tell, whatever comes behind them. If the
numbers are equal, what comes behind tells, unless it looks the same too. -/
theorem facing_runs_compare_by_value {p m s q n t : String} (h : Facing p m s q n t) :
    (numberOf m ≠ numberOf n →
      naturalCompare (p ++ m ++ s) (q ++ n ++ t) = compare (numberOf m) (numberOf n)) ∧
    (numberOf m = numberOf n → parts s.toList ≠ parts t.toList →
      naturalCompare (p ++ m ++ s) (q ++ n ++ t) = naturalCompare s t) := by
  constructor
  · intro hne
    have hdiffer : compare (numberOf m) (numberOf n) ≠ .eq := fun heq =>
      hne (Nat.compare_eq_eq.mp heq)
    rw [naturalCompare, compareParts_facing h, then_of_ne_eq hdiffer, then_of_ne_eq hdiffer]
  · intro heq htails
    have hsame : compare (numberOf m) (numberOf n) = .eq := Nat.compare_eq_eq.mpr heq
    have hdiffer : compareParts s.toList t.toList ≠ .eq := fun htie =>
      htails (compareParts_eq_eq_iff.mp htie)
    rw [naturalCompare, naturalCompare, compareParts_facing h, hsame, Ordering.eq_then,
      then_of_ne_eq hdiffer, then_of_ne_eq hdiffer]

/-- A number behind another one, and zeros that do not count. -/
theorem facing_runs_compare_by_value_zeros :
    naturalCompare "A1-007" "a1-10" = .lt ∧
      naturalCompare "A1-007z" "a1-7B" = naturalCompare "z" "B" := by
  have hshort : Facing "A1-" "007" "" "a1-" "10" "" :=
    ⟨by decide, ⟨by decide, by decide⟩, ⟨by decide, by decide⟩, by simp, by simp, by simp, by simp⟩
  have hlong : Facing "A1-" "007" "z" "a1-" "7" "B" :=
    ⟨by decide, ⟨by decide, by decide⟩, ⟨by decide, by decide⟩, by simp, by simp, by simp, by simp⟩
  exact ⟨(facing_runs_compare_by_value hshort).1 (by decide),
    (facing_runs_compare_by_value hlong).2 (by decide) (by decide +kernel)⟩

end Timesheet.Text
