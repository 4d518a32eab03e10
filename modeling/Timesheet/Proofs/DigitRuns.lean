import Mathlib.Algebra.Group.Nat.Defs
import Timesheet.Text.Natural

/-!
Runs of digits. They are compared as texts, and that is how the numbers compare which they denote,
however long the runs are and whatever zeros they begin with.
-/
namespace Timesheet.Text

/-- The number that a run of digits denotes. -/
def runValue (run : List Char) : Nat := Nat.ofDigitChars 10 run 0

def AllDigits (run : List Char) : Prop := ∀ c ∈ run, c.isDigit = true

instance (run : List Char) : Decidable (AllDigits run) :=
  decidable_of_iff (run.all Char.isDigit = true) List.all_eq_true

theorem digit_bounds {c : Char} (h : c.isDigit = true) : 48 ≤ c.toNat ∧ c.toNat ≤ 57 :=
  Char.isDigit_iff_toNat.mp h

theorem runValue_cons {c : Char} {cs : List Char} :
    runValue (c :: cs) = 10 ^ cs.length * (c.toNat - 48) + runValue cs := by
  rw [runValue, Nat.ofDigitChars_cons, Nat.ofDigitChars_eq_ofDigitChars_zero]
  simp [runValue]

theorem runValue_lt {run : List Char} (h : AllDigits run) : runValue run < 10 ^ run.length := by
  induction run with
  | nil => decide
  | cons c cs ih =>
      obtain ⟨hc, hcs⟩ := List.forall_mem_cons.mp h
      have hlow := ih hcs
      have hdigit : c.toNat - 48 ≤ 9 := by
        have := digit_bounds hc
        omega
      have hhigh : 10 ^ cs.length * (c.toNat - 48) ≤ 10 ^ cs.length * 9 :=
        Nat.mul_le_mul_left _ hdigit
      rw [runValue_cons, List.length_cons, Nat.pow_succ]
      omega

theorem AllDigits.significant {run : List Char} (h : AllDigits run) :
    AllDigits (significant run) :=
  fun c hc => h c ((List.dropWhile_sublist _).subset hc)

theorem runValue_significant (run : List Char) : runValue (significant run) = runValue run := by
  induction run with
  | nil => rfl
  | cons c cs ih =>
      unfold significant at ih ⊢
      by_cases hzero : c = '0'
      · subst hzero
        rw [List.dropWhile_cons_of_pos (by decide), ih, runValue_cons]
        simp
      · rw [List.dropWhile_cons_of_neg (by simpa using hzero)]

theorem pow_le_runValue {run : List Char} (h : AllDigits run) (hne : significant run ≠ []) :
    10 ^ (significant run).length ≤ 10 * runValue run := by
  have hhead := List.head?_dropWhile_not (· == '0') run
  have hdigits := h.significant
  rw [← runValue_significant]
  unfold Text.significant at *
  rcases hrest : run.dropWhile (· == '0') with _ | ⟨c, cs⟩
  · exact absurd hrest hne
  · rw [hrest] at hhead hdigits
    have hzero : c ≠ '0' := by simpa using hhead
    have hcode : c.toNat ≠ 48 := fun heq => hzero (Char.toNat_inj.mp heq)
    have hlow := (digit_bounds (hdigits c List.mem_cons_self)).1
    have hlead : 10 ^ cs.length * 1 ≤ 10 ^ cs.length * (c.toNat - 48) :=
      Nat.mul_le_mul_left _ (by omega)
    rw [runValue_cons, List.length_cons, Nat.pow_succ]
    omega

theorem runValue_lt_of_length_lt {m n : List Char} (hm : AllDigits m) (hn : AllDigits n)
    (h : (significant m).length < (significant n).length) : runValue m < runValue n := by
  have hsmall : runValue m < 10 ^ (significant m).length :=
    runValue_significant m ▸ runValue_lt hm.significant
  have hlarge : 10 ^ (significant n).length ≤ 10 * runValue n :=
    pow_le_runValue hn fun hnil => by simp [hnil] at h
  have hstep : 10 ^ ((significant m).length + 1) ≤ 10 ^ (significant n).length :=
    Nat.pow_le_pow_right (by decide) h
  rw [Nat.pow_succ] at hstep
  omega

theorem compare_add_left (k m n : Nat) : compare (k + m) (k + n) = compare m n := by
  simp only [Nat.compare_eq_ite_lt, Nat.add_lt_add_iff_left]

/-- The leading digits tell; the rest counts only where they agree. -/
theorem compare_leading {base i j x y : Nat} (hx : x < base) (hy : y < base) :
    compare (base * i + x) (base * j + y) = (compare i j).then (compare x y) := by
  have hlead : ∀ {i j x y : Nat}, x < base → i < j → base * i + x < base * j + y := by
    intro i j x y hx hij
    have hstep : base * (i + 1) ≤ base * j := Nat.mul_le_mul_left base hij
    rw [Nat.mul_succ] at hstep
    omega
  rcases Nat.lt_trichotomy i j with hlt | rfl | hgt
  · rw [Nat.compare_eq_lt.mpr hlt, Nat.compare_eq_lt.mpr (hlead hx hlt), Ordering.lt_then]
  · rw [Nat.compare_eq_eq.mpr rfl, Ordering.eq_then, compare_add_left]
  · rw [Nat.compare_eq_gt.mpr hgt, Nat.compare_eq_gt.mpr (hlead hy hgt), Ordering.gt_then]

theorem compareCode_digits {c d : Char} (hc : c.isDigit = true) (hd : d.isDigit = true) :
    compareCode c d = compare (c.toNat - 48) (d.toNat - 48) := by
  obtain ⟨k, hk⟩ := Nat.exists_eq_add_of_le (digit_bounds hc).1
  obtain ⟨l, hl⟩ := Nat.exists_eq_add_of_le (digit_bounds hd).1
  rw [compareCode, hk, hl, compare_add_left, Nat.add_sub_cancel_left, Nat.add_sub_cancel_left]

theorem compareText_digits {m n : List Char} (hm : AllDigits m) (hn : AllDigits n)
    (h : m.length = n.length) : compareText m n = compare (runValue m) (runValue n) := by
  induction m generalizing n with
  | nil =>
      cases n with
      | nil => rfl
      | cons d ds => cases h
  | cons c cs ih =>
      cases n with
      | nil => cases h
      | cons d ds =>
          obtain ⟨hc, hcs⟩ := List.forall_mem_cons.mp hm
          obtain ⟨hd, hds⟩ := List.forall_mem_cons.mp hn
          have hlength : cs.length = ds.length := Nat.succ.inj h
          have hlow : runValue cs < 10 ^ ds.length := hlength ▸ runValue_lt hcs
          calc compareText (c :: cs) (d :: ds)
            _ = (compareCode c d).then (compareText cs ds) := rfl
            _ = (compare (c.toNat - 48) (d.toNat - 48)).then
                  (compare (runValue cs) (runValue ds)) := by
                rw [compareCode_digits hc hd, ih hcs hds hlength]
            _ = compare (runValue (c :: cs)) (runValue (d :: ds)) := by
                rw [runValue_cons, runValue_cons, hlength, compare_leading hlow (runValue_lt hds)]

theorem compareRuns_eq {m n : List Char} (hm : AllDigits m) (hn : AllDigits n) :
    compareRuns m n = compare (runValue m) (runValue n) := by
  unfold compareRuns
  rcases Nat.lt_trichotomy (significant m).length (significant n).length with hlt | heq | hgt
  · rw [Nat.compare_eq_lt.mpr hlt, Nat.compare_eq_lt.mpr (runValue_lt_of_length_lt hm hn hlt)]
    rfl
  · rw [heq, Nat.compare_eq_eq.mpr rfl, compareText_digits hm.significant hn.significant heq,
      runValue_significant, runValue_significant]
    rfl
  · rw [Nat.compare_eq_gt.mpr hgt, Nat.compare_eq_gt.mpr (runValue_lt_of_length_lt hn hm hgt)]
    rfl

example : compareRuns "0099".toList "100".toList = .lt := by decide

end Timesheet.Text
