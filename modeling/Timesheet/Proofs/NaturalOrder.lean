import Timesheet.Proofs.DigitRuns

/-!
Natural order is a linear one. Reading two texts side by side compares what they look like as lists
of numbers and small letters, and texts that look the same are told apart by code point. So a list
of keys has one sorted form, in whatever order the keys were found.
-/
namespace Timesheet.Text

section Lists
variable {α β : Type} {cmp : α → α → Ordering}

theorem lexCompare_eq_compareLex : lexCompare cmp = List.compareLex cmp := by
  funext as bs
  induction as generalizing bs with
  | nil => cases bs <;> rfl
  | cons a as ih =>
      cases bs with
      | nil => rfl
      | cons b bs => rw [lexCompare, ih, List.compareLex_cons_cons]

instance [Std.TransCmp cmp] : Std.TransCmp (lexCompare cmp) :=
  lexCompare_eq_compareLex ▸ inferInstance

instance [Std.LawfulEqCmp cmp] : Std.LawfulEqCmp (lexCompare cmp) :=
  lexCompare_eq_compareLex ▸ inferInstance

theorem transCmp_on [Std.TransCmp cmp] (f : β → α) : Std.TransCmp fun a b => cmp (f a) (f b) where
  eq_swap := Std.OrientedCmp.eq_swap
  isLE_trans := Std.TransCmp.isLE_trans

theorem lexCompare_append [Std.ReflCmp cmp] (front as bs : List α) :
    lexCompare cmp (front ++ as) (front ++ bs) = lexCompare cmp as bs := by
  induction front with
  | nil => rfl
  | cons a front ih =>
      have hsame : cmp a a = .eq := Std.ReflCmp.compare_self
      rw [List.cons_append, List.cons_append, lexCompare, hsame, Ordering.eq_then, ih]

theorem then_of_ne_eq {o o' : Ordering} (h : o ≠ .eq) : o.then o' = o := by
  cases o with
  | eq => exact absurd rfl h
  | lt | gt => rfl

end Lists

instance : Std.TransCmp compareCode := inferInstanceAs (Std.TransCmp (compareOn Char.toNat))

instance : Std.LawfulEqCmp compareCode where
  eq_of_compare h := Char.toNat_inj.mp (Nat.compare_eq_eq.mp h)

instance : Std.TransCmp compareText := inferInstanceAs (Std.TransCmp (lexCompare compareCode))

instance : Std.LawfulEqCmp compareText :=
  inferInstanceAs (Std.LawfulEqCmp (lexCompare compareCode))

/-- The text begins, and not with a digit. -/
def LeadsOff (form : List Char) : Prop := ∃ c cs, form = c :: cs ∧ c.isDigit = false

theorem isDigit_ofNat {n : Nat} (h : 57 < n) : (Char.ofNat n).isDigit = false := by
  have hcode : (Char.ofNat n).toNat = n ∨ (Char.ofNat n).toNat = 0 := by
    by_cases hvalid : n.isValidChar
    · exact .inl (congrArg Char.toNat (dif_pos hvalid))
    · exact .inr (congrArg Char.toNat (dif_neg hvalid))
  rw [Bool.eq_false_iff, ne_eq, Char.isDigit_iff_toNat]
  show ¬ (48 ≤ (Char.ofNat n).toNat ∧ (Char.ofNat n).toNat ≤ 57)
  omega

theorem lowerSpans_above : ∀ s ∈ lowerSpans, 57 < s.image := by decide +kernel

theorem lowerExpansions_above : ∀ e ∈ lowerExpansions, ∃ n ∈ e.2.head?, 57 < n := by
  decide +kernel

theorem image?_above {s : Span} {n m : Nat} (hs : 57 < s.image) (h : s.image? n = some m) :
    57 < m := by
  unfold Span.image? at h
  split at h
  · cases h
    omega
  · cases h

theorem lowerForm_of_digit {c : Char} (h : c.isDigit = true) : lowerForm c = [c] := by
  have hcode := digit_bounds h
  have hcapital : ¬ (c.val ≥ 'A'.val ∧ c.val ≤ 'Z'.val) := by
    rintro ⟨hletter, -⟩
    have : 65 ≤ c.toNat := hletter
    omega
  have hkept : c.toLower = c := dif_neg hcapital
  rw [lowerForm, if_pos (by omega), hkept]

theorem lowerForm_leadsOff {c : Char} (h : c.isDigit = false) : LeadsOff (lowerForm c) := by
  unfold lowerForm
  split
  · next hascii =>
      have hsmall : ∀ n < 0x80, (Char.ofNat n).isDigit = false →
          (Char.ofNat n).toLower.isDigit = false := by decide
      have hc := hsmall c.toNat hascii
      rw [Char.ofNat_toNat] at hc
      exact ⟨c.toLower, [], rfl, hc h⟩
  · unfold caseForm
    split
    · next form heq =>
        obtain ⟨n, hn, hlarge⟩ := lowerExpansions_above _ (List.mem_of_find?_eq_some heq)
        cases form with
        | nil => cases hn
        | cons m rest =>
            cases hn
            exact ⟨Char.ofNat n, rest.map Char.ofNat, rfl, isDigit_ofNat hlarge⟩
    · split
      · next n heq =>
          obtain ⟨s, hs, himage⟩ := List.exists_of_findSome?_eq_some heq
          have hlarge : 57 < n := image?_above (lowerSpans_above s hs) himage
          exact ⟨Char.ofNat n, [], rfl, isDigit_ofNat hlarge⟩
      · exact ⟨c, [], rfl, h⟩

theorem sameForm_isDigit {c d : Char} (h : lowerForm c = lowerForm d) :
    c.isDigit = d.isDigit := by
  have hlead : ∀ c, ∃ x xs, lowerForm c = x :: xs ∧ x.isDigit = c.isDigit := by
    intro c
    cases hc : c.isDigit with
    | true => exact ⟨c, [], lowerForm_of_digit hc, hc⟩
    | false => exact lowerForm_leadsOff hc
  obtain ⟨x, xs, hx, hxdigit⟩ := hlead c
  obtain ⟨y, ys, hy, hydigit⟩ := hlead d
  rw [hx, hy] at h
  obtain ⟨rfl, -⟩ := List.cons.inj h
  rw [← hxdigit, hydigit]

theorem compareText_digit {c : Char} {form : List Char} (hc : c.isDigit = true)
    (hform : LeadsOff form) :
    compareText [c] form ≠ .eq ∧ compareText [c] form = compareText ['0'] form := by
  obtain ⟨x, xs, rfl, hx⟩ := hform
  have hcode := digit_bounds hc
  have hother : ¬ (48 ≤ x.toNat ∧ x.toNat ≤ 57) := fun h =>
    absurd (Char.isDigit_iff_toNat.mpr h) (by simp [hx])
  have hside : compareCode c x ≠ .eq ∧ compareCode c x = compareCode '0' x := by
    show compare c.toNat x.toNat ≠ .eq ∧ compare c.toNat x.toNat = compare 48 x.toNat
    rcases Nat.lt_or_ge x.toNat 48 with hlow | hhigh
    · rw [Nat.compare_eq_gt.mpr (by omega), Nat.compare_eq_gt.mpr hlow]
      exact ⟨nofun, rfl⟩
    · rw [Nat.compare_eq_lt.mpr (by omega), Nat.compare_eq_lt.mpr (by omega)]
      exact ⟨nofun, rfl⟩
  obtain ⟨hne, hsame⟩ := hside
  have hfirst : ∀ d, compareCode d x ≠ .eq → compareText [d] (x :: xs) = compareCode d x :=
    fun d hd => then_of_ne_eq hd
  rw [hfirst c hne, hfirst '0' (hsame ▸ hne)]
  exact ⟨hne, hsame⟩

/-- What natural order sees of a text: the number that a run of digits denotes, or the small form of
another character. -/
inductive Part where
  | number (value : Nat)
  | letter (form : List Char)
deriving DecidableEq

def parts : List Char → List Part
  | [] => []
  | c :: cs =>
    if c.isDigit then
      .number (runValue (c :: cs.takeWhile Char.isDigit)) :: parts (cs.dropWhile Char.isDigit)
    else .letter (lowerForm c) :: parts cs
termination_by cs => cs.length
decreasing_by
  · have := (cs.dropWhile_sublist Char.isDigit).length_le
    simp only [List.length_cons]
    omega
  · simp

namespace Part

/-- Among the letters, a number stands where the character `0` stands. -/
def form : Part → List Char
  | number _ => ['0']
  | letter form => form

def value : Part → Nat
  | number value => value
  | letter _ => 0

def compare : Part → Part → Ordering :=
  compareLex (fun t u => compareText t.form u.form) (fun t u => Ord.compare t.value u.value)

instance : Std.TransCmp compare :=
  have : Std.TransCmp fun t u => compareText (form t) (form u) := transCmp_on form
  have : Std.TransCmp fun t u => Ord.compare (value t) (value u) := transCmp_on value
  inferInstanceAs (Std.TransCmp (compareLex _ _))

theorem compare_numbers (m n : Nat) : compare (.number m) (.number n) = Ord.compare m n := rfl

theorem compare_letters (f g : List Char) : compare (.letter f) (.letter g) = compareText f g :=
  Ordering.then_eq

theorem compare_number_letter {c : Char} {f : List Char} (n : Nat) (hc : c.isDigit = true)
    (hf : LeadsOff f) : compare (.number n) (.letter f) = compareText [c] f := by
  obtain ⟨hne, hsame⟩ := compareText_digit hc hf
  show (compareText ['0'] f).then _ = _
  rw [← hsame, then_of_ne_eq hne]

theorem compare_letter_number {c : Char} {f : List Char} (n : Nat) (hc : c.isDigit = true)
    (hf : LeadsOff f) : compare (.letter f) (.number n) = compareText f [c] := by
  have hswap : compare (.letter f) (.number n) = (compare (.number n) (.letter f)).swap :=
    Std.OrientedCmp.eq_swap
  rw [hswap, compare_number_letter n hc hf, ← Std.OrientedCmp.eq_swap]

end Part

theorem allDigits_run {c : Char} {cs : List Char} (h : c.isDigit = true) :
    AllDigits (c :: cs.takeWhile Char.isDigit) :=
  List.forall_mem_cons.mpr ⟨h, List.all_eq_true.mp List.all_takeWhile⟩

/-- Where a digit meets another character, the two texts go on at different paces, but then the
comparison is over. -/
theorem compareParts_eq (as bs : List Char) :
    compareParts as bs = lexCompare Part.compare (parts as) (parts bs) := by
  fun_induction compareParts as bs with
  | case1 => rw [parts, lexCompare]
  | case2 d ds =>
      rw [parts]
      unfold parts
      split <;> rfl
  | case3 c cs =>
      unfold parts
      split <;> rfl
  | case4 c cs d ds hdigits ih =>
      obtain ⟨hc, hd⟩ := Bool.and_eq_true_iff.mp hdigits
      rw [parts, if_pos hc, parts, if_pos hd, lexCompare, Part.compare_numbers,
        compareRuns_eq (allDigits_run hc) (allDigits_run hd), ih]
  | case5 c cs d ds hdigits ih =>
      rw [parts, parts]
      rcases hc : c.isDigit <;> rcases hd : d.isDigit
      · simp only [Bool.false_eq_true, if_false, lexCompare, Part.compare_letters, ih]
      · have hform := lowerForm_leadsOff hc
        have hne : compareText (lowerForm c) [d] ≠ .eq := fun heq =>
          (compareText_digit hd hform).1 (Std.OrientedCmp.eq_symm heq)
        simp only [Bool.false_eq_true, if_false, if_true, lexCompare, lowerForm_of_digit hd,
          Part.compare_letter_number _ hd hform]
        rw [then_of_ne_eq hne, then_of_ne_eq hne]
      · have hform := lowerForm_leadsOff hd
        have hne : compareText [c] (lowerForm d) ≠ .eq := (compareText_digit hc hform).1
        simp only [Bool.false_eq_true, if_false, if_true, lexCompare, lowerForm_of_digit hc,
          Part.compare_number_letter _ hc hform]
        rw [then_of_ne_eq hne, then_of_ne_eq hne]
      · simp [hc, hd] at hdigits

theorem compareParts_eq_eq_iff {as bs : List Char} :
    compareParts as bs = .eq ↔ parts as = parts bs := by
  constructor
  · intro h
    fun_induction compareParts as bs with
    | case1 => rfl
    | case2 | case3 => cases h
    | case4 c cs d ds hdigits ih =>
        obtain ⟨hc, hd⟩ := Bool.and_eq_true_iff.mp hdigits
        obtain ⟨hrun, hrest⟩ := Ordering.then_eq_eq.mp h
        rw [compareRuns_eq (allDigits_run hc) (allDigits_run hd)] at hrun
        rw [parts, if_pos hc, parts, if_pos hd, Nat.compare_eq_eq.mp hrun, ih hrest]
    | case5 c cs d ds hdigits ih =>
        obtain ⟨hfirst, hrest⟩ := Ordering.then_eq_eq.mp h
        have hforms : lowerForm c = lowerForm d := Std.LawfulEqCmp.eq_of_compare hfirst
        have hd : ¬ d.isDigit = true := by
          rwa [sameForm_isDigit hforms, Bool.and_self] at hdigits
        have hc : ¬ c.isDigit = true := sameForm_isDigit hforms ▸ hd
        rw [parts, if_neg hc, parts, if_neg hd, hforms, ih hrest]
  · intro h
    rw [compareParts_eq, h]
    exact Std.ReflCmp.compare_self

theorem naturalCompare_eq_compareLex : naturalCompare = compareLex
    (fun a b => lexCompare Part.compare (parts a.toList) (parts b.toList))
    (fun a b => compareText a.toList b.toList) := by
  funext a b
  rw [naturalCompare, compareParts_eq]
  rfl

instance : Std.TransCmp naturalCompare :=
  have : Std.TransCmp fun a b : String =>
      lexCompare Part.compare (parts a.toList) (parts b.toList) :=
    transCmp_on (parts ∘ String.toList)
  have : Std.TransCmp fun a b : String => compareText a.toList b.toList :=
    transCmp_on String.toList
  naturalCompare_eq_compareLex ▸ inferInstance

instance : Std.LawfulEqCmp naturalCompare where
  eq_of_compare h :=
    String.toList_injective (Std.LawfulEqCmp.eq_of_compare (Ordering.then_eq_eq.mp h).2)

theorem naturalCompare_linear (a b c : String) :
    (naturalCompare a b = .eq ↔ a = b) ∧
      naturalCompare b a = (naturalCompare a b).swap ∧
      (naturalCompare a b = .lt → naturalCompare b c = .lt → naturalCompare a c = .lt) :=
  ⟨Std.LawfulEqCmp.compare_eq_iff_eq, Std.OrientedCmp.eq_swap, Std.TransCmp.lt_trans⟩

/-- The first two look the same and are told apart by code point. -/
theorem naturalCompare_linear_zeros :
    naturalCompare "ABC-2" "abc-02" = .lt ∧ naturalCompare "abc-02" "ABC-10" = .lt ∧
      naturalCompare "ABC-2" "ABC-10" = .lt := by
  have hfirst : naturalCompare "ABC-2" "abc-02" = .lt := by decide +kernel
  have hsecond : naturalCompare "abc-02" "ABC-10" = .lt := by decide +kernel
  exact ⟨hfirst, hsecond, (naturalCompare_linear "ABC-2" "abc-02" "ABC-10").2.2 hfirst hsecond⟩

theorem naturalCompare_swap (a b : String) : naturalCompare b a = (naturalCompare a b).swap :=
  Std.OrientedCmp.eq_swap

theorem naturalLE_iff {a b : String} : naturalLE a b = true ↔ (naturalCompare a b).isLE = true := by
  unfold naturalLE
  cases naturalCompare a b <;> decide

theorem naturalSort_perm (keys : List String) : (naturalSort keys).Perm keys :=
  List.mergeSort_perm keys naturalLE

theorem naturalSort_sorted (keys : List String) :
    (naturalSort keys).Pairwise fun a b => naturalCompare a b ≠ .gt := by
  have htrans : ∀ a b c, naturalLE a b = true → naturalLE b c = true → naturalLE a c = true := by
    intro a b c hab hbc
    exact naturalLE_iff.mpr
      (Std.TransCmp.isLE_trans (naturalLE_iff.mp hab) (naturalLE_iff.mp hbc))
  have htotal : ∀ a b, (naturalLE a b || naturalLE b a) = true := by
    intro a b
    unfold naturalLE
    rw [naturalCompare_swap a b]
    cases naturalCompare a b <;> decide
  exact (List.pairwise_mergeSort htrans htotal keys).imp fun h => by simpa [naturalLE] using h

/-- Different texts never tie, so keys have one sorted form. -/
theorem sorted_unique {keys others : List String} (h : keys.Perm others)
    (hkeys : keys.Pairwise fun a b => naturalCompare a b ≠ .gt)
    (hothers : others.Pairwise fun a b => naturalCompare a b ≠ .gt) : keys = others := by
  refine h.eq_of_pairwise ?_ hkeys hothers
  intro a b _ _ hab hba
  rw [naturalCompare_swap a b] at hba
  cases hcmp : naturalCompare a b with
  | eq => exact Std.LawfulEqCmp.eq_of_compare hcmp
  | lt => exact absurd (by rw [hcmp]; rfl) hba
  | gt => exact absurd hcmp hab

theorem naturalSort_eq_of_perm {keys others : List String} (h : keys.Perm others) :
    naturalSort keys = naturalSort others :=
  sorted_unique ((naturalSort_perm keys).trans (h.trans (naturalSort_perm others).symm))
    (naturalSort_sorted keys) (naturalSort_sorted others)

end Timesheet.Text
