import Timesheet.Proofs.DateRanges

/-!
Days are numbered without a gap, over the ends of months and of years alike. So dates come in the
order of their numbers, going back some days takes as many from the number, and the days of the week
follow each other for ever.
-/
namespace Timesheet

theorem Month.next?_of_prev? {m n : Month} (h : m.prev? = some n) : n.next? = some m := by
  revert h
  cases m <;> cases n <;> decide

theorem Month.eq_january_of_prev? {m : Month} (h : m.prev? = none) : m = .january := by
  revert h
  cases m <;> decide

theorem Month.eq_december_of_next? {m : Month} (h : m.next? = none) : m = .december := by
  revert h
  cases m <;> decide

namespace Date

/-- Days of the years before, counted so that there are none before the year 1. -/
def daysBeforeYear (year : Int) : Int :=
  365 * (year - 1) + (year - 1) / 4 - (year - 1) / 100 + (year - 1) / 400

theorem dayNumber_eq (d : Date) :
    d.dayNumber = daysBeforeYear d.year + daysBefore d.month d.year + d.day := rfl

theorem daysBeforeYear_succ (year : Int) :
    daysBeforeYear (year + 1) = daysBeforeYear year + daysInYear year := by
  unfold daysBeforeYear daysInYear isLeapYear
  by_cases hleap : (year % 4 == 0 && (year % 100 != 0 || year % 400 == 0)) = true
  · rw [if_pos hleap]
    simp only [Bool.and_eq_true, Bool.or_eq_true, beq_iff_eq, bne_iff_ne] at hleap
    omega
  · rw [if_neg hleap]
    simp only [Bool.and_eq_true, Bool.or_eq_true, beq_iff_eq, bne_iff_ne] at hleap
    omega

theorem daysBefore_of_next? {m n : Month} (h : m.next? = some n) (year : Int) :
    daysBefore n year = daysBefore m year + m.length year := by
  cases m <;> cases h <;> rfl

theorem daysInYear_eq (year : Int) :
    daysInYear year = daysBefore .december year + Month.december.length year := by
  unfold daysInYear
  cases hleap : isLeapYear year <;> simp [daysBefore, Month.all, Month.number, Month.length, hleap]

variable {d n p r x b : Date} {w : Weekday}

theorem not_lt : ¬ d < x ↔ x ≤ d := Int.not_lt

theorem dayNumber_of_next? (h : d.next? = some n) : n.dayNumber = d.dayNumber + 1 := by
  have hlength := d.day_le
  unfold next? at h
  split at h
  · cases h
    simp only [dayNumber_eq]
    omega
  · next hday =>
      split at h
      · next m hm =>
          cases h
          simp only [dayNumber_eq, daysBefore_of_next? hm]
          omega
      · next hlast =>
          have hdecember := Month.eq_december_of_next? hlast
          have hyear := daysInYear_eq d.year
          rw [hdecember] at hday hlength
          split at h
          · cases h
            have hjanuary : daysBefore .january (d.year + 1) = 0 := rfl
            simp only [dayNumber_eq, daysBeforeYear_succ, hdecember, hjanuary]
            omega
          · cases h

theorem dayNumber_of_prev? (h : d.prev? = some p) : p.dayNumber + 1 = d.dayNumber := by
  have hpositive := d.day_pos
  unfold prev? at h
  split at h
  · cases h
    simp only [dayNumber_eq]
    omega
  · next hday =>
      split at h
      · next m hm =>
          cases h
          simp only [dayNumber_eq, daysBefore_of_next? (Month.next?_of_prev? hm)]
          omega
      · next hfirst =>
          have hjanuary := Month.eq_january_of_prev? hfirst
          split at h
          · cases h
            have hyear := daysInYear_eq (d.year - 1)
            have hsucc := daysBeforeYear_succ (d.year - 1)
            have hnone : daysBefore .january d.year = 0 := rfl
            rw [Int.sub_add_cancel] at hsucc
            simp only [dayNumber_eq, hsucc, hjanuary, hnone]
            omega
          · cases h

theorem not_lt_of_prev? (h : d.prev? = none) : ¬ x < d := by
  unfold prev? at h
  split at h
  · cases h
  · next hday =>
      split at h
      · cases h
      · next hfirst =>
          split at h
          · cases h
          · next hyear =>
              have hjanuary := Month.eq_january_of_prev? hfirst
              have hone : Month.january.number = 1 := rfl
              have hx := x.year_ge
              have hmonth := x.month.one_le_number
              have hxday := x.day_pos
              rw [lt_iff, hjanuary]
              omega

theorem dayNumber_lt {d x : Date} (h : d < x) : d.dayNumber < x.dayNumber := by
  obtain ⟨n, hn, hnx⟩ := next?_of_lt h
  have hstep := dayNumber_of_next? hn
  rcases le_iff.mp hnx with rfl | hlt
  · omega
  · have hrest := dayNumber_lt hlt
    omega
termination_by (x.key - d.key).toNat
decreasing_by
  have hcloser := key_lt_of_next? hn
  have hbefore : n.key < x.key := hlt
  omega

theorem lt_iff_dayNumber : d < x ↔ d.dayNumber < x.dayNumber := by
  refine ⟨dayNumber_lt, fun h => ?_⟩
  by_cases hlt : d < x
  · exact hlt
  · rcases le_iff.mp (not_lt.mp hlt) with rfl | hlt'
    · omega
    · have hback := dayNumber_lt hlt'
      omega

theorem le_iff_dayNumber : d ≤ x ↔ d.dayNumber ≤ x.dayNumber := by
  rw [← not_lt, lt_iff_dayNumber, Int.not_lt]

theorem dayNumber_injective (h : d.dayNumber = x.dayNumber) : d = x :=
  eq_of_not_lt (by rw [lt_iff_dayNumber]; omega) (by rw [lt_iff_dayNumber]; omega)

theorem exists_dayNumber {d x : Date} {k : Int} (h : d.dayNumber ≤ k) (hx : k ≤ x.dayNumber) :
    ∃ y : Date, y.dayNumber = k := by
  by_cases hfirst : d.dayNumber = k
  · exact ⟨d, hfirst⟩
  · obtain ⟨n, hn, -⟩ := next?_of_lt (lt_iff_dayNumber.mpr (by omega : d.dayNumber < x.dayNumber))
    have hstep := dayNumber_of_next? hn
    exact exists_dayNumber (d := n) (by omega) hx
termination_by (k - d.dayNumber).toNat

theorem back?_eq_some_iff {k : Nat} : back? k d = some b ↔ b.dayNumber + k = d.dayNumber := by
  induction k generalizing d with
  | zero =>
      rw [back?, Option.some.injEq]
      constructor
      · rintro rfl
        omega
      · intro h
        exact (dayNumber_injective (by omega)).symm
  | succ k ih =>
      rw [back?]
      cases hprev : d.prev? with
      | none =>
          refine ⟨nofun, fun h => ?_⟩
          exact absurd (lt_iff_dayNumber.mpr (by omega)) (not_lt_of_prev? (x := b) hprev)
      | some p =>
          have hp := dayNumber_of_prev? hprev
          rw [Option.bind_some, ih]
          omega

theorem weekday_eq_iff : d.weekday = w ↔ d.dayNumber % 7 = w.number % 7 := by
  have hnumber : d.weekday.number % 7 = (d.dayNumber % 7).toNat := by
    unfold weekday
    have hrest : d.dayNumber % 7 = ((d.dayNumber - 1) % 7 + 1) % 7 := by
      rw [Int.emod_add_emod, Int.sub_add_cancel]
    have hlow := Int.emod_nonneg (d.dayNumber - 1) (by decide : (7 : Int) ≠ 0)
    have hhigh := Int.emod_lt_of_pos (d.dayNumber - 1) (by decide : (0 : Int) < 7)
    rw [hrest]
    generalize (d.dayNumber - 1) % 7 = k at hlow hhigh ⊢
    obtain rfl | rfl | rfl | rfl | rfl | rfl | rfl :
        k = 0 ∨ k = 1 ∨ k = 2 ∨ k = 3 ∨ k = 4 ∨ k = 5 ∨ k = 6 := by omega
    all_goals rfl
  constructor
  · rintro rfl
    omega
  · intro h
    have hsame : d.weekday.number % 7 = w.number % 7 := by omega
    revert hsame
    cases d.weekday <;> cases w <;> decide

theorem searchBack_eq_some_iff {k : Nat} :
    searchBack w k d = some r ↔ r.weekday = w ∧ r < d ∧ d.dayNumber ≤ r.dayNumber + k ∧
      ∀ x, r < x → x < d → x.weekday ≠ w := by
  induction k generalizing d with
  | zero =>
      refine ⟨nofun, ?_⟩
      rintro ⟨-, hlt, hreach, -⟩
      have hbefore := lt_iff_dayNumber.mp hlt
      omega
  | succ k ih =>
      rw [searchBack]
      cases hprev : d.prev? with
      | none => exact ⟨nofun, fun h => absurd h.2.1 (not_lt_of_prev? hprev)⟩
      | some p =>
          have hp := dayNumber_of_prev? hprev
          have hbetween : ∀ {y : Date}, y < d ↔ y < p ∨ y = p := by
            intro y
            rw [lt_iff_dayNumber, lt_iff_dayNumber]
            constructor
            · intro h
              by_cases hlt : y.dayNumber < p.dayNumber
              · exact .inl hlt
              · exact .inr (dayNumber_injective (by omega))
            · rintro (h | rfl) <;> omega
          rw [Option.bind_some]
          by_cases hw : p.weekday = w
          · rw [if_pos hw, Option.some.injEq]
            constructor
            · rintro rfl
              refine ⟨hw, hbetween.mpr (.inr rfl), by omega, fun x hpx hxd => ?_⟩
              rw [lt_iff_dayNumber] at hpx hxd
              omega
            · rintro ⟨-, hlt, -, hnone⟩
              rcases hbetween.mp hlt with hrp | rfl
              · exact absurd hw (hnone p hrp (hbetween.mpr (.inr rfl)))
              · rfl
          · rw [if_neg hw, ih]
            constructor
            · rintro ⟨hr, hlt, hreach, hnone⟩
              refine ⟨hr, hbetween.mpr (.inl hlt), by omega, fun x hrx hxd => ?_⟩
              rcases hbetween.mp hxd with hxp | rfl
              · exact hnone x hrx hxp
              · exact hw
            · rintro ⟨hr, hlt, hreach, hnone⟩
              rcases hbetween.mp hlt with hrp | rfl
              · exact ⟨hr, hrp, by omega, fun x hrx hxp => hnone x hrx (hbetween.mpr (.inl hxp))⟩
              · exact absurd hr hw

end Date

end Timesheet
