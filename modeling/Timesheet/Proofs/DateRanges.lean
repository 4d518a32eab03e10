import Timesheet.Sync.Save

/-!
The days of a range. The next day is the first after a day in the order of dates, so stepping from
day to day meets every date up to the end of the range, and none twice.
-/
namespace Timesheet

theorem Month.number_injective {m n : Month} (h : m.number = n.number) : m = n := by
  cases m <;> cases n <;> first | rfl | cases h

theorem Month.one_le_number (m : Month) : 1 ≤ m.number := by
  cases m <;> decide

theorem Month.number_of_next? {m n : Month} (h : m.next? = some n) : n.number = m.number + 1 := by
  revert h
  cases m <;> cases n <;> decide

theorem Month.number_of_last {m : Month} (h : m.next? = none) : m.number = 12 := by
  revert h
  cases m <;> decide

theorem Weekday.isWeekend_iff {w : Weekday} : w.isWeekend = true ↔ w = .saturday ∨ w = .sunday := by
  cases w <;> decide

namespace Date

variable {last d n x : Date}

theorem lt_iff : d < x ↔
    12 * d.year + d.month.number < 12 * x.year + x.month.number ∨
      12 * d.year + d.month.number = 12 * x.year + x.month.number ∧ d.day < x.day := by
  have hd : d.day ≤ 31 := Nat.le_trans d.day_le (d.month.length_le d.year)
  have hx : x.day ≤ 31 := Nat.le_trans x.day_le (x.month.length_le x.year)
  have hd₁ := d.day_pos
  have hx₁ := x.day_pos
  show d.key < x.key ↔ _
  simp only [key]
  omega

theorem month_unique (h : 12 * d.year + d.month.number = 12 * x.year + x.month.number) :
    d.year = x.year ∧ d.month = x.month := by
  have hd := d.month.number_le
  have hx := x.month.number_le
  have hd₁ := d.month.one_le_number
  have hx₁ := x.month.one_le_number
  exact ⟨by omega, Month.number_injective (by omega)⟩

theorem eq_of_not_lt (h : ¬ d < x) (h' : ¬ x < d) : d = x := by
  rw [lt_iff] at h h'
  have hsame : 12 * d.year + d.month.number = 12 * x.year + x.month.number := by omega
  have hday : d.day = x.day := by omega
  obtain ⟨hyear, hmonth⟩ := month_unique hsame
  cases d
  cases x
  cases hyear
  cases hmonth
  cases hday
  rfl

theorem le_iff : d ≤ x ↔ d = x ∨ d < x := by
  constructor
  · intro h
    by_cases hlt : d < x
    · exact .inr hlt
    · exact .inl (eq_of_not_lt hlt (Int.not_lt.mpr h))
  · rintro (rfl | h)
    · exact Int.le_refl _
    · exact Int.le_of_lt h

/-- There is no date between a day and the next one, and none after the last day of all. -/
theorem next?_of_lt (h : d < x) : ∃ n, d.next? = some n ∧ n ≤ x := by
  have hkey : d.key < x.key := h
  have hx := x.day_pos
  have hmonths := x.month.number_le
  by_cases hday : d.day + 1 ≤ d.month.length d.year
  · refine ⟨_, dif_pos hday, ?_⟩
    show Date.key _ ≤ x.key
    simp only [key] at hkey ⊢
    omega
  -- The month of `d` is over, so that of `x` is a later one.
  have hlater : 12 * d.year + d.month.number < 12 * x.year + x.month.number := by
    rcases lt_iff.mp h with hlater | ⟨hsame, hlt⟩
    · exact hlater
    · obtain ⟨hyear, hmonth⟩ := month_unique hsame
      have hlength := x.day_le
      rw [← hyear, ← hmonth] at hlength
      omega
  unfold next?
  rw [dif_neg hday]
  cases hnext : d.month.next? with
  | some m =>
      refine ⟨_, rfl, ?_⟩
      have hm := Month.number_of_next? hnext
      show Date.key _ ≤ x.key
      simp only [key]
      omega
  | none =>
      have hlast := Month.number_of_last hnext
      have hyear := x.year_le
      have hinYear : d.year + 1 ≤ 9999 := by omega
      refine ⟨_, dif_pos hinYear, ?_⟩
      have hone : Month.january.number = 1 := rfl
      show Date.key _ ≤ x.key
      simp only [key]
      omega

theorem lt_of_next? (h : d.next? = some n) : d < n := key_lt_of_next? h

theorem eq_of_le (h : d ≤ x) (hnext : ∀ n, d.next? = some n → ¬ n ≤ x) : x = d := by
  rcases le_iff.mp h with rfl | hlt
  · rfl
  · obtain ⟨n, hn, hle⟩ := next?_of_lt hlt
    exact absurd hle (hnext n hn)

/-- The days from `d` to `last` are all dates in between, both ends included. -/
theorem mem_upTo (h : d ≤ last) : x ∈ upTo last d ↔ d ≤ x ∧ x ≤ last := by
  induction d using upTo.induct last with
  | case1 d ih =>
      have hself : x = d → d ≤ x ∧ x ≤ last := by
        rintro rfl
        exact ⟨Int.le_refl _, h⟩
      -- Where the loop ends, the next day is past `last` or there is none.
      have hends : (∀ n, d.next? = some n → ¬ n ≤ last) → (x = d ↔ d ≤ x ∧ x ≤ last) :=
        fun hpast => ⟨hself, fun ⟨hdx, hx⟩ => eq_of_le hdx fun n hn hnx =>
          hpast n hn (Int.le_trans hnx hx)⟩
      rw [upTo, List.mem_cons]
      split
      · next hnone =>
          rw [List.mem_nil_iff, or_false]
          exact hends fun n hn => by rw [hnone] at hn; cases hn
      · next n hnext =>
          by_cases hn : n ≤ last
          · rw [if_pos hn, ih n hnext hn hn]
            constructor
            · rintro (hx | ⟨hnx, hx⟩)
              · exact hself hx
              · exact ⟨Int.le_trans (Int.le_of_lt (lt_of_next? hnext)) hnx, hx⟩
            · rintro ⟨hdx, hx⟩
              by_cases hnx : n ≤ x
              · exact .inr ⟨hnx, hx⟩
              · refine .inl (eq_of_le hdx fun n' hn' => ?_)
                rwa [← Option.some.inj (hnext.symm.trans hn')]
          · rw [if_neg hn, List.mem_nil_iff, or_false]
            refine hends fun n' hn' => ?_
            rwa [← Option.some.inj (hnext.symm.trans hn')]

theorem upTo_ascending : (upTo last d).Pairwise (· < ·) := by
  induction d using upTo.induct last with
  | case1 d ih =>
      rw [upTo, List.pairwise_cons]
      split
      · exact ⟨by simp, .nil⟩
      · next n hnext =>
          split
          · next hn =>
              refine ⟨fun x hx => ?_, ih n hnext hn⟩
              exact Int.lt_of_lt_of_le (lt_of_next? hnext) ((mem_upTo hn).mp hx).1
          · exact ⟨by simp, .nil⟩

end Date

namespace Sync.BulkRange

variable {r : BulkRange} {d : Date}

theorem mem_days (h : r.first ≤ r.last) : d ∈ r.days ↔ (r.first ≤ d ∧ d ≤ r.last) ∧
    (r.skipWeekends = true → d.weekday ≠ .saturday ∧ d.weekday ≠ .sunday) := by
  rw [days, List.mem_filter, Date.mem_upTo h, ← not_or, ← Weekday.isWeekend_iff]
  cases r.skipWeekends <;> simp

theorem days_ascending (r : BulkRange) : r.days.Pairwise (· < ·) := Date.upTo_ascending.filter _

end Sync.BulkRange

end Timesheet
