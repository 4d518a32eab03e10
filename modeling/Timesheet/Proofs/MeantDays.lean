import Mathlib.Order.Bounds.Basic
import Timesheet.Command.Reader
import Timesheet.Proofs.DayNumbers
import Timesheet.Proofs.Validity

/-!
The day that date options mean. The number of a day, with or without a month, and a day of the week
mean the latest such date of the past, so that without a year nothing in the future is meant.
-/
namespace Timesheet

namespace Date

variable {d r x today : Date} {w : Weekday} {day : Nat}

def months (d : Date) : Int := 12 * d.year + d.month.number

theorem lt_iff_months : d < x ↔ d.months < x.months ∨ d.months = x.months ∧ d.day < x.day := lt_iff

theorem le_iff_months : d ≤ x ↔ d.months < x.months ∨ d.months = x.months ∧ d.day ≤ x.day := by
  rw [← not_lt, lt_iff_months]
  omega

theorem ofParts_ok_iff {year : Int} {month : Month} :
    ofParts year month day = .ok d ↔ d.year = year ∧ d.month = month ∧ d.day = day := by
  unfold ofParts
  constructor
  · intro h
    split at h
    · split at h
      · cases h
        exact ⟨rfl, rfl, rfl⟩
      · cases h
    · cases h
  · rintro ⟨rfl, rfl, rfl⟩
    rw [dif_pos ⟨d.year_ge, d.year_le⟩, dif_pos ⟨d.day_pos, d.day_le⟩]

def firstOfMonth (d : Date) : Date :=
  { d with day := 1, day_pos := Nat.le_refl 1, day_le := d.month.one_le_length d.year }

theorem lt_firstOfMonth_iff : x < d.firstOfMonth ↔ x.months < d.months := by
  have hday := x.day_pos
  have hone : d.firstOfMonth.day = 1 := rfl
  have hmonth : d.firstOfMonth.months = d.months := rfl
  rw [lt_iff_months, hone, hmonth]
  omega

theorem dayNumber_firstOfMonth (d : Date) : d.firstOfMonth.dayNumber + d.day = d.dayNumber + 1 := by
  simp only [dayNumber_eq, firstOfMonth]
  omega

theorem lastBefore?_eq_some_iff :
    lastBefore? w d = some r ↔ IsGreatest {x | x < d ∧ x.weekday = w} r := by
  rw [lastBefore?, searchBack_eq_some_iff]
  constructor
  · rintro ⟨hr, hlt, -, hnone⟩
    refine ⟨⟨hlt, hr⟩, ?_⟩
    intro x hx
    refine not_lt.mp fun hlater => ?_
    exact hnone x hlater hx.1 hx.2
  · rintro ⟨⟨hlt, hr⟩, hgreatest⟩
    refine ⟨hr, hlt, ?_, ?_⟩
    · refine Int.not_lt.mp fun hfar => ?_
      obtain ⟨y, hy⟩ := exists_dayNumber (d := r) (x := d) (k := r.dayNumber + 7) (by omega)
        (by omega)
      have hweekday : y.weekday = w := by
        rw [weekday_eq_iff] at hr ⊢
        omega
      have hle := le_iff_dayNumber.mp (hgreatest ⟨lt_iff_dayNumber.mpr (by omega), hweekday⟩)
      omega
    · intro x hrx hxd hweekday
      exact not_lt.mpr (hgreatest ⟨hxd, hweekday⟩) hrx

/-- In a week that has passed there was every day of the week. -/
theorem exists_lastBefore (w : Weekday) (h : x.dayNumber + 7 ≤ d.dayNumber) :
    ∃ r, IsGreatest {x | x < d ∧ x.weekday = w} r := by
  obtain ⟨r, hr⟩ := exists_dayNumber (d := x) (x := d)
    (k := d.dayNumber - 1 - (d.dayNumber - 1 - w.number) % 7) (by omega) (by omega)
  refine ⟨r, ⟨lt_iff_dayNumber.mpr (by omega), weekday_eq_iff.mpr (by omega)⟩, ?_⟩
  rintro y ⟨hlt, hweekday⟩
  rw [lt_iff_dayNumber] at hlt
  rw [weekday_eq_iff] at hweekday
  rw [le_iff_dayNumber]
  omega

end Date

namespace DateOptions

variable {o : DateOptions} {today r x : Date} {time dayStart : FineClock} {day : Nat}
  {month : Month} {w : Weekday}

theorem orOutOfRange_ok_iff {found : Option Date} :
    orOutOfRange found = .ok r ↔ found = some r := by
  cases found <;> simp [orOutOfRange]

theorem sameMonth_ok_iff : sameMonth x day = .ok r ↔ r.months = x.months ∧ r.day = day := by
  rw [sameMonth, mapError_ok_iff, Date.ofParts_ok_iff]
  constructor
  · rintro ⟨hyear, hmonth, hday⟩
    exact ⟨by rw [Date.months, hyear, hmonth, Date.months], hday⟩
  · rintro ⟨hmonths, hday⟩
    obtain ⟨hyear, hmonth⟩ := Date.month_unique hmonths
    exact ⟨hyear, hmonth, hday⟩

theorem lastDay_of_passed (h : day ≤ today.day) : lastDay today day = sameMonth today day := by
  rw [lastDay, if_neg (Nat.not_lt.mpr h)]

theorem months_lt_of_back {b : Date} (h : today.day < day)
    (hb : b.dayNumber + day = today.dayNumber) : b.months < today.months := by
  have hfirst := today.dayNumber_firstOfMonth
  rw [← Date.lt_firstOfMonth_iff, Date.lt_iff_dayNumber]
  omega

theorem lastDay_ok_iff (h : today.day < day) :
    lastDay today day = .ok r ↔ ∃ b : Date, b.dayNumber + day = today.dayNumber ∧
      b.months < today.months ∧ r.months = b.months ∧ r.day = day := by
  rw [lastDay, if_pos h]
  constructor
  · intro hok
    obtain ⟨b, hback, hsame⟩ := bind_ok_iff.mp hok
    have hb := Date.back?_eq_some_iff.mp (orOutOfRange_ok_iff.mp hback)
    exact ⟨b, hb, months_lt_of_back h hb, sameMonth_ok_iff.mp hsame⟩
  · rintro ⟨b, hb, -, hr⟩
    have hback := orOutOfRange_ok_iff.mpr (Date.back?_eq_some_iff.mpr hb)
    exact bind_ok_iff.mpr ⟨b, hback, sameMonth_ok_iff.mpr hr⟩

theorem lastDay_isGreatest (h : lastDay today day = .ok r) :
    IsGreatest {x | x ≤ today ∧ x.day = day} r := by
  by_cases hpassed : day ≤ today.day
  · rw [lastDay_of_passed hpassed, sameMonth_ok_iff] at h
    refine ⟨⟨Date.le_iff_months.mpr (by omega), h.2⟩, ?_⟩
    rintro x ⟨hx, hday⟩
    rw [Date.le_iff_months] at hx ⊢
    omega
  · obtain ⟨b, hb, hearlier, hmonths, hday⟩ := (lastDay_ok_iff (Nat.not_le.mp hpassed)).mp h
    refine ⟨⟨Date.le_iff_months.mpr (by omega), hday⟩, ?_⟩
    rintro x ⟨hx, hxday⟩
    refine Date.not_lt.mp fun hlater => ?_
    -- A later such date has its whole month, up to that day at least, between `b` and today.
    have hbefore : b < x.firstOfMonth := by
      rw [Date.lt_iff_months] at hlater
      rw [Date.lt_firstOfMonth_iff]
      omega
    have hpast : x < today := by
      rw [Date.le_iff_months] at hx
      rw [Date.lt_iff_months]
      omega
    have hfirst := x.dayNumber_firstOfMonth
    rw [Date.lt_iff_dayNumber] at hbefore hpast
    omega

theorem exists_lastDay (hx : x ≤ today) (hday : x.day = day) (hnear : today.months ≤ x.months + 1) :
    ∃ r, lastDay today day = .ok r := by
  by_cases hpassed : day ≤ today.day
  · have hone := x.day_pos
    have hlength := today.day_le
    refine ⟨{ today with day, day_pos := by omega, day_le := by omega }, ?_⟩
    rw [lastDay_of_passed hpassed]
    exact sameMonth_ok_iff.mpr ⟨rfl, rfl⟩
  · have hlast : x.months + 1 = today.months := by
      rw [Date.le_iff_months] at hx
      omega
    have hpast : x < today := Date.lt_iff_months.mpr (by omega)
    have hfirst := x.dayNumber_firstOfMonth
    rw [Date.lt_iff_dayNumber] at hpast
    obtain ⟨b, hb⟩ := Date.exists_dayNumber (d := x.firstOfMonth) (x := today)
      (k := today.dayNumber - day) (by omega) (by omega)
    have hback : b.dayNumber + day = today.dayNumber := by omega
    have hearlier : b.months < today.months := months_lt_of_back (Nat.not_le.mp hpassed) hback
    have hnotBefore : ¬ b < x.firstOfMonth := by
      rw [Date.lt_iff_dayNumber]
      omega
    rw [Date.lt_firstOfMonth_iff] at hnotBefore
    refine ⟨x, (lastDay_ok_iff (Nat.not_le.mp hpassed)).mpr ⟨b, hback, hearlier, ?_, hday⟩⟩
    omega

/-- A month and day that this year does not have before tomorrow belong to the year before. -/
theorem lastYear_eq : lastYear today month day =
    if today.months < 12 * today.year + month.number ∨
        today.months = 12 * today.year + month.number ∧ today.day < day then today.year - 1
    else today.year := by
  unfold lastYear
  refine ite_congr (propext ?_) (fun _ => rfl) (fun _ => rfl)
  have hsame : month = today.month ↔ month.number = today.month.number :=
    ⟨congrArg Month.number, Month.number_injective⟩
  rw [hsame, Date.months]
  omega

theorem year_eq_lastYear_iff (hmonth : x.month = month) (hday : x.day = day) :
    x.year = lastYear today month day ↔ x ≤ today ∧
      (today.months < x.months + 12 ∨ today.months = x.months + 12 ∧ today.day < day) := by
  have hx : x.months = 12 * x.year + month.number := by rw [Date.months, hmonth]
  have htoday : today.months = 12 * today.year + today.month.number := rfl
  have hfirst := today.month.one_le_number
  have hlast := today.month.number_le
  have hfirst' := month.one_le_number
  have hlast' := month.number_le
  rw [lastYear_eq, Date.le_iff_months]
  split <;> omega

theorem lastYear_isGreatest (h : Date.ofParts (lastYear today month day) month day = .ok r) :
    IsGreatest {x | x ≤ today ∧ x.month = month ∧ x.day = day} r := by
  obtain ⟨hyear, hmonth, hday⟩ := Date.ofParts_ok_iff.mp h
  obtain ⟨hpast, hlatest⟩ := (year_eq_lastYear_iff hmonth hday).mp hyear
  refine ⟨⟨hpast, hmonth, hday⟩, ?_⟩
  rintro x ⟨hx, hxmonth, hxday⟩
  have hr : r.months = 12 * r.year + month.number := by rw [Date.months, hmonth]
  have hxmonths : x.months = 12 * x.year + month.number := by rw [Date.months, hxmonth]
  rw [Date.le_iff_months] at hx ⊢
  omega

theorem lastYear_of_near (hx : x ≤ today) (hmonth : x.month = month) (hday : x.day = day)
    (hnear : today.months < x.months + 12) :
    Date.ofParts (lastYear today month day) month day = .ok x :=
  Date.ofParts_ok_iff.mpr ⟨(year_eq_lastYear_iff hmonth hday).mpr ⟨hx, .inl hnear⟩, hmonth, hday⟩

theorem choices_le_one (h : o.permitted = true) : o.choices ≤ 1 := by
  unfold permitted at h
  simp only [Bool.and_eq_true, decide_eq_true_eq] at h
  exact h.1.1

theorem alone_of_day (h : o.permitted = true) (hday : o.day = some day) :
    o.today = false ∧ o.yesterday = false ∧ o.weekday = .none ∧ o.date = .none := by
  have hone := choices_le_one h
  unfold choices at hone
  rw [hday] at hone
  cases htoday : o.today <;> cases hyesterday : o.yesterday <;> cases hweekday : o.weekday <;>
    cases hdate : o.date <;> simp [htoday, hyesterday, hweekday, hdate] at hone ⊢

theorem alone_of_weekday (h : o.permitted = true) (hw : o.weekday = some w) :
    o.today = false ∧ o.yesterday = false := by
  have hone := choices_le_one h
  unfold choices at hone
  rw [hw] at hone
  cases htoday : o.today <;> cases hyesterday : o.yesterday <;>
    simp [htoday, hyesterday] at hone ⊢

theorem month_of_year (h : o.permitted = true) (hmonth : o.month = .none) : o.year = .none := by
  unfold permitted at h
  cases hyear : o.year
  · rfl
  · simp [hyear, hmonth] at h

theorem resolve_day (h : o.permitted = true) (hday : o.day = some day) (hmonth : o.month = .none) :
    o.resolve today time dayStart = lastDay today day := by
  obtain ⟨htoday, hyesterday, hweekday, hdate⟩ := alone_of_day h hday
  simp [resolve, htoday, hyesterday, hweekday, hdate, hday, hmonth, month_of_year h hmonth]

theorem resolve_month (h : o.permitted = true) (hday : o.day = some day)
    (hmonth : o.month = some month) (hyear : o.year = .none) :
    o.resolve today time dayStart =
      (Date.ofParts (lastYear today month day) month day).mapError .noDate := by
  obtain ⟨htoday, hyesterday, hweekday, hdate⟩ := alone_of_day h hday
  simp [resolve, htoday, hyesterday, hweekday, hdate, hday, hmonth, hyear]

theorem resolve_weekday (h : o.permitted = true) (hw : o.weekday = some w) :
    o.resolve today time dayStart = orOutOfRange (today.lastBefore? w) := by
  obtain ⟨htoday, hyesterday⟩ := alone_of_weekday h hw
  simp [resolve, htoday, hyesterday, hw]

theorem resolve_le (hdate : o.date = .none) (hyear : o.year = .none)
    (h : o.resolve today time dayStart = .ok r) : r ≤ today := by
  have hyesterday : orOutOfRange today.prev? = .ok r → r ≤ today := by
    intro hok
    have hprev := Date.dayNumber_of_prev? (orOutOfRange_ok_iff.mp hok)
    rw [Date.le_iff_dayNumber]
    omega
  have htoday : (Except.ok today : Except DateFault Date) = .ok r → r ≤ today := by
    rintro ⟨⟩
    exact Int.le_refl _
  unfold resolve at h
  split at h
  · exact htoday h
  · split at h
    · exact hyesterday h
    · rw [hdate, hyear] at h
      split at h
      · rw [orOutOfRange_ok_iff, Date.lastBefore?_eq_some_iff] at h
        exact Int.le_of_lt h.1.1
      · next heq => cases heq
      · split at h
        · exact (lastDay_isGreatest h).1.1
        · next heq => cases heq
        · rw [mapError_ok_iff] at h
          exact (lastYear_isGreatest h).1.1
        · next heq => cases heq
      · split at h
        · exact hyesterday h
        · exact htoday h

theorem mapError_noDate_ne {found : Except Date.Fault Date} :
    found.mapError DateFault.noDate ≠ .error .noMonth := by
  cases found <;> exact nofun

theorem orOutOfRange_ne {found : Option Date} : orOutOfRange found ≠ .error .noMonth := by
  cases found <;> exact nofun

theorem lastDay_ne : lastDay today day ≠ .error .noMonth := by
  unfold lastDay
  split
  · cases today.back? day with
    | none => exact nofun
    | some b => exact mapError_noDate_ne
  · exact mapError_noDate_ne

theorem resolve_ne_noMonth (h : o.permitted = true) :
    o.resolve today time dayStart ≠ .error .noMonth := by
  have hyear := month_of_year h
  unfold resolve
  split
  · exact nofun
  · split
    · exact orOutOfRange_ne
    · split
      · exact orOutOfRange_ne
      · exact nofun
      · split
        · exact lastDay_ne
        · next hmonth hsome =>
            rw [hyear hmonth] at hsome
            cases hsome
        · exact mapError_noDate_ne
        · exact mapError_noDate_ne
      · split
        · exact orOutOfRange_ne
        · exact nofun

theorem permitted_of_typed {g : Given} (h : Typed.dateOptions g = .ok o) : o.permitted = true := by
  unfold Typed.dateOptions at h
  obtain ⟨_, hdemand, hpure⟩ := bind_ok_iff.mp h
  cases hpure
  unfold Typed.demand at hdemand
  split at hdemand
  · assumption
  · cases hdemand

/-- Of the options that are accepted on a command line, the number of a day alone means the latest
date up to today with that number, and together with a month the latest one in that month; the first
is found when it lies in this month or the one before, the second when it lies less than twelve
months back. A day of the week means the latest date before today that falls on it, which there is
once a week of the calendar has passed. So nothing after today is meant without a date or a year,
and never is a year given without a month. -/
theorem meant_day_is_latest {g : Given} {o : DateOptions} (h : Typed.dateOptions g = .ok o)
    (today : Date) (time dayStart : FineClock) :
    (∀ day, o.day = some day → o.month = .none →
      (∀ r, o.resolve today time dayStart = .ok r → IsGreatest {x | x ≤ today ∧ x.day = day} r) ∧
      ∀ x, x ≤ today → x.day = day → today.months ≤ x.months + 1 →
        ∃ r, o.resolve today time dayStart = .ok r) ∧
    (∀ day month, o.day = some day → o.month = some month → o.year = .none →
      (∀ r, o.resolve today time dayStart = .ok r →
        IsGreatest {x | x ≤ today ∧ x.month = month ∧ x.day = day} r) ∧
      ∀ x, x ≤ today → x.month = month → x.day = day → today.months < x.months + 12 →
        o.resolve today time dayStart = .ok x) ∧
    (∀ w, o.weekday = some w →
      (∀ r, o.resolve today time dayStart = .ok r ↔
        IsGreatest {x | x < today ∧ x.weekday = w} r) ∧
      ∀ x : Date, x.dayNumber + 7 ≤ today.dayNumber →
        ∃ r, o.resolve today time dayStart = .ok r) ∧
    (o.date = .none → o.year = .none → ∀ r, o.resolve today time dayStart = .ok r → r ≤ today) ∧
    o.resolve today time dayStart ≠ .error .noMonth := by
  have hpermitted := permitted_of_typed h
  refine ⟨?_, ?_, ?_, ?_, resolve_ne_noMonth hpermitted⟩
  · intro day hday hmonth
    rw [resolve_day hpermitted hday hmonth]
    exact ⟨fun r hr => lastDay_isGreatest hr, fun x hx hxday hnear => exists_lastDay hx hxday hnear⟩
  · intro day month hday hmonth hyear
    rw [resolve_month hpermitted hday hmonth hyear]
    constructor
    · intro r hr
      exact lastYear_isGreatest (mapError_ok_iff.mp hr)
    · intro x hx hxmonth hxday hnear
      exact mapError_ok_iff.mpr (lastYear_of_near hx hxmonth hxday hnear)
  · intro w hw
    rw [resolve_weekday hpermitted hw]
    have hfound : ∀ r, orOutOfRange (today.lastBefore? w) = .ok r ↔
        IsGreatest {x | x < today ∧ x.weekday = w} r := by
      intro r
      rw [orOutOfRange_ok_iff, Date.lastBefore?_eq_some_iff]
    refine ⟨hfound, ?_⟩
    intro x hx
    obtain ⟨r, hr⟩ := Date.exists_lastBefore w hx
    exact ⟨r, (hfound r).mpr hr⟩
  · exact fun hdate hyear r hr => resolve_le hdate hyear hr

def marchFirst : Date := ⟨2031, .march, 1, by decide, by decide, by decide, by decide⟩

def januaryThirtieth : Date := ⟨2031, .january, 30, by decide, by decide, by decide, by decide⟩

def novemberLast : Date := ⟨2030, .november, 30, by decide, by decide, by decide, by decide⟩

def wednesdayBefore : Date := ⟨2031, .february, 26, by decide, by decide, by decide, by decide⟩

def dayBreak : FineClock := ⟨.midnight, 0⟩

/-- On the first of March the 30th is that of January, and Wednesday is three days ago. -/
theorem meant_day_is_latest_marchFirst :
    (∃ o, Typed.dateOptions ⟨[("day", "30")], []⟩ = .ok o ∧
      o.resolve marchFirst dayBreak dayBreak = .ok januaryThirtieth ∧
      IsGreatest {x | x ≤ marchFirst ∧ x.day = 30} januaryThirtieth) ∧
    (∃ o, Typed.dateOptions ⟨[("day", "30"), ("month", "November")], []⟩ = .ok o ∧
      o.resolve marchFirst dayBreak dayBreak = .ok novemberLast ∧
      IsGreatest {x | x ≤ marchFirst ∧ x.month = .november ∧ x.day = 30} novemberLast) ∧
    ∃ o, Typed.dateOptions ⟨[("weekday", "wed")], []⟩ = .ok o ∧
      IsGreatest {x | x < marchFirst ∧ x.weekday = .wednesday} wednesdayBefore ∧
      wednesdayBefore ≤ marchFirst := by
  refine ⟨⟨{ none with day := some 30 }, ?_⟩,
    ⟨{ none with day := some 30, month := some .november }, ?_⟩,
    ⟨{ none with weekday := some .wednesday }, ?_⟩⟩
  · have hread : Typed.dateOptions ⟨[("day", "30")], []⟩ =
        .ok { none with day := some 30 } := by decide +kernel
    obtain ⟨hday, -⟩ := meant_day_is_latest hread marchFirst dayBreak dayBreak
    have hresolve : DateOptions.resolve { none with day := some 30 } marchFirst dayBreak dayBreak =
        .ok januaryThirtieth := by decide +kernel
    exact ⟨hread, hresolve, (hday 30 rfl rfl).1 _ hresolve⟩
  · have hread : Typed.dateOptions ⟨[("day", "30"), ("month", "November")], []⟩ =
        .ok { none with day := some 30, month := some .november } := by decide +kernel
    obtain ⟨-, hmonth, -⟩ := meant_day_is_latest hread marchFirst dayBreak dayBreak
    have hresolve := (hmonth 30 .november rfl rfl rfl).2 novemberLast (by decide) rfl rfl
      (by decide)
    exact ⟨hread, hresolve, (hmonth 30 .november rfl rfl rfl).1 _ hresolve⟩
  · have hread : Typed.dateOptions ⟨[("weekday", "wed")], []⟩ =
        .ok { none with weekday := some .wednesday } := by decide +kernel
    obtain ⟨-, -, hweekday, hpast, -⟩ := meant_day_is_latest hread marchFirst dayBreak dayBreak
    have hresolve : DateOptions.resolve { none with weekday := some .wednesday } marchFirst dayBreak
        dayBreak = .ok wednesdayBefore := by decide +kernel
    exact ⟨hread, ((hweekday .wednesday rfl).1 _).mp hresolve, hpast rfl rfl _ hresolve⟩

end DateOptions

end Timesheet
