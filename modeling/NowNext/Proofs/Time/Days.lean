import NowNext.Time.Date

set_option autoImplicit false

namespace NowNext.Date

def daysBefore (year : Nat) : Nat := 365 * year + year / 4 - year / 100 + year / 400

def yearOfEra (day : Nat) : Nat := (day - day / 1460 + day / 36524 - day / 146096) / 365

theorem year_of_era_monotone (day later : Nat) (order : day ≤ later) : yearOfEra day ≤ yearOfEra later := by
  have fourth (n : Nat) : n / 146096 = n / 36524 / 4 := (Nat.div_div_eq_div_mul n 36524 4).symm
  have quarters : day - day / 1460 ≤ later - later / 1460 := by omega
  have centuries : day / 36524 ≤ later / 36524 := Nat.div_le_div_right order
  rw [yearOfEra, yearOfEra, fourth, fourth]
  refine Nat.div_le_div_right ?_
  generalize day / 36524 = c at *
  generalize later / 36524 = d at *
  omega

theorem year_of_era_ends : ∀ year < 400,
    yearOfEra (daysBefore year) = year ∧ yearOfEra (daysBefore (year + 1) - 1) = year := by
  decide +kernel

theorem some_year (day n : Nat) (before : day < daysBefore n) :
    ∃ year < n, daysBefore year ≤ day ∧ day < daysBefore (year + 1) := by
  induction n with
  | zero => cases before
  | succ n ih =>
      by_cases earlier : day < daysBefore n
      · obtain ⟨year, order, bounds⟩ := ih earlier
        exact ⟨year, Nat.lt_succ_of_lt order, bounds⟩
      · exact ⟨n, Nat.lt_succ_self n, Nat.le_of_not_lt earlier, before⟩

theorem year_of_era_bounds (day : Nat) (inside : day < 146097) : yearOfEra day < 400 ∧
    daysBefore (yearOfEra day) ≤ day ∧ day < daysBefore (yearOfEra day + 1) := by
  obtain ⟨year, order, first, last⟩ := some_year day 400 inside
  obtain ⟨starts, ends⟩ := year_of_era_ends year order
  have lower := year_of_era_monotone _ _ first
  have upper := year_of_era_monotone day _ (Nat.le_sub_one_of_lt last)
  have same : yearOfEra day = year := Nat.le_antisymm (ends ▸ upper) (starts ▸ lower)
  rw [same]
  exact ⟨order, first, last⟩

theorem year_length : ∀ year < 400, daysBefore (year + 1) ≤ daysBefore year + 366 ∧
    (daysBefore (year + 1) = daysBefore year + 366 → isLeapYear (year + 1) = true) := by
  decide +kernel

def monthFromMarch (dayOfYear : Nat) : Nat := (5 * dayOfYear + 2) / 153

def monthOf (dayOfYear : Nat) : Nat :=
  if monthFromMarch dayOfYear < 10 then monthFromMarch dayOfYear + 3 else monthFromMarch dayOfYear - 9

def dayOf (dayOfYear : Nat) : Nat := dayOfYear - (153 * monthFromMarch dayOfYear + 2) / 5 + 1

def ofParts (era : Int) (year dayOfYear : Nat) : Date :=
  ⟨year + era * 400 + (if monthOf dayOfYear ≤ 2 then 1 else 0), monthOf dayOfYear, dayOf dayOfYear⟩

theorem month_parts : ∀ dayOfYear < 366, 1 ≤ monthOf dayOfYear ∧ monthOf dayOfYear ≤ 12 ∧
    (monthOf dayOfYear ≤ 2 ↔ 306 ≤ dayOfYear) ∧ dayFromMarch (monthOf dayOfYear) (dayOf dayOfYear) = dayOfYear := by
  decide +kernel

theorem day_inside : ∀ dayOfYear < 366, 1 ≤ dayOf dayOfYear ∧ dayOf dayOfYear ≤ daysIn 2000 (monthOf dayOfYear) ∧
    (dayOfYear < 365 → dayOf dayOfYear ≤ daysIn 2001 (monthOf dayOfYear)) := by
  decide +kernel

theorem days_in_leap (year : Int) (leap : isLeapYear year = true) (month : Nat) :
    daysIn year month = daysIn 2000 month := by
  have round : isLeapYear 2000 = true := rfl
  unfold daysIn
  rw [leap, round]

theorem days_in_least (year : Int) (month : Nat) : daysIn 2001 month ≤ daysIn year month := by
  have common : isLeapYear 2001 = false := rfl
  unfold daysIn
  rw [common]
  split
  · cases isLeapYear year <;> decide
  all_goals exact Nat.le_refl _

theorem leap_year_era (era : Int) (year : Nat) : isLeapYear (year + era * 400 + 1) = isLeapYear (year + 1) := by
  have fourth : ((year : Int) + era * 400 + 1) % 4 = (year + 1) % 4 := by omega
  have century : ((year : Int) + era * 400 + 1) % 100 = (year + 1) % 100 := by omega
  have round : ((year : Int) + era * 400 + 1) % 400 = (year + 1) % 400 := by omega
  rw [isLeapYear, fourth, century, round]
  rfl

theorem days_to_parts (days : Int) : ∃ (era : Int) (year dayOfYear : Nat), year < 400 ∧ dayOfYear < 366 ∧
    (dayOfYear = 365 → isLeapYear (year + 1) = true) ∧
    days + 719468 = era * 146097 + daysBefore year + dayOfYear ∧ ofDays days = ofParts era year dayOfYear := by
  have inside : ((days + 719468) % 146097).toNat < 146097 := by omega
  obtain ⟨order, first, last⟩ := year_of_era_bounds _ inside
  obtain ⟨length, leap⟩ := year_length _ order
  refine ⟨(days + 719468) / 146097, yearOfEra ((days + 719468) % 146097).toNat,
    ((days + 719468) % 146097).toNat - daysBefore (yearOfEra ((days + 719468) % 146097).toNat), order, ?_, ?_, ?_, ?_⟩
  · omega
  · intro whole
    exact leap (by omega)
  · omega
  · have whole : yearOfEra ((days + 719468) % 146097).toNat / 400 = 0 := Nat.div_eq_of_lt order
    rw [daysBefore, whole]
    rfl

theorem parts_to_days (era : Int) (year dayOfYear : Nat) (inside : year < 400) (within : dayOfYear < 366) :
    (ofParts era year dayOfYear).toDays + 719468 = era * 146097 + daysBefore year + dayOfYear := by
  obtain ⟨_, _, _, same⟩ := month_parts dayOfYear within
  have march : (if (ofParts era year dayOfYear).month ≤ 2 then (ofParts era year dayOfYear).year - 1
      else (ofParts era year dayOfYear).year) = year + era * 400 := by
    by_cases early : monthOf dayOfYear ≤ 2
    · simp [ofParts, early]
    · simp [ofParts, early]
  rw [toDays, march]
  change _ + (dayFromMarch (monthOf dayOfYear) (dayOf dayOfYear) : Int) - 719468 + 719468 = _
  rw [same, daysBefore]
  omega

theorem to_days_of_days (days : Int) : (ofDays days).toDays = days := by
  obtain ⟨era, year, dayOfYear, inside, within, _, whole, parts⟩ := days_to_parts days
  have back := parts_to_days era year dayOfYear inside within
  rw [parts]
  omega

theorem year_bounds (year : Nat) (inside : year < 400) :
    365 * year ≤ daysBefore year ∧ daysBefore year ≤ 365 * year + year / 4 := by
  rw [daysBefore, Nat.div_eq_of_lt inside]
  omega

theorem of_days_year (days : Int) (after : -96465292 ≤ days) (before : days ≤ 95026236) :
    firstYear ≤ (ofDays days).year ∧ (ofDays days).year ≤ lastYear := by
  obtain ⟨era, year, dayOfYear, inside, within, _, whole, parts⟩ := days_to_parts days
  obtain ⟨_, _, early, _⟩ := month_parts dayOfYear within
  have eras : -656 ≤ era ∧ era ≤ 655 := by
    have most := (year_bounds year inside).2
    omega
  have lower : -262143 ≤ (year : Int) + era * 400 + if monthOf dayOfYear ≤ 2 then 1 else 0 := by
    have most := (year_bounds year inside).2
    by_cases first : era = -656 ∧ year = 256
    · have start : daysBefore year = 93502 := by
        rw [first.2]
        rfl
      rw [if_pos (early.mpr (by omega))]
      omega
    · split <;> omega
  have upper : (year : Int) + era * 400 + (if monthOf dayOfYear ≤ 2 then 1 else 0) ≤ 262142 := by
    have least := (year_bounds year inside).1
    by_cases last : era = 655 ∧ year = 142
    · have start : daysBefore year = 51864 := by
        rw [last.2]
        rfl
      rw [if_neg fun month => absurd (early.mp month) (by omega)]
      omega
    · split <;> omega
  rw [parts]
  exact ⟨lower, upper⟩

theorem of_days_valid (days : Int) (after : -96465292 ≤ days) (before : days ≤ 95026236) :
    (ofDays days).valid = true := by
  obtain ⟨first, last⟩ := of_days_year days after before
  obtain ⟨era, year, dayOfYear, inside, within, leap, whole, parts⟩ := days_to_parts days
  obtain ⟨january, december, _, _⟩ := month_parts dayOfYear within
  obtain ⟨start, most, fewer⟩ := day_inside dayOfYear within
  have ends : (ofDays days).day ≤ daysIn (ofDays days).year (ofDays days).month := by
    rw [parts]
    change dayOf dayOfYear ≤ daysIn _ (monthOf dayOfYear)
    by_cases common : dayOfYear < 365
    · exact Nat.le_trans (fewer common) (days_in_least _ _)
    · have last : dayOfYear = 365 := by omega
      have long : isLeapYear (ofParts era year dayOfYear).year = true := by
        obtain ⟨_, _, early, _⟩ := month_parts dayOfYear within
        change isLeapYear (year + era * 400 + if monthOf dayOfYear ≤ 2 then 1 else 0) = true
        rw [if_pos (early.mpr (by omega)), leap_year_era]
        exact leap last
      rw [days_in_leap _ long]
      exact most
  have month : (ofDays days).month = monthOf dayOfYear := congrArg month parts
  have day : (ofDays days).day = dayOf dayOfYear := congrArg Date.day parts
  rw [month] at ends
  simp only [valid, Bool.and_eq_true, decide_eq_true_eq, month]
  rw [day] at ends ⊢
  exact ⟨⟨⟨⟨⟨first, last⟩, january⟩, december⟩, start⟩, ends⟩

end NowNext.Date
