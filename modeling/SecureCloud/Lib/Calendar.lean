import Mathlib

/-
# Lib.Calendar — the proleptic Gregorian calendar of `gmtime` and `timegm`

Days are counted from 1970-01-01. Inside an era of 400 years, years start in MARCH, so that the leap day
is the last day of its year and the month lengths repeat with period five. Going to the date divides by
the lengths of centuries, four-year cycles and years; coming back multiplies.
`daysFromCivil_civilFromDays` says that nothing is lost.
-/

namespace SecureCloud.Lib.Calendar

/-- A date: year, month from 1, day of the month from 1. -/
structure Civil where
  year : Int
  month : Int
  day : Int

/-! ## Inside an era of 400 years -/

/-- Years of the era before a day: centuries, four-year cycles and years; the last century and last year
of a cycle keep their extra day. -/
def yearOfEra (doe : Int) : Int :=
  let century := min (doe / 36524) 3
  let inCentury := doe - 36524 * century
  let cycle := inCentury / 1461
  let inCycle := inCentury - 1461 * cycle
  100 * century + 4 * cycle + min (inCycle / 365) 3

def daysBeforeYear (yoe : Int) : Int := 365 * yoe + yoe / 4 - yoe / 100

def monthOfYear (doy : Int) : Int := (5 * doy + 2) / 153

def daysBeforeMonth (mp : Int) : Int := (153 * mp + 2) / 5

theorem yearOfEra_bounds {doe : Int} (h₀ : 0 ≤ doe) (h₁ : doe < 146097) :
    0 ≤ yearOfEra doe ∧ yearOfEra doe < 400 := by
  simp only [yearOfEra]
  omega

theorem dayOfYear_bounds {doe : Int} (h₀ : 0 ≤ doe) (h₁ : doe < 146097) :
    0 ≤ doe - daysBeforeYear (yearOfEra doe) ∧ doe - daysBeforeYear (yearOfEra doe) < 366 := by
  simp only [daysBeforeYear, yearOfEra]
  have hcentury : 0 ≤ min (doe / 36524) 3 ∧ min (doe / 36524) 3 ≤ 3 := by omega
  have hin : 0 ≤ doe - 36524 * min (doe / 36524) 3 ∧ doe - 36524 * min (doe / 36524) 3 ≤ 36524 := by
    omega
  generalize min (doe / 36524) 3 = century at *
  generalize hc : doe - 36524 * century = inCentury at *
  have hcycle : 0 ≤ inCentury / 1461 ∧ inCentury / 1461 ≤ 24 := by omega
  have hrest : 0 ≤ inCentury - 1461 * (inCentury / 1461) ∧
      inCentury - 1461 * (inCentury / 1461) ≤ 1460 := by omega
  generalize inCentury / 1461 = cycle at *
  generalize hr : inCentury - 1461 * cycle = inCycle at *
  have hyear : 0 ≤ min (inCycle / 365) 3 ∧ min (inCycle / 365) 3 ≤ 3 := by omega
  have hday : 0 ≤ inCycle - 365 * min (inCycle / 365) 3 ∧
      inCycle - 365 * min (inCycle / 365) 3 ≤ 365 := by omega
  generalize min (inCycle / 365) 3 = year at *
  -- a cycle has one leap day more than four years, a century one less than its cycles
  have hleap : (100 * century + 4 * cycle + year) / 4 = 25 * century + cycle := by omega
  have hskipped : (100 * century + 4 * cycle + year) / 100 = century := by omega
  omega

theorem monthOfYear_bounds {doy : Int} (h₀ : 0 ≤ doy) (h₁ : doy < 366) :
    0 ≤ monthOfYear doy ∧ monthOfYear doy < 12 := by
  unfold monthOfYear
  omega

theorem dayOfMonth_bounds (doy : Int) : 0 ≤ doy - daysBeforeMonth (monthOfYear doy) ∧
      doy - daysBeforeMonth (monthOfYear doy) < 31 := by
  unfold daysBeforeMonth monthOfYear
  omega

/-! ## Day numbers and dates -/

def civilFromDays (days : Int) : Civil :=
  let shifted := days + 719468
  let doe := shifted % 146097
  let yoe := yearOfEra doe
  let doy := doe - daysBeforeYear yoe
  let mp := monthOfYear doy
  let year := yoe + shifted / 146097 * 400
  { year := if mp < 10 then year else year + 1
    month := if mp < 10 then mp + 3 else mp - 9
    day := doy - daysBeforeMonth mp + 1 }

/-- The day number of a date. A day beyond the end of its month, or before its start, counts on. -/
def daysFromCivil (c : Civil) : Int :=
  let year := if c.month ≤ 2 then c.year - 1 else c.year
  let mp := if 2 < c.month then c.month - 3 else c.month + 9
  year / 400 * 146097 + (daysBeforeYear (year % 400) + (daysBeforeMonth mp + c.day - 1)) - 719468

theorem daysFromCivil_mk {era yoe mp day : Int} (hy₀ : 0 ≤ yoe) (hy₁ : yoe < 400) (hm₀ : 0 ≤ mp)
    (hm₁ : mp < 12) :
    daysFromCivil
        { year := if mp < 10 then yoe + era * 400 else yoe + era * 400 + 1
          month := if mp < 10 then mp + 3 else mp - 9
          day := day } =
      era * 146097 + (daysBeforeYear yoe + (daysBeforeMonth mp + day - 1)) - 719468 := by
  have hera : (yoe + era * 400) / 400 = era := by omega
  have hyear : (yoe + era * 400) % 400 = yoe := by omega
  simp only [daysFromCivil]
  by_cases hlate : mp < 10
  · rw [if_pos hlate, if_pos hlate, if_neg (by omega), if_pos (by omega),
      show mp + 3 - 3 = mp by omega, hera, hyear]
  rw [if_neg hlate, if_neg hlate, if_pos (by omega), if_neg (by omega),
    show mp - 9 + 9 = mp by omega, Int.add_sub_cancel, hera, hyear]

theorem dayOfEra_bounds (days : Int) :
    0 ≤ (days + 719468) % 146097 ∧ (days + 719468) % 146097 < 146097 := by omega

/-- **The calendar reads back the day it wrote.** -/
theorem daysFromCivil_civilFromDays (days : Int) : daysFromCivil (civilFromDays days) = days := by
  obtain ⟨hdoe₀, hdoe₁⟩ := dayOfEra_bounds days
  obtain ⟨hy₀, hy₁⟩ := yearOfEra_bounds hdoe₀ hdoe₁
  obtain ⟨hd₀, hd₁⟩ := dayOfYear_bounds hdoe₀ hdoe₁
  obtain ⟨hm₀, hm₁⟩ := monthOfYear_bounds hd₀ hd₁
  simp only [civilFromDays]
  rw [daysFromCivil_mk hy₀ hy₁ hm₀ hm₁]
  omega

theorem civilFromDays_bounds (days : Int) :
    (1 ≤ (civilFromDays days).month ∧ (civilFromDays days).month ≤ 12) ∧
      1 ≤ (civilFromDays days).day ∧ (civilFromDays days).day ≤ 31 := by
  obtain ⟨hdoe₀, hdoe₁⟩ := dayOfEra_bounds days
  obtain ⟨hd₀, hd₁⟩ := dayOfYear_bounds hdoe₀ hdoe₁
  have hm := monthOfYear_bounds hd₀ hd₁
  have hday := dayOfMonth_bounds
    ((days + 719468) % 146097 - daysBeforeYear (yearOfEra ((days + 719468) % 146097)))
  simp only [civilFromDays]
  refine ⟨?_, by omega⟩
  split <;> omega

theorem civilFromDays_year {days : Int} (h₀ : -150000 ≤ days) (h₁ : days ≤ 150000) :
    1000 ≤ (civilFromDays days).year ∧ (civilFromDays days).year ≤ 9999 := by
  obtain ⟨hdoe₀, hdoe₁⟩ := dayOfEra_bounds days
  have hy := yearOfEra_bounds hdoe₀ hdoe₁
  simp only [civilFromDays]
  split <;> omega

end SecureCloud.Lib.Calendar
