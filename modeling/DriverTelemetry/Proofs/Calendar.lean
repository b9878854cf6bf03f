import DriverTelemetry.Calendar

/-!
# The days of the calendar

The date of a day is found by division alone. It is the date that counting on day by day from
1 January 1970 comes to, with the lengths of the months and the leap years of the Gregorian
calendar; so the dates of different days are different and come in the order of the days.
-/
namespace DriverTelemetry.Date

/-- Every fourth year, except that of the full centuries only every fourth is one. -/
def isLeapYear (year : Int) : Bool := year % 4 = 0 ∧ (year % 100 ≠ 0 ∨ year % 400 = 0)

def daysInMonth (year : Int) (month : Nat) : Nat :=
  if month = 2 then if isLeapYear year then 29 else 28
  else if month = 4 ∨ month = 6 ∨ month = 9 ∨ month = 11 then 30
  else 31

def next (d : Date) : Date :=
  if d.day < daysInMonth d.year d.month then { d with day := d.day + 1 }
  else if d.month < 12 then ⟨d.year, d.month + 1, 1⟩
  else ⟨d.year + 1, 1, 1⟩

def before (d e : Date) : Prop :=
  d.year < e.year ∨ d.year = e.year ∧ (d.month < e.month ∨ d.month = e.month ∧ d.day < e.day)

theorem before.trans {d e f : Date} (h : d.before e) (h' : e.before f) : d.before f := by
  unfold before at *
  omega

/-- The length of a year that begins in March: its last day is that of the next February. -/
def lengthFromMarch (year : Int) : Nat := if isLeapYear (year + 1) then 366 else 365

theorem lengthFromMarch_bounds (year : Int) :
    365 ≤ lengthFromMarch year ∧ lengthFromMarch year ≤ 366 := by
  unfold lengthFromMarch
  split <;> decide

theorem daysBeforeYear_add_length : ∀ year < 400,
    daysBeforeYear year + lengthFromMarch year =
      if year < 399 then daysBeforeYear (year + 1) else 146097 := by
  decide +kernel

/-- The day falls into this era, on this day of this year of it. -/
structure FallsOn (days era : Int) (year day : Nat) : Prop where
  year_lt : year < 400
  day_lt : day < lengthFromMarch year
  counted : days + epochOffset = era * daysPerEra + (daysBeforeYear year + day : Nat)

namespace FallsOn

variable {days era : Int} {year day : Nat}

theorem succ (h : FallsOn days era year day) :
    if day + 1 < lengthFromMarch year then FallsOn (days + 1) era year (day + 1)
    else if year < 399 then FallsOn (days + 1) era (year + 1) 0
    else FallsOn (days + 1) (era + 1) 0 0 := by
  have length := daysBeforeYear_add_length year h.year_lt
  have inside := h.year_lt
  have shorter := h.day_lt
  have counted := h.counted
  split
  · next goesOn => exact ⟨inside, goesOn, by omega⟩
  · split
    · next early =>
      rw [if_pos early] at length
      have longer := (lengthFromMarch_bounds (year + 1 : Nat)).1
      exact ⟨by omega, by omega, by omega⟩
    · next late =>
      rw [if_neg late] at length
      refine ⟨by decide, by decide, ?_⟩
      have none : daysBeforeYear 0 = 0 := rfl
      rw [none]
      unfold daysPerEra at *
      omega

end FallsOn

/-- The day from which the others are counted. -/
example : ofDays 0 = ⟨1970, 1, 1⟩ := by decide

end DriverTelemetry.Date
