import Mathlib.Data.Prod.Lex
import Mathlib.Order.Monotone.Basic
import Mathlib.Tactic.IntervalCases
import LogTree.Timestamp

namespace LogTree

namespace Date

def IsLeapYear (year : Int) : Prop :=
  year % 4 = 0 ∧ (year % 100 ≠ 0 ∨ year % 400 = 0)

instance : DecidablePred IsLeapYear :=
  fun year => inferInstanceAs (Decidable (year % 4 = 0 ∧ (year % 100 ≠ 0 ∨ year % 400 = 0)))

def daysInMonth (year : Int) (month : Nat) : Nat :=
  if month = 2 then
    if IsLeapYear year then 29 else 28
  else if month = 4 ∨ month = 6 ∨ month = 9 ∨ month = 11 then 30
  else 31

def tomorrow (date : Date) : Date :=
  if date.day < daysInMonth date.year date.month then { date with day := date.day + 1 }
  else if date.month < 12 then { date with month := date.month + 1, day := 1 }
  else { year := date.year + 1, month := 1, day := 1 }

/-- The number of the first of March in a year. -/
def firstOfMarch (year : Int) : Int :=
  365 * year + year / 4 - year / 100 + year / 400 - 719468

/-- The days from the first of March on, up to the end of the next February. -/
def yearLength (year : Int) : Nat :=
  if IsLeapYear (year + 1) then 366 else 365

/-- The days of a year before one of its months, counted from March on. -/
def monthStart (month : Nat) : Nat :=
  (153 * month + 2) / 5

def monthLength (year : Int) (month : Nat) : Nat :=
  if month < 11 then monthStart (month + 1) - monthStart month
  else if IsLeapYear (year + 1) then 29 else 28

/-- The date of a day of a month. Days and months are counted from zero, the months from March on,
so January and February belong to the year before theirs. -/
def ofMonthDay (year : Int) (month day : Nat) : Date :=
  let calendarMonth := if month < 10 then month + 3 else month - 9
  { year := year + (if calendarMonth ≤ 2 then 1 else 0), month := calendarMonth, day := day + 1 }

def ofDayOfYear (year : Int) (dayOfYear : Nat) : Date :=
  let month := (5 * dayOfYear + 2) / 153
  ofMonthDay year month (dayOfYear - monthStart month)

theorem firstOfMarch_succ (year : Int) :
    firstOfMarch (year + 1) = firstOfMarch year + yearLength year := by
  rw [firstOfMarch, firstOfMarch, yearLength]
  split
  · next hleap =>
      unfold IsLeapYear at hleap
      omega
  · next hleap =>
      unfold IsLeapYear at hleap
      omega

theorem firstOfMarch_cycles (cycle year : Int) :
    firstOfMarch (cycle * 400 + year) = 146097 * cycle + firstOfMarch year := by
  have hfour : (cycle * 400 + year) / 4 = cycle * 100 + year / 4 := by omega
  have hcentury : (cycle * 400 + year) / 100 = cycle * 4 + year / 100 := by omega
  have hcycle : (cycle * 400 + year) / 400 = cycle + year / 400 := by omega
  rw [firstOfMarch, hfour, hcentury, hcycle, firstOfMarch]
  omega

theorem firstOfMarch_natCast (year : Nat) :
    firstOfMarch year =
      ((365 * year + year / 4 - year / 100 + year / 400 : Nat) : Int) - 719468 := by
  rw [firstOfMarch]
  omega

theorem firstOfMarch_le_firstOfMarch {year other : Int} (h : year ≤ other) :
    firstOfMarch year ≤ firstOfMarch other := by
  refine monotone_int_of_le_succ ?_ h
  intro year
  rw [firstOfMarch_succ]
  omega

theorem year_unique {year other : Int} {day otherDay : Nat} (hday : day < yearLength year)
    (hother : otherDay < yearLength other)
    (h : firstOfMarch year + day = firstOfMarch other + otherDay) : year = other := by
  have hnext := firstOfMarch_succ year
  have hotherNext := firstOfMarch_succ other
  rcases lt_trichotomy year other with hlt | heq | hgt
  · have hle := firstOfMarch_le_firstOfMarch (Int.add_one_le_of_lt hlt)
    omega
  · exact heq
  · have hle := firstOfMarch_le_firstOfMarch (Int.add_one_le_of_lt hgt)
    omega

section

variable {day year : Nat}

theorem century_eq (hday : day < 146096)
    (hyear : year = (day - day / 1460 + day / 36524) / 365) : year / 100 = day / 36524 := by
  have hcenturies : day / 36524 = 0 ∨ day / 36524 = 1 ∨ day / 36524 = 2 ∨ day / 36524 = 3 := by
    omega
  rcases hcenturies with h | h | h | h <;> rw [h] at hyear ⊢ <;> omega

/-- Of the days of 400 years, those of one year are found by leaving out the leap days before it:
one for every four years, but not for a full century, and one again for the full cycle. -/
theorem yearOfCycle_bounds (hday : day < 146097)
    (hyear : year = (day - day / 1460 + day / 36524 - day / 146096) / 365) :
    year < 400 ∧ 365 * year + year / 4 - year / 100 ≤ day ∧
      day < 365 * (year + 1) + (year + 1) / 4 - (year + 1) / 100 + (year + 1) / 400 := by
  rcases Nat.lt_or_ge day 146096 with hlt | hge
  · rw [Nat.div_eq_of_lt hlt, Nat.sub_zero] at hyear
    have hcentury := century_eq hlt hyear
    have hcenturies : day / 36524 ≤ day / 1460 := Nat.div_le_div_left (by decide) (by decide)
    have hleaps : year / 4 ≤ day / 1460 := by omega
    have hnext : day / 1460 ≤ (year + 1) / 4 := by omega
    have hcommon : day - day / 1460 + day / 36524 < 365 * (year + 1) := by omega
    refine ⟨by omega, by omega, ?_⟩
    by_cases hend : (year + 1) % 100 = 0
    · have hlast : year + 1 = 100 * (day / 36524 + 1) := by omega
      omega
    · have hsame : (year + 1) / 100 = day / 36524 := by omega
      calc
        day < 365 * (year + 1) + day / 1460 - day / 36524 := by
          clear hyear hleaps hnext
          omega
        _ ≤ 365 * (year + 1) + (year + 1) / 4 - (year + 1) / 100 := by
          clear hyear
          rw [hsame]
          omega
        _ ≤ _ := Nat.le_add_right _ _
  · obtain rfl : day = 146096 := by omega
    subst hyear
    decide

end

theorem exists_ofDayNumber_eq (number : Int) :
    ∃ year, ∃ day : Nat, number = firstOfMarch year + day ∧ day < yearLength year ∧
      ofDayNumber number = ofDayOfYear year day := by
  have hfdiv : (number + 719468).fdiv 146097 = (number + 719468) / 146097 :=
    Int.fdiv_eq_ediv_of_nonneg _ (by decide)
  have hfmod : (number + 719468).fmod 146097 = (number + 719468) % 146097 :=
    Int.fmod_eq_emod_of_nonneg _ (by decide)
  obtain ⟨cycle, hcycle⟩ : ∃ cycle, (number + 719468) / 146097 = cycle := ⟨_, rfl⟩
  obtain ⟨d, hd⟩ : ∃ d, ((number + 719468) % 146097).toNat = d := ⟨_, rfl⟩
  obtain ⟨y, hy⟩ : ∃ y, (d - d / 1460 + d / 36524 - d / 146096) / 365 = y := ⟨_, rfl⟩
  have hnumber : number = 146097 * cycle + d - 719468 := by omega
  obtain ⟨hlt, hle, hgt⟩ := yearOfCycle_bounds (by omega) hy.symm
  have hfirst : number =
      firstOfMarch (cycle * 400 + y) + (d - (365 * y + y / 4 - y / 100) : Nat) := by
    have hzero : y / 400 = 0 := Nat.div_eq_of_lt hlt
    rw [firstOfMarch_cycles, firstOfMarch_natCast, hzero, hnumber]
    omega
  refine ⟨cycle * 400 + y, d - (365 * y + y / 4 - y / 100), hfirst, ?_, ?_⟩
  · have hnext := firstOfMarch_natCast (y + 1)
    have hlength := firstOfMarch_succ (cycle * 400 + y)
    rw [Nat.cast_succ] at hnext
    rw [add_assoc, firstOfMarch_cycles, hnext] at hlength
    omega
  · simp only [ofDayNumber, hfdiv, hfmod, hd, hcycle, hy, ofDayOfYear, ofMonthDay, monthStart]

theorem ofDayNumber_firstOfMarch_add {year : Int} {day : Nat} (h : day < yearLength year) :
    ofDayNumber (firstOfMarch year + day) = ofDayOfYear year day := by
  obtain ⟨other, otherDay, hnumber, hother, hdate⟩ :=
    exists_ofDayNumber_eq (firstOfMarch year + day)
  obtain rfl := year_unique h hother hnumber
  obtain rfl : day = otherDay := by omega
  exact hdate

theorem daysInMonth_ofMonthDay {month : Nat} (h : month < 12) (year : Int) (day : Nat) :
    daysInMonth (ofMonthDay year month day).year (ofMonthDay year month day).month =
      monthLength year month := by
  interval_cases month <;> simp [ofMonthDay, daysInMonth, monthLength, monthStart]

theorem tomorrow_ofMonthDay {month : Nat} (h : month < 12) (year : Int) (day : Nat) :
    (ofMonthDay year month day).tomorrow =
      if day + 1 < monthLength year month then ofMonthDay year month (day + 1)
      else if month < 11 then ofMonthDay year (month + 1) 0
      else ofMonthDay (year + 1) 0 0 := by
  rw [tomorrow, daysInMonth_ofMonthDay h]
  refine if_congr Iff.rfl rfl ?_
  interval_cases month <;> simp [ofMonthDay]

theorem ofDayOfYear_eq_of_month {day month : Nat} (hfirst : monthStart month ≤ day)
    (hlast : day < monthStart (month + 1)) (year : Int) :
    ofDayOfYear year day = ofMonthDay year month (day - monthStart month) := by
  have hmonth : (5 * day + 2) / 153 = month := by
    unfold monthStart at hfirst hlast
    omega
  rw [ofDayOfYear, hmonth]

theorem exists_month {year : Int} {day : Nat} (h : day < yearLength year) :
    ∃ month < 12, monthStart month ≤ day ∧ day < monthStart (month + 1) := by
  rw [yearLength] at h
  unfold monthStart
  refine ⟨(5 * day + 2) / 153, ?_, by omega, by omega⟩
  split at h <;> omega

theorem tomorrow_ofDayOfYear {year : Int} {day : Nat} (h : day < yearLength year) :
    (ofDayOfYear year day).tomorrow =
      if day + 1 < yearLength year then ofDayOfYear year (day + 1)
      else ofDayOfYear (year + 1) 0 := by
  obtain ⟨month, hmonth, hfirst, hlast⟩ := exists_month h
  rw [ofDayOfYear_eq_of_month hfirst hlast, tomorrow_ofMonthDay hmonth, monthLength]
  rcases Nat.lt_or_ge month 11 with hinner | hge
  · have hyear : day + 1 < yearLength year := by
      unfold monthStart at hlast
      rw [yearLength]
      split <;> omega
    have hnext : monthStart (month + 1) < monthStart (month + 1 + 1) := by
      unfold monthStart
      omega
    rw [if_pos hinner, if_pos hinner, if_pos hyear]
    split
    · next hwithin =>
        rw [@ofDayOfYear_eq_of_month (day + 1) month (by omega) (by omega),
          Nat.sub_add_comm hfirst]
    · next hend =>
        have hstart : day + 1 = monthStart (month + 1) := by omega
        rw [@ofDayOfYear_eq_of_month (day + 1) (month + 1) (by omega) (by omega), hstart,
          Nat.sub_self]
  · -- February is the last month, and as long as the year has days left.
    obtain rfl : month = 11 := by omega
    have hstart : monthStart 11 = 337 := rfl
    have hlimit : monthStart (11 + 1) = 367 := rfl
    rw [if_neg (Nat.lt_irrefl 11), if_neg (Nat.lt_irrefl 11), hstart]
    have hlength : yearLength year = 337 + if IsLeapYear (year + 1) then 29 else 28 := by
      rw [yearLength]
      split <;> rfl
    rw [hlength] at h ⊢
    rw [hstart] at hfirst
    refine ite_congr (propext (by omega)) ?_ fun _ => rfl
    intro hwithin
    have hlast : day + 1 < monthStart (11 + 1) := by
      rw [hlimit]
      split at hwithin <;> omega
    rw [ofDayOfYear_eq_of_month (by omega) hlast, hstart, Nat.sub_add_comm hfirst]

/-- To count days is to go from each date to the one after it. -/
theorem ofDayNumber_succ (number : Int) :
    ofDayNumber (number + 1) = (ofDayNumber number).tomorrow := by
  obtain ⟨year, day, rfl, hday, hdate⟩ := exists_ofDayNumber_eq number
  rw [hdate, tomorrow_ofDayOfYear hday]
  split
  · next hwithin =>
      rw [← ofDayNumber_firstOfMarch_add hwithin, Int.add_assoc]
      rfl
  · next hend =>
      have hfirst : firstOfMarch year + day + 1 = firstOfMarch (year + 1) + (0 : Nat) := by
        rw [firstOfMarch_succ]
        omega
      have hlength : 0 < yearLength (year + 1) := by
        rw [yearLength]
        split <;> decide
      rw [hfirst, ofDayNumber_firstOfMarch_add hlength]

theorem ofDayNumber_zero : ofDayNumber 0 = { year := 1970, month := 1, day := 1 } := by
  decide

/-- Dates are compared by their years, then by their months, then by their days. -/
def key (date : Date) : Int ×ₗ Nat ×ₗ Nat :=
  toLex (date.year, toLex (date.month, date.day))

theorem key_lt_key_iff {date other : Date} :
    date.key < other.key ↔
      date.year < other.year ∨ date.year = other.year ∧
        (date.month < other.month ∨ date.month = other.month ∧ date.day < other.day) := by
  simp only [key, Prod.Lex.toLex_lt_toLex]

theorem key_lt_key_tomorrow (date : Date) : date.key < date.tomorrow.key := by
  rw [key_lt_key_iff, tomorrow]
  split
  · exact .inr ⟨rfl, .inr ⟨rfl, Nat.lt_succ_self _⟩⟩
  · split
    · exact .inr ⟨rfl, .inl (Nat.lt_succ_self _)⟩
    · exact .inl (Int.lt_succ _)

theorem key_ofDayNumber_lt {number later : Int} (h : number < later) :
    (ofDayNumber number).key < (ofDayNumber later).key := by
  have hmono : StrictMono fun number => (ofDayNumber number).key := by
    apply strictMono_int_of_lt_succ
    intro number
    rw [ofDayNumber_succ]
    exact key_lt_key_tomorrow _
  exact hmono h

theorem month_day_ofDayNumber_lt (number : Int) :
    (ofDayNumber number).month < 100 ∧ (ofDayNumber number).day < 100 := by
  obtain ⟨year, day, -, hday, hdate⟩ := exists_ofDayNumber_eq number
  obtain ⟨month, hmonth, hfirst, hlast⟩ := exists_month hday
  rw [hdate, ofDayOfYear_eq_of_month hfirst hlast]
  simp only [ofMonthDay]
  unfold monthStart at *
  constructor
  · split <;> omega
  · omega

end Date

end LogTree
