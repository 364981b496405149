/-!
# Civil dates

The proleptic Gregorian calendar as a numbering of days, day 0 being 1970-01-01. Counting starts each year
in March, so that a leap day comes last, and goes by cycles of four hundred years, which all have 146097
days.

Every day number comes back from its date (`toDays_ofDays`), so two days with the same year, month and day
are the same day (`ofDays_injective`).
-/

namespace SharedTodo.Time

structure CivilDate where
  year : Int
  month : Nat
  day : Nat
  deriving DecidableEq, Repr

namespace CivilDate

/-- The days from 0000-03-01 to 1970-01-01. -/
def epochShift : Int := 719468

/-- The year of a day in its cycle of four hundred, counted from March: whole centuries, then whole spans
of four years, then whole years. The last century, and the last year of a span, may have a day more. -/
def yearOfCycle (day : Int) : Int :=
  let century := min (day / 36524) 3
  let span := (day - 36524 * century) / 1461
  let year := min ((day - 36524 * century - 1461 * span) / 365) 3
  100 * century + 4 * span + year

/-- The days of a cycle before one of its years. -/
def daysBeforeYear (year : Int) : Int :=
  365 * year + year / 4 - year / 100

/-- The days of a year before one of its months, March being month 0. -/
def daysBeforeMonth (month : Int) : Int :=
  (153 * month + 2) / 5

def ofDays (days : Int) : CivilDate :=
  let shifted := days + epochShift
  let cycle := shifted / 146097
  let dayOfCycle := shifted % 146097
  let year := yearOfCycle dayOfCycle
  let dayOfYear := dayOfCycle - daysBeforeYear year
  let month := (5 * dayOfYear + 2) / 153
  { year := year + cycle * 400 + (if month < 10 then 0 else 1)
    month := (if month < 10 then month + 3 else month - 9).toNat
    day := (dayOfYear - daysBeforeMonth month + 1).toNat }

def toDays (date : CivilDate) : Int :=
  let year := if date.month ≤ 2 then date.year - 1 else date.year
  let month : Int := if date.month ≤ 2 then date.month + 9 else date.month - 3
  let cycle := year / 400
  cycle * 146097 + daysBeforeYear (year % 400) + daysBeforeMonth month + date.day - 1 - epochShift

/-- A date of the calendar: the calendar gives it back. A thirtieth of February comes back as a day in
March. -/
def Valid (date : CivilDate) : Prop :=
  ofDays date.toDays = date

instance (date : CivilDate) : Decidable date.Valid :=
  inferInstanceAs (Decidable (_ = _))

theorem yearOfCycle_bounds {day : Int} (h0 : 0 ≤ day) (h1 : day < 146097) :
    0 ≤ yearOfCycle day ∧ yearOfCycle day ≤ 399 := by
  simp only [yearOfCycle]
  omega

theorem daysBeforeYear_split {century span year : Int} (hs0 : 0 ≤ span) (hs1 : span ≤ 24)
    (hy0 : 0 ≤ year) (hy1 : year ≤ 3) :
    daysBeforeYear (100 * century + 4 * span + year) =
      36524 * century + 1461 * span + 365 * year := by
  have h4 : (100 * century + 4 * span + year) / 4 = 25 * century + span := by omega
  have h100 : (100 * century + 4 * span + year) / 100 = century := by omega
  rw [daysBeforeYear, h4, h100]
  omega

theorem dayOfYear_bounds {day : Int} (h0 : 0 ≤ day) (h1 : day < 146097) :
    0 ≤ day - daysBeforeYear (yearOfCycle day) ∧ day - daysBeforeYear (yearOfCycle day) ≤ 365 := by
  simp only [yearOfCycle]
  rw [daysBeforeYear_split (by omega) (by omega) (by omega) (by omega)]
  omega

/-- Months and days of a year that starts in March, put together again. -/
theorem daysBeforeMonth_add {day : Int} (h0 : 0 ≤ day) (h1 : day ≤ 365) :
    0 ≤ (5 * day + 2) / 153 ∧ (5 * day + 2) / 153 ≤ 11 ∧
      0 ≤ day - daysBeforeMonth ((5 * day + 2) / 153) := by
  simp only [daysBeforeMonth]
  omega

/-- The date of a day that is given by its cycle, its year and its month. -/
theorem toDays_parts {cycle year month day : Int} (hy0 : 0 ≤ year) (hy1 : year ≤ 399) (hm0 : 0 ≤ month)
    (hm1 : month ≤ 11) (hd : 0 ≤ day) :
    toDays
        { year := year + cycle * 400 + (if month < 10 then 0 else 1)
          month := (if month < 10 then month + 3 else month - 9).toNat
          day := (day + 1).toNat } =
      cycle * 146097 + daysBeforeYear year + daysBeforeMonth month + day - epochShift := by
  by_cases hlow : month < 10
  · have h3 : ¬ (month + 3).toNat ≤ 2 := by omega
    have hcast : ((month + 3).toNat : Int) - 3 = month := by omega
    have hq : (year + cycle * 400 + 0) / 400 = cycle := by omega
    have hr : (year + cycle * 400 + 0) % 400 = year := by omega
    simp only [toDays, hlow, if_true, h3, if_false, hcast, hq, hr]
    omega
  · have h3 : (month - 9).toNat ≤ 2 := by omega
    have hcast : ((month - 9).toNat : Int) + 9 = month := by omega
    have hq : (year + cycle * 400 + 1 - 1) / 400 = cycle := by omega
    have hr : (year + cycle * 400 + 1 - 1) % 400 = year := by omega
    simp only [toDays, hlow, if_false, h3, if_true, hcast, hq, hr]
    omega

theorem toDays_ofDays (days : Int) : toDays (ofDays days) = days := by
  have hpos := Int.emod_nonneg (days + epochShift) (show (146097 : Int) ≠ 0 by decide)
  have hlt := Int.emod_lt_of_pos (days + epochShift) (show (0 : Int) < 146097 by decide)
  have hdiv := Int.mul_ediv_add_emod (days + epochShift) 146097
  obtain ⟨hy0, hy1⟩ := yearOfCycle_bounds hpos hlt
  obtain ⟨hd0, hd1⟩ := dayOfYear_bounds hpos hlt
  obtain ⟨hm0, hm1, hday⟩ := daysBeforeMonth_add hd0 hd1
  exact (toDays_parts hy0 hy1 hm0 hm1 hday).trans (by omega)

theorem ofDays_injective {a b : Int} (h : ofDays a = ofDays b) : a = b := by
  rw [← toDays_ofDays a, h, toDays_ofDays]

theorem valid_ofDays (days : Int) : (ofDays days).Valid := by
  rw [Valid, toDays_ofDays]

end CivilDate

end SharedTodo.Time
