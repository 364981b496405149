import SharedTodo.Preferences.Basic
import SharedTodo.Proofs.Time.Elapsed

/-!
# When a reminder is due

The rule compares years, months and days of two instants as clocks at some offset from UTC show them. It comes
to arithmetic on seconds since 1970: an hour has passed, and the whole days are different ones
(`reminderDue_exact`). Days only grow, so a reminder that is due stays due, and after a whole day it always is.

The offset is the product of a number of 32 bits, which is checked before it is used. Whatever does not fit
into 32 bits is far more than a day, so it counts as no offset in either way of reckoning
(`eastSeconds32_eq`).
-/

namespace SharedTodo

open Time

variable {now last later : Instant} {offset : TimezoneOffset}

/-! ## The offset in 32 bits -/

/-- The product of two numbers of 32 bits, unless it does not fit. -/
def product32? (a b : Int32) : Option Int32 :=
  if (a * b).toInt = a.toInt * b.toInt then some (a * b) else none

theorem toInt_product {a b : Int32} (h : (a.toInt * b.toInt).natAbs < 2147483648) :
    (a * b).toInt = a.toInt * b.toInt := by
  rw [Int32.toInt_mul]
  exact Int.bmod_eq_of_le (by omega) (by omega)

/-- Seconds by which local clocks are ahead of UTC, reckoned in 32 bits. -/
def TimezoneOffset.eastSeconds32 (offset : TimezoneOffset) : Int :=
  match product32? 60 offset.minutesWest with
  | some west => if west.toInt.natAbs < 86400 then -west.toInt else 0
  | none => 0

theorem TimezoneOffset.eastSeconds32_eq (offset : TimezoneOffset) :
    offset.eastSeconds32 = offset.eastSeconds := by
  have h60 : (60 : Int32).toInt = 60 := rfl
  rw [eastSeconds32, product32?, eastSeconds, h60]
  by_cases hfits : (60 * offset.minutesWest).toInt = 60 * offset.minutesWest.toInt
  · rw [if_pos hfits]
    simp only [hfits]
  · rw [if_neg hfits]
    have hlarge : ¬ (60 * offset.minutesWest.toInt).natAbs < 86400 := by
      intro hsmall
      exact hfits (toInt_product (a := 60) (by rw [h60]; omega))
    exact (if_neg hlarge).symm

/-! ## Hours and days -/

/-- Whatever the instants, leap seconds included. -/
theorem reminderDue_iff :
    reminderDue now (some last) offset = true ↔
      last.HourAfter now ∧ now.localDay offset.eastSeconds ≠ last.localDay offset.eastSeconds := by
  simp only [reminderDue, Bool.and_eq_true, decide_eq_true_eq, Instant.HourAfter, ne_eq,
    Instant.localDate_eq_iff]

theorem hourAfter_iff (hnow : now.isLeap = false) (hlast : last.isLeap = false) :
    last.HourAfter now ↔ 3600 ≤ now.sinceEpoch - last.sinceEpoch := by
  have hnanos := Instant.nanosSince_eq_sinceEpoch hnow hlast
  rw [Instant.HourAfter, ← Int.cast_le (R := ℚ), hnanos]
  push_cast
  constructor <;> intro h <;> linarith

/-- A day that was over is over at every later instant. -/
theorem reminderDue_of_later (hnow : now.isLeap = false) (hlast : last.isLeap = false)
    (hlater : later.isLeap = false) (hle : now.sinceEpoch ≤ later.sinceEpoch)
    (hdue : reminderDue now (some last) offset = true) : reminderDue later (some last) offset = true := by
  obtain ⟨hhour, hday⟩ := reminderDue_iff.1 hdue
  have hsecond := hhour.second_lt
  rw [hourAfter_iff hnow hlast] at hhour
  have hlast_le := Instant.localDay_mono (t := now) (s := last) (by omega) offset.eastSeconds
  have hnow_le := Instant.localDay_mono (Instant.second_le_of_sinceEpoch_le hlater hle) offset.eastSeconds
  refine reminderDue_iff.2 ⟨(hourAfter_iff hlater hlast).2 (by linarith), ?_⟩
  omega

theorem reminderDue_of_day (hnow : now.isLeap = false) (hlast : last.isLeap = false)
    (h : 86400 ≤ now.sinceEpoch - last.sinceEpoch) : reminderDue now (some last) offset = true := by
  refine reminderDue_iff.2 ⟨(hourAfter_iff hnow hlast).2 (by linarith), ?_⟩
  have hnext : (last.sinceEpoch + offset.eastSeconds) / 86400 + 1 ≤
      (now.sinceEpoch + offset.eastSeconds) / 86400 := by linarith
  have hfloor := Int.floor_le_floor hnext
  rw [Int.floor_add_one, Instant.floor_localDay hnow, Instant.floor_localDay hlast] at hfloor
  omega

/-! ## The rule -/

/-- The rule as day arithmetic: an hour has passed and the days are different ones. The product that the offset
is made of does not wrap. What is due stays due, and after a day everything is. -/
theorem reminderDue_exact (hnow : now.isLeap = false) (hlast : last.isLeap = false)
    (offset : TimezoneOffset) :
    let west : Int := 60 * offset.minutesWest.toInt
    let east : Int := if |west| < 86400 then -west else 0
    (reminderDue now (some last) offset = true ↔
        3600 ≤ now.sinceEpoch - last.sinceEpoch ∧
          ⌊(now.sinceEpoch + east) / 86400⌋ ≠ ⌊(last.sinceEpoch + east) / 86400⌋) ∧
      offset.eastSeconds32 = east ∧
      (reminderDue now (some last) offset = true → ∀ later : Instant, later.isLeap = false →
        now.sinceEpoch ≤ later.sinceEpoch → reminderDue later (some last) offset = true) ∧
      (86400 ≤ now.sinceEpoch - last.sinceEpoch → reminderDue now (some last) offset = true) := by
  intro west east
  have heast : offset.eastSeconds = east := by
    simp only [TimezoneOffset.eastSeconds, east, west, Int.abs_eq_natAbs]
    split <;> split <;> omega
  refine ⟨?_, offset.eastSeconds32_eq.trans heast, ?_, reminderDue_of_day hnow hlast⟩
  · rw [reminderDue_iff, hourAfter_iff hnow hlast, heast, Instant.floor_localDay hnow,
      Instant.floor_localDay hlast]
  · intro hdue later hlater hle
    exact reminderDue_of_later hnow hlast hlater hle hdue

/-- An hour and a half that end with the sixties, where clocks are an hour ahead: the new year has come. -/
theorem new_year_due :
    ∃ now last : Instant, now.isLeap = false ∧ last.isLeap = false ∧ now.second < 0 ∧
      reminderDue now (some last) ⟨-60⟩ = true ∧ reminderDue now (some last) ⟨0⟩ = false := by
  let now : Instant := ⟨-1800, 500000000, by decide, by decide, by decide, by decide⟩
  let last : Instant := ⟨-7200, 250000000, by decide, by decide, by decide, by decide⟩
  obtain ⟨hahead, -⟩ := @reminderDue_exact now last rfl rfl ⟨-60⟩
  obtain ⟨hutc, -⟩ := @reminderDue_exact now last rfl rfl ⟨0⟩
  have hhour : 3600 ≤ now.sinceEpoch - last.sinceEpoch := by
    norm_num [now, last, Instant.sinceEpoch]
  refine ⟨now, last, rfl, rfl, by decide, hahead.2 ⟨hhour, ?_⟩, ?_⟩
  · change ⌊(now.sinceEpoch + (3600 : Int)) / 86400⌋ ≠ ⌊(last.sinceEpoch + (3600 : Int)) / 86400⌋
    rw [Instant.floor_localDay rfl, Instant.floor_localDay rfl]
    decide
  · rw [← Bool.not_eq_true, hutc]
    rintro ⟨-, hdays⟩
    apply hdays
    change ⌊(now.sinceEpoch + (0 : Int)) / 86400⌋ = ⌊(last.sinceEpoch + (0 : Int)) / 86400⌋
    rw [Instant.floor_localDay rfl, Instant.floor_localDay rfl]
    decide

end SharedTodo
