import Mathlib.Data.Rat.Floor
import Mathlib.Tactic.Linarith
import SharedTodo.Time.Instant

/-!
# Time that has passed

An instant outside of leap seconds is a number of seconds since 1970, a rational one, and the day at some
offset from UTC is the whole part of that number over the seconds of a day (`floor_localDay`). Local dates are
the same exactly when these days are (`localDate_eq_iff`).

The nanoseconds from one instant to another count a leap second that lies between their times of day, so
they are not always the difference of two numbers. They are never more than a second away from it
(`nanosSince_bounds`), and that is enough where hours are at stake.
-/

namespace SharedTodo.Time.Instant

variable {t s u : Instant}

/-- Seconds since 1970, with their fraction. -/
def sinceEpoch (t : Instant) : ℚ :=
  t.second + t.nano / 1000000000

/-- The day, counted from 1970 on, where clocks are ahead of UTC by some seconds. -/
def localDay (t : Instant) (east : Int) : Int :=
  (t.second + east) / 86400

/-! ## Without leap seconds -/

theorem nano_lt_of_not_leap (h : t.isLeap = false) : t.nano < 1000000000 := by
  simpa [isLeap] using h

theorem nanosSince_of_not_leap (ht : t.isLeap = false) (hs : s.isLeap = false) :
    t.nanosSince s = (t.second - s.second) * 1000000000 + (t.nano - s.nano) := by
  simp [nanosSince, ht, hs]

theorem nanosSince_eq_sinceEpoch (ht : t.isLeap = false) (hs : s.isLeap = false) :
    (t.nanosSince s : ℚ) = (t.sinceEpoch - s.sinceEpoch) * 1000000000 := by
  rw [nanosSince_of_not_leap ht hs, sinceEpoch, sinceEpoch]
  push_cast
  ring

theorem second_le_of_sinceEpoch_le (hs : s.isLeap = false) (h : t.sinceEpoch ≤ s.sinceEpoch) :
    t.second ≤ s.second := by
  have hnano : (s.nano : ℚ) / 1000000000 < 1 := by
    rw [div_lt_one (by norm_num)]
    exact_mod_cast nano_lt_of_not_leap hs
  have hnano' : (0 : ℚ) ≤ t.nano / 1000000000 := by positivity
  rw [sinceEpoch, sinceEpoch] at h
  have hlt : (t.second : ℚ) < s.second + 1 := by linarith
  have hlt' : t.second < s.second + 1 := by exact_mod_cast hlt
  omega

/-- A fraction of a second does not reach the next day. -/
theorem floor_localDay (h : t.isLeap = false) (east : Int) :
    ⌊(t.sinceEpoch + east) / 86400⌋ = t.localDay east := by
  have hnano : (t.nano : ℚ) / 1000000000 < 1 := by
    rw [div_lt_one (by norm_num)]
    exact_mod_cast nano_lt_of_not_leap h
  have hnano' : (0 : ℚ) ≤ t.nano / 1000000000 := by positivity
  have hlow : ((t.localDay east * 86400 : ℤ) : ℚ) ≤ ((t.second + east : ℤ) : ℚ) := by
    exact_mod_cast (by simp only [localDay]; omega)
  have hhigh : ((t.second + east : ℤ) : ℚ) ≤ ((t.localDay east * 86400 + 86399 : ℤ) : ℚ) := by
    exact_mod_cast (by simp only [localDay]; omega)
  push_cast at hlow hhigh
  rw [Int.floor_eq_iff, le_div_iff₀ (by norm_num), div_lt_iff₀ (by norm_num), sinceEpoch]
  constructor <;> linarith

/-! ## Local days -/

theorem localDate_eq_iff (east : Int) : t.localDate east = s.localDate east ↔ t.localDay east = s.localDay east :=
  ⟨CivilDate.ofDays_injective, congrArg CivilDate.ofDays⟩

theorem localDay_mono (h : s.second ≤ t.second) (east : Int) : s.localDay east ≤ t.localDay east := by
  simp only [localDay]
  omega

/-! ## With leap seconds -/

theorem nanosSince_bounds (t s : Instant) :
    (t.second - s.second - 1) * 1000000000 + (t.nano - s.nano) ≤ t.nanosSince s ∧
      t.nanosSince s ≤ (t.second - s.second + 1) * 1000000000 + (t.nano - s.nano) := by
  have hleaps : ∀ n : Int, -1 ≤ n → n ≤ 1 →
      (t.second - s.second - 1) * 1000000000 + (t.nano - s.nano) ≤
          (t.second - s.second + n) * 1000000000 + (t.nano - s.nano) ∧
        (t.second - s.second + n) * 1000000000 + (t.nano - s.nano) ≤
          (t.second - s.second + 1) * 1000000000 + (t.nano - s.nano) := by
    intro n h0 h1
    omega
  apply hleaps
  · split
    · split <;> decide
    · split
      · split <;> decide
      · decide
  · split
    · split <;> decide
    · split
      · split <;> decide
      · decide

/-- An hour after an instant, at least. -/
def HourAfter (s t : Instant) : Prop :=
  3600 * 1000000000 ≤ t.nanosSince s

theorem HourAfter.second_lt (h : HourAfter s t) : s.second < t.second := by
  have hbounds := (nanosSince_bounds t s).2
  have hnano := t.nano_lt
  rw [HourAfter] at h
  omega

/-- Two hours leave room for all leap seconds in between. -/
theorem HourAfter.trans (h : HourAfter s t) (h' : HourAfter t u) : HourAfter s u := by
  have hst := (nanosSince_bounds t s).2
  have htu := (nanosSince_bounds u t).2
  have hsu := (nanosSince_bounds u s).1
  rw [HourAfter] at h h' ⊢
  omega

end SharedTodo.Time.Instant
