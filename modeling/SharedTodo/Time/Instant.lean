import SharedTodo.Time.Civil

/-!
# Instants

An instant is a second of the UTC day count since 1970 and a fraction of it in nanoseconds. A fraction of a
whole second or more stands for a leap second, which can follow only the last second of a minute.
Instants range over the years from -262143 to 262142.
-/

namespace SharedTodo.Time

namespace Instant

/-- The first second of the year -262143. -/
def firstSecond : Int := -8334601228800

/-- The last second of the year 262142. -/
def lastSecond : Int := 8210266876799

end Instant

structure Instant where
  second : Int
  nano : Nat
  second_ge : Instant.firstSecond ≤ second
  second_le : second ≤ Instant.lastSecond
  nano_lt : nano < 2000000000
  leap : 1000000000 ≤ nano → second % 60 = 59
  deriving DecidableEq

namespace Instant

def ofParts? (second : Int) (nano : Nat) : Option Instant :=
  if h : (firstSecond ≤ second ∧ second ≤ lastSecond) ∧ nano < 2000000000 ∧
      (1000000000 ≤ nano → second % 60 = 59) then
    some ⟨second, nano, h.1.1, h.1.2, h.2.1, h.2.2⟩
  else none

theorem ofParts?_parts (t : Instant) : ofParts? t.second t.nano = some t := by
  have h : (firstSecond ≤ t.second ∧ t.second ≤ lastSecond) ∧ t.nano < 2000000000 ∧
      (1000000000 ≤ t.nano → t.second % 60 = 59) :=
    ⟨⟨t.second_ge, t.second_le⟩, t.nano_lt, t.leap⟩
  exact dif_pos h

def epoch : Instant :=
  ⟨0, 0, by decide, by decide, by decide, by decide⟩

/-- Within a leap second. -/
def isLeap (t : Instant) : Bool :=
  1000000000 ≤ t.nano

def secondOfDay (t : Instant) : Int :=
  t.second % 86400

def dayNumber (t : Instant) : Int :=
  t.second / 86400

/-- The nanoseconds from `s` to `t`. A leap second counts when it lies between the two times of day. -/
def nanosSince (t s : Instant) : Int :=
  let leaps : Int :=
    if s.secondOfDay < t.secondOfDay then (if s.isLeap then 1 else 0)
    else if t.secondOfDay < s.secondOfDay then (if t.isLeap then -1 else 0)
    else 0
  (t.second - s.second + leaps) * 1000000000 + (t.nano - s.nano)

/-- The date where clocks are ahead of UTC by some seconds. -/
def localDate (t : Instant) (east : Int) : CivilDate :=
  CivilDate.ofDays ((t.second + east) / 86400)

end Instant

end SharedTodo.Time
