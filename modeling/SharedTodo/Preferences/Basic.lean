import SharedTodo.Time.Instant

/-!
# Preferences and the daily reminder

A reminder is due when at least an hour has passed since the last one and the local date has changed. An
offset from UTC of a day or more counts as none.
-/

namespace SharedTodo

structure Preferences where
  dailySummary : Bool
  allowIncoming : Bool
  lastReminder : Option Time.Instant
  deriving DecidableEq

/-- What holds for a user who has stored nothing. -/
def Preferences.default : Preferences :=
  ⟨true, true, none⟩

/-- A client's distance from UTC in minutes, counted to the west. -/
structure TimezoneOffset where
  minutesWest : Int32
  deriving DecidableEq, Repr

/-- Seconds by which local clocks are ahead of UTC. -/
def TimezoneOffset.eastSeconds (offset : TimezoneOffset) : Int :=
  let west := 60 * offset.minutesWest.toInt
  if west.natAbs < 86400 then -west else 0

def reminderDue (now : Time.Instant) (last : Option Time.Instant) (offset : TimezoneOffset) : Bool :=
  match last with
  | none => true
  | some last =>
    3600 * 1000000000 ≤ now.nanosSince last &&
      now.localDate offset.eastSeconds ≠ last.localDate offset.eastSeconds

namespace Preferences

/-- The preferences after a claim of today's reminder; `none` when none is wanted or due. -/
def claimed (prefs : Preferences) (now : Time.Instant) (offset : TimezoneOffset) :
    Option Preferences :=
  if prefs.dailySummary && reminderDue now prefs.lastReminder offset then
    some { prefs with lastReminder := some now }
  else none

end Preferences

end SharedTodo
