import SharedTodo.Documents
import SharedTodo.Update

/-!
# Stored preferences

Preferences are one document per user; without one the defaults hold. A switch always writes all of them. A
claim of the daily reminder succeeds for one caller only: it records the time of the claim, read before the
update, and a later caller finds it there.
-/

namespace SharedTodo

def Preferences.key (user : UserId) : String :=
  "pref_" ++ user.text

namespace PreferenceStore

/-- The preferences in a document that may be missing. -/
def ofDocument (key : String) : Option String → Except StorageError Preferences
  | none => .ok .default
  | some raw => (Preferences.codec.decode raw).mapError (.corrupt key)

def load (user : UserId) : Program StorageError Preferences := do
  let raw ← Program.get (Preferences.key user)
  Program.ofExcept (ofDocument (Preferences.key user) raw)

/-- The preferences after a failure to read them: the defaults. -/
def loadOrDefault {ε : Type} (user : UserId) : Program ε Preferences := do
  match ← (load user).attempt with
  | .ok prefs => pure prefs
  | .error _ => pure .default

/-! ## Switches -/

def switched (key : String) (change : Preferences → Preferences) (raw : Option String) :
    Except StorageError (Option String × Preferences) := do
  let prefs ← ofDocument key raw
  .ok (some (Preferences.codec.encode (change prefs)), change prefs)

def switch (limit : Nat) (user : UserId) (change : Preferences → Preferences) :
    Program StorageError Preferences :=
  update (Preferences.key user) limit (switched (Preferences.key user) change)

def setDailySummary (limit : Nat) (user : UserId) (enabled : Bool) :
    Program StorageError Preferences :=
  switch limit user fun prefs => { prefs with dailySummary := enabled }

def setAllowIncoming (limit : Nat) (user : UserId) (allowed : Bool) :
    Program StorageError Preferences :=
  switch limit user fun prefs => { prefs with allowIncoming := allowed }

/-! ## Reminders -/

def claimed (key : String) (now : Time.Instant) (offset : TimezoneOffset) (raw : Option String) :
    Except StorageError (Option String × Bool) := do
  let prefs ← ofDocument key raw
  match prefs.claimed now offset with
  | some prefs => .ok (some (Preferences.codec.encode prefs), true)
  | none => .ok (raw, false)

/-- Claims today's reminder; the answer tells whether the caller has it. -/
def claimReminder (limit : Nat) (user : UserId) (offset : TimezoneOffset) :
    Program StorageError Bool := do
  let now ← Program.now
  update (Preferences.key user) limit (claimed (Preferences.key user) now offset)

end PreferenceStore

end SharedTodo
