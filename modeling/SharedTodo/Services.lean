import SharedTodo.Program

/-!
# Calls that fail as operations do

The programs of one call, with a failed store or directory turned into the failure of the operation that
called it.
-/

namespace SharedTodo

/-- The failures that a storage error can be part of. -/
class OfStorage (ε : Type) where
  ofStorage : StorageError → ε

export OfStorage (ofStorage)

instance : OfStorage StorageError :=
  ⟨id⟩

instance : OfStorage OperationError :=
  ⟨.storage⟩

namespace Program

variable {ε : Type} [OfStorage ε]

def storeCall (call : StoreCall) : Program ε call.Answer := do
  match ← perform (.store call) with
  | .ok answer => pure answer
  | .error failure => fail (ofStorage (.store failure))

def get (key : String) : Program ε (Option String) :=
  storeCall (.get key)

def set (key value : String) : Program ε Unit :=
  storeCall (.set key value)

def delete (key : String) : Program ε Unit :=
  storeCall (.delete key)

def compareAndSet (key : String) (expected new : Option String) : Program ε Bool :=
  storeCall (.compareAndSet key expected new)

def findById (user : UserId) : Program ε (Option Profile) := do
  match ← perform (.findById user) with
  | .ok profile => pure profile
  | .error failure => fail (ofStorage (.directory failure))

def findByUsername (username : String) : Program ε (Option Profile) := do
  match ← perform (.findByUsername username) with
  | .ok profile => pure profile
  | .error failure => fail (ofStorage (.directory failure))

def freshId {ε : Type} : Program ε IssueId :=
  perform .freshId

def now {ε : Type} : Program ε Time.Instant :=
  perform .now

end Program

end SharedTodo
