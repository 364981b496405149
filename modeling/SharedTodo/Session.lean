import SharedTodo.Exchange.Finish
import SharedTodo.World

/-!
# Disturbed sessions

A session is a world whose services may be disturbed. A disturbance waits for calls of one kind on some
keys, and makes such a call fail, makes a conditional write be refused, or lets somebody else write first.
Directory and notifier can also be down altogether: the one then fails, the other loses what it is given.

A session remembers the changes of its store in order. Writing what is there already is no change.
-/

namespace SharedTodo

/-! ## Disturbances -/

namespace StoreCall

inductive Kind where
  | get
  | set
  | delete
  | compareAndSet
  deriving DecidableEq, Repr

def kind : StoreCall → Kind
  | get _ => .get
  | set _ _ => .set
  | delete _ => .delete
  | compareAndSet _ _ _ => .compareAndSet

end StoreCall

inductive KeyPattern where
  | exactly (key : String)
  | startingWith (start : String)
  deriving DecidableEq, Repr

namespace KeyPattern

/-- A key, or with a star behind it all keys that start with it. -/
def ofText (text : String) : KeyPattern :=
  match text.toList.reverse with
  | '*' :: start => startingWith (String.ofList start.reverse)
  | _ => exactly text

def covers (key : String) : KeyPattern → Bool
  | exactly other => key = other
  | startingWith start => start.toList.isPrefixOf key.toList

end KeyPattern

namespace Disturbance

inductive Effect where
  /-- The call fails. -/
  | fail
  /-- A conditional write is refused; other calls are let through. -/
  | refuse
  /-- Somebody else writes or deletes a document before the call. -/
  | write (key : String) (value : Option String)
  deriving DecidableEq, Repr

end Disturbance

structure Disturbance where
  kind : StoreCall.Kind
  keys : KeyPattern
  effect : Disturbance.Effect
  /-- How often it can still happen; without a number it never ends. -/
  left : Option Nat
  deriving DecidableEq, Repr

namespace Disturbance

def awaits (call : StoreCall) (disturbance : Disturbance) : Bool :=
  disturbance.kind = call.kind && disturbance.keys.covers call.key && disturbance.left ≠ some 0

def spent (disturbance : Disturbance) : Disturbance :=
  { disturbance with left := disturbance.left.map fun n => n - 1 }

/-- The effect of the first disturbance that awaits a call, and the disturbances that remain. -/
def strike (call : StoreCall) : List Disturbance → Option Effect × List Disturbance
  | [] => (none, [])
  | first :: rest =>
    if first.awaits call then (some first.effect, first.spent :: rest)
    else ((strike call rest).1, first :: (strike call rest).2)

/-- Entries that a disturbance may still add to some list, at most: an entry is never shorter than a
character. -/
def mayAdd (disturbance : Disturbance) : Nat :=
  match disturbance.effect with
  | .write _ (some value) => value.length * (disturbance.left.getD 0 + 1)
  | _ => 0

end Disturbance

/-! ## Sessions -/

structure Change where
  key : String
  value : Option String
  deriving DecidableEq, Repr

structure Session where
  world : World
  /-- Attempts at the update of one document. -/
  updates : Nat
  disturbances : List Disturbance
  directoryDown : Bool
  notifierDown : Bool
  changes : List Change

namespace Session

def start (updates cacheCapacity : Nat) (clock : Time.Instant) : Session :=
  ⟨.initial cacheCapacity clock, updates, [], false, false, []⟩

/-- The session with another store, which differs from the old one under one key at most. -/
def withStore (session : Session) (key : String) (store : Store) : Session :=
  { session with
    world := { session.world with store }
    changes :=
      if store.find? key = session.world.store.find? key then session.changes
      else session.changes ++ [⟨key, store.find? key⟩] }

/-- Writes or deletes a document past all disturbances. -/
def put (session : Session) (key : String) (value : Option String) : Session :=
  session.withStore key (session.world.store.assign key value)

def performStore (call : StoreCall) (session : Session) : call.Answer × Session :=
  let result := Store.perform call session.world.store
  (result.1, session.withStore call.key result.2)

def injected : StoreFailure :=
  ⟨"injected"⟩

/-- The refusal of a conditional write. -/
def refuse (session : Session) : (call : StoreCall) → call.Answer × Session
  | .compareAndSet _ _ _ => (false, session)
  | call => session.performStore call

def performDisturbed (call : StoreCall) (session : Session) :
    Except StoreFailure call.Answer × Session :=
  let (effect, disturbances) := Disturbance.strike call session.disturbances
  let session := { session with disturbances }
  match effect with
  | none =>
    let (answer, session) := session.performStore call
    (.ok answer, session)
  | some .fail => (.error injected, session)
  | some .refuse =>
    let (answer, session) := session.refuse call
    (.ok answer, session)
  | some (.write key value) =>
    let (answer, session) := (session.put key value).performStore call
    (.ok answer, session)

def directoryFailure : DirectoryFailure :=
  ⟨"directory down"⟩

/-- Hands a call to the world. -/
def pass (call : Call) (session : Session) : call.Reply × Session :=
  let (reply, world) := session.world.perform call
  (reply, { session with world })

def perform : (c : Call) → Session → c.Reply × Session
  | .store call, session => session.performDisturbed call
  | .findById user, session =>
    if session.directoryDown then (.error directoryFailure, session) else session.pass (.findById user)
  | .findByUsername username, session =>
    if session.directoryDown then (.error directoryFailure, session)
    else session.pass (.findByUsername username)
  | .notify notification, session =>
    if session.notifierDown then ((), session) else session.pass (.notify notification)
  | call, session => session.pass call

/-- The limits of an operation by a user, with rounds for all that disturbances may add. -/
def limits (session : Session) (user : UserId) : Exchange.Limits :=
  ⟨session.updates,
    Exchange.roundsFor session.world.store user + session.disturbances.foldr (fun d n => d.mayAdd + n) 0⟩

def run {ε α : Type} (program : Program ε α) (session : Session) : Outcome ε α × Session :=
  program.run perform session

end Session

end SharedTodo
