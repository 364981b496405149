import SharedTodo.Directory
import SharedTodo.Program

/-!
# The world around a program

The services that programs call, all of them healthy: store, directory, name cache, clock, a supply of new
issue identifiers, and the record of what users were told.
-/

namespace SharedTodo

structure World where
  store : Store
  directory : Directory
  cache : NameCache
  clock : Time.Instant
  /-- The identifiers of new issues, in order. -/
  supply : Nat → IssueId
  /-- How many of them have been drawn. -/
  drawn : Nat
  sent : List Notification

namespace World

/-- The `n`-th identifier of a supply that counts. -/
def counted (n : Nat) : IssueId :=
  ⟨BitVec.ofNat 128 (0x40008000000000000001 + n)⟩

def initial (cacheCapacity : Nat) (clock : Time.Instant) : World where
  store := .empty
  directory := .empty
  cache := .ofCapacity cacheCapacity
  clock
  supply := counted
  drawn := 0
  sent := []

def perform : (c : Call) → World → c.Reply × World
  | .store call, world =>
    let result := Store.perform call world.store
    (.ok result.1, { world with store := result.2 })
  | .findById user, world => (.ok (world.directory.find? user), world)
  | .findByUsername username, world => (.ok (world.directory.findByUsername username), world)
  | .freshId, world => (world.supply world.drawn, { world with drawn := world.drawn + 1 })
  | .now, world => (world.clock, world)
  | .cachedName user, world => (world.cache.find? user, world)
  | .cacheName user name, world => ((), { world with cache := world.cache.remember user name })
  | .forgetName user, world => ((), { world with cache := world.cache.forget user })
  | .notify notification, world => ((), { world with sent := world.sent ++ [notification] })

/-- Runs a program to its end, with nobody else at work. -/
def run {ε α : Type} (program : Program ε α) (world : World) : Outcome ε α × World :=
  program.run perform world

end World

end SharedTodo
