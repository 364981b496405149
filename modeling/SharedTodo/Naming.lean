import SharedTodo.Program

/-!
# Names of users

A name comes from the cache, or else from the directory and is then remembered. A user whom the directory
lacks, or cannot be asked about, has a general name, which is not remembered.
-/

namespace SharedTodo.Naming

variable {ε : Type}

def fallback : String :=
  "Someone"

def resolve (user : UserId) : Program ε String := do
  match ← Program.perform (.cachedName user) with
  | some name => pure name
  | none =>
    match ← Program.perform (.findById user) with
    | .ok (some profile) =>
      Program.perform (.cacheName user profile.username)
      pure profile.username
    | .ok none => pure fallback
    | .error _ => pure fallback

def forget (user : UserId) : Program ε Unit :=
  Program.perform (.forgetName user)

end SharedTodo.Naming
