import SharedTodo.Error
import SharedTodo.Notification
import SharedTodo.Store

/-!
# Programs

An operation is a program: a tree of calls to the services around it, each followed by what is done with
the reply. It ends with a value, with a failure, or unfinished, when it was stopped before its end.

A program means nothing by itself. `Program.run` performs its calls one after the other on a state; what
happens when programs are cut short or interleaved is said of the same trees.
-/

namespace SharedTodo

/-- One call to a service. -/
inductive Call where
  | store (call : StoreCall)
  | findById (user : UserId)
  | findByUsername (username : String)
  | freshId
  | now
  | cachedName (user : UserId)
  | cacheName (user : UserId) (name : String)
  | forgetName (user : UserId)
  | notify (notification : Notification)

def Call.Reply : Call → Type
  | store call => Except StoreFailure call.Answer
  | findById _ => Except DirectoryFailure (Option Profile)
  | findByUsername _ => Except DirectoryFailure (Option Profile)
  | freshId => IssueId
  | now => Time.Instant
  | cachedName _ => Option String
  | cacheName _ _ => Unit
  | forgetName _ => Unit
  | notify _ => Unit

/-- How a program ends. -/
inductive Outcome (ε α : Type) where
  | ok (value : α)
  | error (failure : ε)
  | unfinished
  deriving Repr, DecidableEq

def Outcome.ofExcept {ε α : Type} : Except ε α → Outcome ε α
  | .ok value => .ok value
  | .error failure => .error failure

inductive Program (ε α : Type) where
  | ended (outcome : Outcome ε α)
  | call (call : Call) (next : call.Reply → Program ε α)

namespace Program

variable {ε δ α β γ σ : Type}

def bind (program : Program ε α) (next : α → Program ε β) : Program ε β :=
  match program with
  | ended (.ok value) => next value
  | ended (.error failure) => ended (.error failure)
  | ended .unfinished => ended .unfinished
  | call c rest => call c fun reply => (rest reply).bind next

instance : Monad (Program ε) where
  pure value := ended (.ok value)
  bind := bind

def fail (failure : ε) : Program ε α :=
  ended (.error failure)

def unfinished : Program ε α :=
  ended .unfinished

def ofExcept (result : Except ε α) : Program ε α :=
  ended (.ofExcept result)

/-- Goes on after a failure, with the failure as a value. -/
def attempt : Program ε α → Program δ (Except ε α)
  | ended (.ok value) => ended (.ok (.ok value))
  | ended (.error failure) => ended (.ok (.error failure))
  | ended .unfinished => ended .unfinished
  | call c rest => call c fun reply => (rest reply).attempt

def mapError (view : ε → δ) : Program ε α → Program δ α
  | ended (.ok value) => ended (.ok value)
  | ended (.error failure) => ended (.error (view failure))
  | ended .unfinished => ended .unfinished
  | call c rest => call c fun reply => (rest reply).mapError view

/-- A program of one call. -/
def perform (c : Call) : Program ε c.Reply :=
  call c fun reply => ended (.ok reply)

/-! ## Sequencing -/

theorem bind_pure (program : Program ε α) : (program >>= pure) = program := by
  induction program with
  | ended outcome => cases outcome <;> rfl
  | call c rest ih => exact congrArg (call c) (funext ih)

theorem bind_assoc (program : Program ε α) (f : α → Program ε β) (g : β → Program ε γ) :
    (program >>= f >>= g) = program >>= fun value => f value >>= g := by
  induction program with
  | ended outcome => cases outcome <;> rfl
  | call c rest ih => exact congrArg (call c) (funext ih)

instance : LawfulMonad (Program ε) :=
  LawfulMonad.mk' (Program ε) bind_pure (fun _ _ => rfl) bind_assoc

/-! ## Running -/

/-- Performs every call in turn on a state. -/
def run (handle : (c : Call) → σ → c.Reply × σ) : Program ε α → σ → Outcome ε α × σ
  | ended outcome, state => (outcome, state)
  | call c rest, state => (rest (handle c state).1).run handle (handle c state).2

variable (handle : (c : Call) → σ → c.Reply × σ)

@[simp] theorem run_pure (value : α) (state : σ) :
    (pure value : Program ε α).run handle state = (.ok value, state) := rfl

@[simp] theorem run_fail (failure : ε) (state : σ) :
    (fail failure : Program ε α).run handle state = (.error failure, state) := rfl

@[simp] theorem run_perform (c : Call) (state : σ) :
    (perform c : Program ε c.Reply).run handle state =
      (.ok (handle c state).1, (handle c state).2) := rfl

theorem run_bind (program : Program ε α) (next : α → Program ε β) (state : σ) :
    (program >>= next).run handle state =
      match program.run handle state with
      | (.ok value, after) => (next value).run handle after
      | (.error failure, after) => (.error failure, after)
      | (.unfinished, after) => (.unfinished, after) := by
  induction program generalizing state with
  | ended outcome => cases outcome <;> rfl
  | call c rest ih => exact ih _ _

theorem run_attempt (program : Program ε α) (state : σ) :
    (program.attempt : Program δ (Except ε α)).run handle state =
      match program.run handle state with
      | (.ok value, after) => (.ok (.ok value), after)
      | (.error failure, after) => (.ok (.error failure), after)
      | (.unfinished, after) => (.unfinished, after) := by
  induction program generalizing state with
  | ended outcome => cases outcome <;> rfl
  | call c rest ih => exact ih _ _

theorem run_mapError (view : ε → δ) (program : Program ε α) (state : σ) :
    (program.mapError view).run handle state =
      match program.run handle state with
      | (.ok value, after) => (.ok value, after)
      | (.error failure, after) => (.error (view failure), after)
      | (.unfinished, after) => (.unfinished, after) := by
  induction program generalizing state with
  | ended outcome => cases outcome <;> rfl
  | call c rest ih => exact ih _ _

end Program

end SharedTodo
