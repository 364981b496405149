import Mathlib.Logic.Function.Basic
import Mathlib.Logic.Relation
import SharedTodo.Exchange.Change
import SharedTodo.Exchange.Create
import SharedTodo.Exchange.Finish
import SharedTodo.Exchange.Reassign

/-!
# Runs of operations

Clients share a store and a supply of identifiers. One call after the other is answered, and any clients may
have their turn between two calls of another one. Only what the shared state makes of a call is fixed:

* a call to the store has its effect; where stores may be faulty, it may instead fail without one;
* a new identifier is one that was not drawn before;
* everything else (directory, clock, name cache, notifier) may answer in any way.

`Reaches` is what becomes of one operation while nobody else is at work, up to any of its calls.
`Pool.Advances` is one call of one client among many.
-/

namespace SharedTodo.Exchange

structure Shared where
  store : Store
  /-- The identifiers that have been drawn. -/
  issued : List IssueId

def Shared.initial : Shared :=
  ⟨.empty, []⟩

/-- A call, the state it meets, its reply, and the state it leaves. -/
def Answers (faulty : Prop) : (c : Call) → Shared → c.Reply → Shared → Prop
  | .store call, s, reply, s' =>
    (reply = (Except.ok (Store.perform call s.store).1 : Except StoreFailure call.Answer) ∧
        s' = { s with store := (Store.perform call s.store).2 }) ∨
      (faulty ∧ s' = s ∧
        ∃ failure, reply = (Except.error failure : Except StoreFailure call.Answer))
  | .freshId, s, id, s' => id ∉ s.issued ∧ s' = { s with issued := id :: s.issued }
  | _, s, _, s' => s' = s

/-- What is left of an operation after some of its calls, none after the other by anybody else. -/
inductive Reaches {α : Type} (faulty : Prop) : Operation α → Shared → Operation α → Shared → Prop where
  | refl (program : Operation α) (s : Shared) : Reaches faulty program s program s
  | step {c : Call} {next : c.Reply → Operation α} {s s₁ s' : Shared} {reply : c.Reply}
      {left : Operation α} (answer : Answers faulty c s reply s₁)
      (later : Reaches faulty (next reply) s₁ left s') :
      Reaches faulty (.call c next) s left s'

/-! ## Operations on todos -/

/-- An operation that changes todos, and who does it. -/
inductive Action where
  | add (user : UserId) (draft : Draft)
  | send (user receiver : UserId) (draft : Draft)
  | pop (user : UserId)
  | complete (user : UserId) (id : IssueId)
  | accept (user : UserId) (id : IssueId)
  | remove (user : UserId) (id : IssueId)
  | bump (user : UserId) (id : IssueId)
  | edit (user : UserId) (id : IssueId) (change : Edit)
  | reassign (user : UserId) (id : IssueId) (newOwner : UserId)
  deriving DecidableEq

namespace Action

def user : Action → UserId
  | add user _ => user
  | send user _ _ => user
  | pop user => user
  | complete user _ => user
  | accept user _ => user
  | remove user _ => user
  | bump user _ => user
  | edit user _ _ => user
  | reassign user _ _ => user

/-- The operation, without its result. -/
def program (limits : Limits) : Action → Operation Unit
  | add user draft => do
    let _ ← Exchange.add limits user draft
  | send user receiver draft => do
    let _ ← Exchange.send limits user receiver draft
  | pop user => do
    let _ ← Exchange.pop limits user
  | complete user id => do
    let _ ← Exchange.complete limits user id
  | accept user id => do
    let _ ← Exchange.accept limits user id
  | remove user id => do
    let _ ← Exchange.remove limits user id
  | bump user id => do
    let _ ← Exchange.bump limits user id
  | edit user id change => do
    let _ ← Exchange.edit limits user id change
  | reassign user id newOwner => do
    let _ ← Exchange.reassign limits id user newOwner

/-- The action completes or removes the issue. -/
def Finishes : Action → IssueId → Prop
  | complete _ own, id => id = own
  | remove _ own, id => id = own
  | _, _ => False

def isReassign : Action → Bool
  | reassign _ _ _ => true
  | _ => false

def isEdit : Action → Bool
  | edit _ _ _ => true
  | _ => false

end Action

/-! ## Many clients -/

/-- Clients with what is left of their operations, and the state they share. -/
structure Pool (ι : Type) where
  clients : ι → Operation Unit
  shared : Shared

namespace Pool

variable {ι : Type}

def start (limits : ι → Limits) (actions : ι → Action) (s : Shared) : Pool ι :=
  ⟨fun i => (actions i).program (limits i), s⟩

/-- One client has one of its calls answered. -/
inductive Advances [DecidableEq ι] (faulty : Prop) : Pool ι → Pool ι → Prop where
  | call {pool : Pool ι} {i : ι} {c : Call} {next : c.Reply → Operation Unit} {reply : c.Reply}
      {s' : Shared} (client : pool.clients i = .call c next)
      (answer : Answers faulty c pool.shared reply s') :
      Advances faulty pool ⟨Function.update pool.clients i (next reply), s'⟩

/-- What a pool can become after any number of calls. -/
def Leads [DecidableEq ι] (faulty : Prop) : Pool ι → Pool ι → Prop :=
  Relation.ReflTransGen (Advances faulty)

end Pool

end SharedTodo.Exchange
