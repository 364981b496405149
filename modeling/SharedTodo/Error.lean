import SharedTodo.Json.Problem
import SharedTodo.Identifier.Names

/-!
# Failures

An operation on todos is refused for what the caller asked (`Rejection`), because something is not there
(`Absence`), or because a service failed (`StorageError`). The first two are the caller's to mend.
-/

namespace SharedTodo

/-- The store could not answer. -/
structure StoreFailure where
  reason : String
  deriving DecidableEq, Repr

def StoreFailure.message (failure : StoreFailure) : String :=
  s!"persistence error: {failure.reason}"

/-- The user directory could not answer. -/
structure DirectoryFailure where
  reason : String
  deriving DecidableEq, Repr

def DirectoryFailure.message (failure : DirectoryFailure) : String :=
  s!"user directory unavailable: {failure.reason}"

inductive StorageError where
  | retriesExhausted (key : String) (attempts : Nat)
  | store (failure : StoreFailure)
  | directory (failure : DirectoryFailure)
  | corrupt (key : String) (problem : Json.Problem)
  deriving DecidableEq, Repr

def StorageError.message : StorageError → String
  | retriesExhausted key attempts => s!"update of '{key}' conflicted {attempts} times; giving up"
  | store failure => failure.message
  | directory failure => failure.message
  | corrupt key problem => s!"corrupt value under '{key}': {problem.message}"

inductive Rejection where
  | input (error : InputError)
  | selfAssignment
  | notBumpable (id : IssueId)
  deriving DecidableEq, Repr

def Rejection.message : Rejection → String
  | input error => error.message
  | selfAssignment => "cannot send a todo to yourself"
  | notBumpable id => s!"issue {id} has no pending receiver to bump"

inductive Absence where
  | emptyList
  | issue (id : IssueId)
  | user (id : UserId)
  deriving DecidableEq, Repr

def Absence.message : Absence → String
  | emptyList => "cannot find issue: list is empty"
  | issue id => s!"cannot find issue {id}"
  | .user id => s!"cannot find user {id}"

inductive OperationError where
  | rejected (cause : Rejection)
  | absent (what : Absence)
  | storage (error : StorageError)
  deriving DecidableEq, Repr

namespace OperationError

def message : OperationError → String
  | rejected cause => cause.message
  | absent what => what.message
  | storage error => error.message

/-- Whether the failure is the caller's to mend. -/
def isUserError : OperationError → Bool
  | rejected _ => true
  | absent _ => true
  | storage _ => false

def isEmptyList (error : OperationError) : Bool :=
  error = absent .emptyList

end OperationError

end SharedTodo
