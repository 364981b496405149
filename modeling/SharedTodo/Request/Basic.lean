import SharedTodo.Error
import SharedTodo.Issue.Listed
import SharedTodo.Preferences.Basic

/-!
# Requests

What a client program asks for, by name and with a JSON body, and the ways in which a request fails. A
failure has a status, a title that names what could not be done, and details.
-/

namespace SharedTodo

inductive Request where
  /-- A new todo, for another user if one is named. -/
  | add (draft : Draft) (receiver : Option String)
  | list (kind : ListKind) (reminder : Bool) (offset : TimezoneOffset)
  | edit (id : IssueId) (edit : Edit)
  | complete (id : IssueId)
  | accept (id : IssueId)
  | remove (id : IssueId)
  | bump (id : IssueId)
  | reassign (id : IssueId) (newOwner : String)
  deriving DecidableEq

namespace Request

inductive Kind where
  | add
  | list
  | edit
  | complete
  | accept
  | remove
  | bump
  | reassign
  deriving DecidableEq, Repr

namespace Kind

def all : List Kind :=
  [add, list, edit, complete, accept, remove, bump, reassign]

def name : Kind → String
  | add => "add"
  | list => "list"
  | edit => "edit"
  | complete => "complete"
  | accept => "accept"
  | remove => "remove"
  | bump => "bump"
  | reassign => "change_assignment"

def ofName? (name : String) : Option Kind :=
  all.find? fun kind => kind.name = name

theorem ofName?_name (kind : Kind) : ofName? kind.name = some kind := by
  cases kind <;> decide

end Kind

def kind : Request → Kind
  | add _ _ => .add
  | list _ _ _ => .list
  | edit _ _ => .edit
  | complete _ => .complete
  | accept _ => .accept
  | remove _ => .remove
  | bump _ => .bump
  | reassign _ _ => .reassign

/-! ## Failures -/

inductive Status where
  | badRequest
  | notFound
  | internal
  deriving DecidableEq, Repr

def Status.name : Status → String
  | badRequest => "bad_request"
  | notFound => "not_found"
  | internal => "internal"

/-- What an operation was meant to achieve. -/
inductive Aim where
  | add
  | send
  | list
  | edit
  | complete
  | accept
  | remove
  | bump
  | reassign
  deriving DecidableEq, Repr

def Aim.title : Aim → String
  | add => "Unable to add issue"
  | send => "Unable to send issue"
  | list => "Unable to get issues for user"
  | edit => "Unable to edit issue"
  | complete => "Unable to complete issue"
  | accept => "Unable to accept issue"
  | remove => "Unable to remove issue"
  | bump => "Unable to bump issue"
  | reassign => "Unable to change the assignment"

inductive Failure where
  | unknownName (name : String)
  | unreadable (problem : Json.Problem)
  | input (error : InputError)
  | noUser
  | unknownUser (username : String)
  | directory (failure : DirectoryFailure)
  | operation (aim : Aim) (error : OperationError)
  deriving DecidableEq

namespace Failure

def status : Failure → Status
  | unknownName _ => .badRequest
  | unreadable _ => .badRequest
  | input _ => .badRequest
  | noUser => .badRequest
  | unknownUser _ => .notFound
  | directory _ => .internal
  | operation _ (.rejected _) => .badRequest
  | operation _ (.absent _) => .notFound
  | operation _ (.storage _) => .internal

def title : Failure → String
  | unknownName _ => "Unknown request"
  | unreadable _ => "Unable to decode JSON"
  | input _ => "Unable to decode JSON"
  | noUser => "No user specified"
  | unknownUser _ => "Unable to find user"
  | directory _ => "Unable to find user"
  | operation aim _ => aim.title

def details : Failure → String
  | unknownName name => s!"no request named '{name}'"
  | unreadable problem => problem.message
  | input error => error.message
  | noUser => "send_to must name a user"
  | unknownUser username => s!"no user named '{username}'"
  | directory failure => failure.message
  | operation _ error => error.message

def message (failure : Failure) : String :=
  failure.title ++ ": " ++ failure.details

end Failure

/-- What a request that succeeds is answered with. -/
inductive Response where
  | issues (items : List ListedIssue)
  | done
  deriving DecidableEq

end Request

end SharedTodo
