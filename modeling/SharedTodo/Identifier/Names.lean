import SharedTodo.InputError
import SharedTodo.Identifier.IssueId
import SharedTodo.Text.Blank

/-!
# Identifiers from texts

Users and posts are named by texts from outside; a typed one is trimmed and must not be blank. A stored
one is taken as it stands. A typed issue identifier may have blanks around it.
-/

namespace SharedTodo

structure UserId where
  text : String
  deriving DecidableEq, Repr

structure PostId where
  text : String
  deriving DecidableEq, Repr

instance : ToString UserId :=
  ⟨UserId.text⟩

instance : ToString PostId :=
  ⟨PostId.text⟩

def UserId.ofInput (raw : String) : Except InputError UserId :=
  if Text.isBlankText raw then .error .emptyUserId else .ok ⟨Text.trim raw⟩

def PostId.ofInput (raw : String) : Except InputError PostId :=
  if Text.isBlankText raw then .error .emptyPostId else .ok ⟨Text.trim raw⟩

def IssueId.ofInput (raw : String) : Except InputError IssueId :=
  match IssueId.ofText? (Text.trim raw) with
  | some id => .ok id
  | none => .error (.invalidIssueId raw)

/-- A user as the directory knows them. -/
structure Profile where
  id : UserId
  username : String
  deriving DecidableEq, Repr

end SharedTodo
