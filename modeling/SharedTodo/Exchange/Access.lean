import SharedTodo.Documents
import SharedTodo.Naming
import SharedTodo.Update

/-!
# Access to lists and records

Every user's lists are one document, and every issue's record is another. A user with nothing in any list
has no document. Lists are only ever changed by an optimistic update; so is a record once it exists.
-/

namespace SharedTodo

def UserLists.key (user : UserId) : String :=
  "lists_" ++ user.text

def Issue.key (id : IssueId) : String :=
  "issue_" ++ id.text

namespace Exchange

/-- How often an operation tries again. -/
structure Limits where
  /-- Attempts at the update of one document. -/
  updates : Nat
  /-- Entries without a record that a removal of the first todo passes over. -/
  rounds : Nat
  deriving DecidableEq, Repr

/-- An operation on todos. -/
abbrev Operation (α : Type) :=
  Program OperationError α

def require {α : Type} (absence : Absence) : Option α → Except OperationError α
  | some a => .ok a
  | none => .error (.absent absence)

/-! ## Lists -/

/-- The lists in a document that may be missing. -/
def listsOfDocument (key : String) : Option String → Except OperationError UserLists
  | none => .ok .empty
  | some raw => (UserLists.codec.decode raw).mapError fun problem => .storage (.corrupt key problem)

/-- The document of changed lists. -/
def documentOfLists (lists : UserLists) : Option String :=
  if lists.isEmpty then none else some (UserLists.codec.encode lists)

def loadLists (user : UserId) : Operation UserLists := do
  let raw ← Program.get (UserLists.key user)
  Program.ofExcept (listsOfDocument (UserLists.key user) raw)

/-- What a change of lists makes of their document; unchanged lists leave it as it is. -/
def revisedLists {α : Type} (key : String) (change : UserLists → Except OperationError (UserLists × α))
    (raw : Option String) : Except OperationError (Option String × α) := do
  let lists ← listsOfDocument key raw
  let (revised, outcome) ← change lists
  if revised = lists then .ok (raw, outcome) else .ok (documentOfLists revised, outcome)

def updateLists {α : Type} (limits : Limits) (user : UserId)
    (change : UserLists → Except OperationError (UserLists × α)) : Operation α :=
  update (UserLists.key user) limits.updates (revisedLists (UserLists.key user) change)

/-- Adds an entry at the end of a list, unless its issue is already listed. -/
def pushEntry (limits : Limits) (user : UserId) (kind : ListKind) (entry : Entry) : Operation Unit :=
  updateLists limits user fun lists => .ok (lists.pushed kind entry, ())

/-! ## Records -/

def recordOfDocument (key raw : String) : Except OperationError Issue :=
  (Issue.codec.decode raw).mapError fun problem => .storage (.corrupt key problem)

def loadIssue (id : IssueId) : Operation (Option Issue) := do
  match ← Program.get (Issue.key id) with
  | none => pure none
  | some raw => return some (← Program.ofExcept (recordOfDocument (Issue.key id) raw))

def requireIssue (id : IssueId) : Operation Issue := do
  Program.ofExcept (require (.issue id) (← loadIssue id))

def saveIssue (issue : Issue) : Operation Unit :=
  Program.set (Issue.key issue.id) (Issue.codec.encode issue)

def deleteIssue (id : IssueId) : Operation Unit :=
  Program.delete (Issue.key id)

/-- What an edit makes of a record's document, and the message before; a missing record stays missing. -/
def editedRecord (key : String) (edit : Edit) :
    Option String → Except OperationError (Option String × Option String)
  | none => .ok (none, none)
  | some raw => do
    let issue ← recordOfDocument key raw
    .ok (some (Issue.codec.encode (issue.edited edit)), some issue.message)

/-- Edits a record; the message before, or `none` without a record. -/
def editRecord (limits : Limits) (id : IssueId) (edit : Edit) : Operation (Option String) :=
  update (Issue.key id) limits.updates (editedRecord (Issue.key id) edit)

/-! ## Users -/

/-- Makes sure that the directory knows a user; the cached name of one it lacks is forgotten. -/
def requireUser (user : UserId) : Operation Unit := do
  match ← Program.findById user with
  | some _ => pure ()
  | none =>
    Naming.forget user
    .fail (.absent (.user user))

end Exchange

end SharedTodo
