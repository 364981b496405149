import SharedTodo.Issue.Basic
import SharedTodo.Lists.Kind

/-!
# Listed issues

An issue as a list shows it: with its position in the viewer's list and, when its link is living, with
where its counterpart is and who holds it.
-/

namespace SharedTodo

structure ListedIssue where
  issue : Issue
  position : Nat
  foreignList : Option ListKind
  foreignPosition : Option Nat
  foreignUser : Option UserId
  foreignName : Option String
  deriving DecidableEq

def ListedIssue.unlinked (issue : Issue) (position : Nat) : ListedIssue :=
  ⟨issue, position, none, none, none, none⟩

end SharedTodo
