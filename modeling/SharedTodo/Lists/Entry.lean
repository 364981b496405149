import SharedTodo.Identifier.Names

/-!
# List entries

An entry names an issue. It is linked when it names both a counterpart user and that user's issue; an
entry with only one of the two is not linked.
-/

namespace SharedTodo

/-- The other half of a shared todo, as an entry names it. -/
structure Link where
  user : UserId
  issue : IssueId
  deriving DecidableEq, Repr

structure Entry where
  id : IssueId
  foreignIssue : Option IssueId
  foreignUser : Option UserId
  deriving DecidableEq, Repr

namespace Entry

def unlinked (id : IssueId) : Entry :=
  ⟨id, none, none⟩

def linked (id : IssueId) (link : Link) : Entry :=
  ⟨id, some link.issue, some link.user⟩

def link (entry : Entry) : Option Link :=
  match entry.foreignUser, entry.foreignIssue with
  | some user, some issue => some ⟨user, issue⟩
  | _, _ => none

/-- Whether the entry's counterpart is the issue that `user` holds. -/
def linksTo (entry : Entry) (user : UserId) (issue : IssueId) : Bool :=
  entry.link = some ⟨user, issue⟩

theorem link_unlinked (id : IssueId) : (unlinked id).link = none := rfl

theorem link_linked (id : IssueId) (link : Link) : (linked id link).link = some link := rfl

end Entry

end SharedTodo
