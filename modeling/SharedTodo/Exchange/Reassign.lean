import SharedTodo.Exchange.Create
import SharedTodo.Exchange.Link

/-!
# Reassigned todos

A holder who takes a todo back for themselves has it at the end of the own list, without a link. A todo
given to somebody else stays with its holder as a sent one and is received by the new owner as a new copy.
Either way the old link is dissolved. If the holder's lists cannot be changed, the new copy goes again.
-/

namespace SharedTodo.Exchange

structure Reassigned where
  message : String
  /-- Whoever was at the other end before, unless they are the new owner. -/
  previous : Option UserId
  /-- The new owner's issue; none when the holder keeps the todo. -/
  newIssue : Option IssueId
  deriving DecidableEq

/-- Takes an issue's entry from its place and puts a new one at the end of a list; the old entry. -/
def replaceEntry (id : IssueId) (kind : ListKind) (new : Entry) (lists : UserLists) :
    Except OperationError (UserLists × Entry) :=
  (require (.issue id) (lists.remove id)).map fun (located, rest) =>
    (rest.pushed kind new, located.entry)

def keep (limits : Limits) (user : UserId) (issue : Issue) (id : IssueId) : Operation Reassigned := do
  let old ← updateLists limits user (replaceEntry id .my (.unlinked id))
  let previous ← dissolve limits user old
  pure ⟨issue.message, previous, none⟩

def handOver (limits : Limits) (user newOwner : UserId) (issue : Issue) (id : IssueId) :
    Operation Reassigned := do
  let copy ← newCounterpart issue
  saveIssue copy
  match ← (updateLists limits user
      (replaceEntry id .out (.linked id ⟨newOwner, copy.id⟩))).attempt with
  | .error failure =>
    deleteIssue copy.id
    .fail failure
  | .ok old =>
    let previous ← dissolve limits user old
    pushEntry limits newOwner .inbox (.linked copy.id ⟨user, id⟩)
    pure ⟨issue.message, previous.filter fun other => other ≠ newOwner, some copy.id⟩

def reassign (limits : Limits) (id : IssueId) (user newOwner : UserId) : Operation Reassigned := do
  let issue ← requireIssue id
  if user = newOwner then keep limits user issue id
  else
    requireUser newOwner
    handOver limits user newOwner issue id

end SharedTodo.Exchange
