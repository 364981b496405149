import SharedTodo.Exchange.Link

/-!
# Finished and removed todos

Completing and removing a todo take its entry out of whichever list holds it, dissolve its link and delete
its record. Removing the first todo does the same with the head of the own list; heads without a record are
dropped on the way, as many as the limit of rounds allows.
-/

namespace SharedTodo.Exchange

structure Completed where
  issue : Issue
  foreignUser : Option UserId
  list : ListKind
  deriving DecidableEq

structure Removed where
  issue : Issue
  foreignUser : Option UserId
  isSender : Bool
  list : ListKind
  deriving DecidableEq

structure Popped where
  issue : Issue
  foreignUser : Option UserId
  deriving DecidableEq

/-- Takes an issue's entry out of its holder's lists. -/
def takeEntry (id : IssueId) (lists : UserLists) : Except OperationError (UserLists × Located) :=
  (require (.issue id) (lists.remove id)).map fun (located, rest) => (rest, located)

/-- Takes an issue from its holder, together with its counterpart and its record. -/
def take (limits : Limits) (user : UserId) (id : IssueId) : Operation Completed := do
  let issue ← requireIssue id
  let located ← updateLists limits user (takeEntry id)
  let foreignUser ← dissolve limits user located.entry
  deleteIssue id
  pure ⟨issue, foreignUser, located.list⟩

def complete (limits : Limits) (user : UserId) (id : IssueId) : Operation Completed :=
  take limits user id

def remove (limits : Limits) (user : UserId) (id : IssueId) : Operation Removed := do
  let taken ← take limits user id
  pure ⟨taken.issue, taken.foreignUser, taken.list = .out, taken.list⟩

/-- Takes the head out of the own list. -/
def takeHead (lists : UserLists) : Except OperationError (UserLists × Entry) :=
  (require .emptyList (lists.popFront .my)).map fun (entry, rest) => (rest, entry)

/-- Removes the first todo that has a record, in a limited number of rounds. -/
def popWithin (limits : Limits) (user : UserId) : Nat → Operation Popped
  | 0 => .unfinished
  | rounds + 1 => do
    let entry ← updateLists limits user takeHead
    match ← loadIssue entry.id with
    | none => popWithin limits user rounds
    | some issue =>
      let foreignUser ← dissolve limits user entry
      deleteIssue issue.id
      pure ⟨issue, foreignUser⟩

def pop (limits : Limits) (user : UserId) : Operation Popped :=
  popWithin limits user limits.rounds

/-- Rounds that are enough as long as nobody else adds to the list: one for each entry of the own list, and
one to find it empty. -/
def roundsFor (store : Store) (user : UserId) : Nat :=
  match listsOfDocument (UserLists.key user) (store.find? (UserLists.key user)) with
  | .ok lists => lists.my.length + 1
  | .error _ => 1

end SharedTodo.Exchange
