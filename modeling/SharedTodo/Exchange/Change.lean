import SharedTodo.Exchange.Link

/-!
# Accepted, bumped and edited todos

Accepting moves a received todo to the end of the own list, with its link. Bumping moves a todo that is
still waiting to the head of the receiver's received ones. An edit changes the record of a todo and of its
living counterpart.
-/

namespace SharedTodo.Exchange

structure Accepted where
  message : String
  foreignUser : Option UserId
  deriving DecidableEq

structure Bumped where
  message : String
  receiver : UserId
  foreignIssue : IssueId
  deriving DecidableEq

structure Edited where
  foreignUser : Option UserId
  list : ListKind
  oldMessage : String
  deriving DecidableEq

/-- Moves a received issue's entry to the own list. -/
def acceptEntry (id : IssueId) (lists : UserLists) : Except OperationError (UserLists × Entry) :=
  (require (.issue id) (lists.removeFrom .inbox id)).map fun (entry, rest) =>
    (rest.pushed .my entry, entry)

def accept (limits : Limits) (user : UserId) (id : IssueId) : Operation Accepted := do
  let issue ← requireIssue id
  let entry ← updateLists limits user (acceptEntry id)
  let counterpart ← livingCounterpart user entry
  pure ⟨issue.message, counterpart.map Link.user⟩

/-- Moves the receiver's half to the head if it is waiting and links back; whether it did. -/
def bumpEntry (sender : UserId) (sent received : IssueId) (lists : UserLists) : UserLists × Bool :=
  match lists.findLinked received sender sent with
  | some ⟨.inbox, _, _⟩ =>
    match lists.moveToFront .inbox received with
    | some moved => (moved, true)
    | none => (lists, false)
  | _ => (lists, false)

def bump (limits : Limits) (user : UserId) (id : IssueId) : Operation Bumped := do
  let lists ← loadLists user
  let entry ← Program.ofExcept (require (.issue id) ((lists.list .out).find? (UserLists.names id)))
  match entry.link with
  | none => .fail (.rejected (.notBumpable id))
  | some link =>
    let issue ← requireIssue id
    if ← updateLists limits link.user fun lists => .ok (bumpEntry user id link.issue lists) then
      pure ⟨issue.message, link.user, link.issue⟩
    else .fail (.rejected (.notBumpable id))

/-- Edits the counterpart's record; the counterpart user, if there was one to edit. -/
def editCounterpart (limits : Limits) (edit : Edit) : Option Link → Operation (Option UserId)
  | none => pure none
  | some link => do
    match ← editRecord limits link.issue edit with
    | some _ => pure (some link.user)
    | none => pure none

def edit (limits : Limits) (user : UserId) (id : IssueId) (edit : Edit) : Operation Edited := do
  let lists ← loadLists user
  let located ← Program.ofExcept (require (.issue id) (lists.find id))
  let oldMessage ← Program.ofExcept (require (.issue id) (← editRecord limits id edit))
  let counterpart ← livingCounterpart user located.entry
  let foreignUser ← editCounterpart limits edit counterpart
  pure ⟨foreignUser, located.list, oldMessage⟩

end SharedTodo.Exchange
