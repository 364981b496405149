import SharedTodo.Exchange.Access

/-!
# New todos

A todo of one's own is a record and an entry in the own list. A todo that is sent has a record and an entry
on either side, linked with each other: sent by the one, received by the other. Records come before entries,
and the sender's entry before the receiver's.
-/

namespace SharedTodo.Exchange

/-- A record for a draft, not yet stored. -/
def newIssue (draft : Draft) : Operation Issue := do
  let id ← Program.freshId
  let now ← Program.now
  pure (Issue.ofDraft draft id now)

def newCounterpart (issue : Issue) : Operation Issue := do
  let id ← Program.freshId
  pure (issue.counterpart id)

def add (limits : Limits) (user : UserId) (draft : Draft) : Operation Issue := do
  let issue ← newIssue draft
  saveIssue issue
  pushEntry limits user .my (.unlinked issue.id)
  pure issue

/-- Sends a todo; the receiver's issue. -/
def send (limits : Limits) (sender receiver : UserId) (draft : Draft) : Operation IssueId := do
  if sender = receiver then .fail (.rejected .selfAssignment)
  else
    requireUser receiver
    let sent ← newIssue draft
    let received ← newCounterpart sent
    saveIssue sent
    saveIssue received
    pushEntry limits sender .out (.linked sent.id ⟨receiver, received.id⟩)
    pushEntry limits receiver .inbox (.linked received.id ⟨sender, sent.id⟩)
    pure received.id

end SharedTodo.Exchange
