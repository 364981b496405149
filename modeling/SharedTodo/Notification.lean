import SharedTodo.Identifier.Names
import SharedTodo.Lists.Kind

/-!
# Notifications

What users are told: that lists of theirs have changed, a direct message, or a reply in the thread of the
post that a todo came from. A todo attached to a message names the recipient's own issue, so that the
recipient can act on it.
-/

namespace SharedTodo

structure Attachment where
  message : String
  issue : IssueId
  deriving DecidableEq, Repr

inductive Notification where
  | refresh (user : UserId) (lists : List ListKind)
  | directMessage (user : UserId) (message : String) (attachment : Option Attachment)
  | reply (post : PostId) (message todo : String)
  deriving DecidableEq, Repr

namespace Notification

/-- The texts of the direct messages to a user. -/
def directMessagesTo (user : UserId) (sent : List Notification) : List String :=
  sent.filterMap fun
    | directMessage recipient message _ => if recipient = user then some message else none
    | _ => none

/-- The lists that a user was told to load again. -/
def refreshedFor (user : UserId) (sent : List Notification) : List ListKind :=
  sent.flatMap fun
    | refresh recipient lists => if recipient = user then lists else []
    | _ => []

end Notification

end SharedTodo
