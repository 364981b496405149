import SharedTodo.Delivery
import SharedTodo.Exchange.Change
import SharedTodo.Exchange.Create
import SharedTodo.Exchange.Finish
import SharedTodo.Exchange.Listing
import SharedTodo.Exchange.Reassign
import SharedTodo.Issue.ListText
import SharedTodo.Preferences.Stored
import SharedTodo.Request.Body

/-!
# Handled requests

A request does one operation on todos and then tells the users it concerns: whose lists have changed, and in
a direct message what the caller did.
-/

namespace SharedTodo.Request

open Exchange (Limits)

/-- Handles a request, up to its response. -/
abbrev Handler :=
  Program Failure Response

def act {α : Type} (aim : Aim) (operation : Exchange.Operation α) : Program Failure α :=
  operation.mapError (.operation aim)

def findUser (username : String) : Program Failure Profile := do
  match ← Program.perform (.findByUsername username) with
  | .ok (some profile) => pure profile
  | .ok none => .fail (.unknownUser username)
  | .error failure => .fail (.directory failure)

/-! ## New todos -/

def handleAdd (limits : Limits) (user : UserId) (draft : Draft) : Handler := do
  let _ ← act .add (Exchange.add limits user draft)
  Delivery.refresh user [.my]
  let name ← Naming.resolve user
  Delivery.reply draft.post s!"@{name} added a todo attached to this thread" draft.message
  pure .done

def sendTo (limits : Limits) (user : UserId) (draft : Draft) (receiver : Profile) : Handler := do
  let prefs ← PreferenceStore.loadOrDefault receiver.id
  if ¬ prefs.allowIncoming then
    Delivery.directMessage user s!"@{receiver.username} is blocking todo requests."
    pure .done
  else
    let issue ← act .send (Exchange.send limits user receiver.id draft)
    Delivery.refresh user [.out]
    Delivery.refresh receiver.id [.inbox]
    let name ← Naming.resolve user
    Delivery.offer receiver.id s!"You have received a new todo from @{name}" draft.message issue
    Delivery.reply draft.post s!"@{name} sent @{receiver.username} a todo attached to this thread"
      draft.message
    pure .done

def handleSend (limits : Limits) (user : UserId) (draft : Draft) (username : String) : Handler := do
  let receiver ← findUser username
  if receiver.id = user then handleAdd limits user draft else sendTo limits user draft receiver

/-! ## Lists -/

/-- Sends the daily reminder if it can be claimed. -/
def remind (limits : Limits) (user : UserId) (kind : ListKind) (items : List ListedIssue)
    (offset : TimezoneOffset) : Program Failure Unit := do
  match ← (PreferenceStore.claimReminder limits.updates user offset).attempt with
  | .ok true =>
    Delivery.directMessage user ("Daily Reminder:\n\n" ++ ListedIssue.listText kind items)
  | .ok false => pure ()
  | .error _ => pure ()

def handleList (limits : Limits) (user : UserId) (kind : ListKind) (reminder : Bool)
    (offset : TimezoneOffset) : Handler := do
  let items ← act .list (Exchange.listing user kind)
  if reminder ∧ items ≠ [] then remind limits user kind items offset
  pure (.issues items)

/-! ## Changes -/

def handleEdit (limits : Limits) (user : UserId) (id : IssueId) (edit : Edit) : Handler := do
  let edited ← act .edit (Exchange.edit limits user id edit)
  Delivery.refresh user [edited.list]
  match edited.foreignUser with
  | none => pure .done
  | some other =>
    Delivery.refresh other (if edited.list = .out then [.my, .inbox] else [.out])
    let name ← Naming.resolve user
    Delivery.directMessage other
      s!"@{name} modified a todo.\nBefore:\n{edited.oldMessage}\nAfter:\n{edit.message}"
    pure .done

/-- Tells the other party of a todo that it is gone: a sender in one way, a receiver in another. -/
def tellOther (bySender : Bool) (receiverLists : List ListKind) (toReceiver toSender : String) :
    Option UserId → Program Failure Unit
  | none => pure ()
  | some other =>
    if bySender then do
      Delivery.refresh other receiverLists
      Delivery.directMessage other toReceiver
    else do
      Delivery.refresh other [.out]
      Delivery.directMessage other toSender

def handleComplete (limits : Limits) (user : UserId) (id : IssueId) : Handler := do
  let completed ← act .complete (Exchange.complete limits user id)
  Delivery.refresh user [completed.list]
  let name ← Naming.resolve user
  let message := completed.issue.message
  Delivery.reply completed.issue.post s!"@{name} completed a todo attached to this thread" message
  tellOther (completed.list = .out) [.my, .inbox] s!"@{name} completed a todo they sent you: {message}"
    s!"@{name} completed a todo you sent: {message}" completed.foreignUser
  pure .done

def handleRemove (limits : Limits) (user : UserId) (id : IssueId) : Handler := do
  let removed ← act .remove (Exchange.remove limits user id)
  Delivery.refresh user [removed.list]
  let name ← Naming.resolve user
  let message := removed.issue.message
  Delivery.reply removed.issue.post s!"@{name} removed a todo attached to this thread" message
  tellOther removed.isSender [.inbox, .my] s!"@{name} cancelled a todo they sent you: {message}"
    s!"@{name} declined a todo you sent: {message}" removed.foreignUser
  pure .done

def handleAccept (limits : Limits) (user : UserId) (id : IssueId) : Handler := do
  let accepted ← act .accept (Exchange.accept limits user id)
  Delivery.refresh user [.my, .inbox]
  match accepted.foreignUser with
  | none => pure .done
  | some sender =>
    Delivery.refresh sender [.out]
    let name ← Naming.resolve user
    Delivery.directMessage sender s!"@{name} accepted a todo you sent: {accepted.message}"
    pure .done

def handleBump (limits : Limits) (user : UserId) (id : IssueId) : Handler := do
  let bumped ← act .bump (Exchange.bump limits user id)
  Delivery.refresh bumped.receiver [.inbox]
  let name ← Naming.resolve user
  Delivery.offer bumped.receiver s!"@{name} bumped a todo they sent you." bumped.message
    bumped.foreignIssue
  pure .done

/-! ## Reassignment -/

def tellNewOwner (name : String) (newOwner : UserId) (message : String) :
    Option IssueId → Program Failure Unit
  | none => pure ()
  | some issue => do
    Delivery.refresh newOwner [.inbox]
    Delivery.offer newOwner s!"You have received a new todo from @{name}" message issue

def tellPrevious (name : String) (message : String) : Option UserId → Program Failure Unit
  | none => pure ()
  | some previous => do
    Delivery.refresh previous [.inbox, .my]
    Delivery.directMessage previous s!"@{name} removed you from the following todo:\n{message}"

def handleReassign (limits : Limits) (user : UserId) (id : IssueId) (username : String) : Handler := do
  let newOwner ← findUser username
  let reassigned ← act .reassign (Exchange.reassign limits id user newOwner.id)
  Delivery.refresh user [.my, .out]
  let name ← Naming.resolve user
  tellNewOwner name newOwner.id reassigned.message reassigned.newIssue
  tellPrevious name reassigned.message reassigned.previous
  pure .done

/-! ## All requests -/

def handle (limits : Limits) (user : UserId) : Request → Handler
  | add draft none => handleAdd limits user draft
  | add draft (some receiver) => handleSend limits user draft receiver
  | list kind reminder offset => handleList limits user kind reminder offset
  | .edit id content => handleEdit limits user id content
  | complete id => handleComplete limits user id
  | accept id => handleAccept limits user id
  | remove id => handleRemove limits user id
  | bump id => handleBump limits user id
  | reassign id newOwner => handleReassign limits user id newOwner

/-- Reads a request by name and body and handles it. -/
def handleNamed (limits : Limits) (user : UserId) (name body : String) : Handler := do
  let request ← Program.ofExcept (decode name body)
  handle limits user request

end SharedTodo.Request
