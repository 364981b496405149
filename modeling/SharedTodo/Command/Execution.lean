import SharedTodo.Command.Usage
import SharedTodo.Delivery
import SharedTodo.Exchange.Create
import SharedTodo.Exchange.Finish
import SharedTodo.Exchange.Listing
import SharedTodo.Issue.ListText
import SharedTodo.Preferences.Stored

/-!
# Executed commands

A command does at most one operation on todos, then tells the users it concerns, and answers its caller with
a text. Failures become texts as well: those that the caller can mend are quoted, all others are answered in
general terms.
-/

namespace SharedTodo

/-! ## Texts of settings -/

namespace Setting

def value (setting : Setting) (prefs : Preferences) : Bool :=
  match setting with
  | summary => prefs.dailySummary
  | allowIncoming => prefs.allowIncoming

def description : Setting → Bool → String
  | summary, true => "Reminder setting is `on`. **You will receive a daily reminder.**"
  | summary, false => "Reminder setting is `off`. **You will not receive a daily reminder.**"
  | allowIncoming, true =>
    "Allow incoming task requests is `on`. **Other users can send you task requests that you can " ++
      "accept or decline.**"
  | allowIncoming, false =>
    "Allow incoming task requests is `off`. **Other users cannot send you task requests. They will " ++
      "see a message saying you don't accept task requests.**"

def confirmation : Setting → Bool → String
  | summary, true => "You will start receiving a daily summary."
  | summary, false => "You will stop receiving a daily summary."
  | allowIncoming, true => "Other users can send you task requests that you can accept or decline."
  | allowIncoming, false =>
    "Other users cannot send you task requests. They will see a message saying you don't accept " ++
      "task requests."

end Setting

namespace Command

open Exchange (Limits)

inductive Failure where
  | unreadable (error : CommandError)
  | operation (error : OperationError)
  deriving DecidableEq

instance : OfStorage Failure :=
  ⟨fun error => .operation (.storage error)⟩

def internalErrorReply : String :=
  "An unknown error occurred. Please talk to your system administrator for help."

def Failure.reply : Failure → String
  | unreadable error => s!"__Error: {error.message}.__\n\nRun `/todo help` to see usage."
  | operation error =>
    if error.isUserError then s!"__Error: {error.message}.__\n\nRun `/todo help` to see usage."
    else internalErrorReply

/-- Does an operation on todos. -/
def act {α : Type} (operation : Exchange.Operation α) : Program Failure α :=
  operation.mapError .operation

/-- A reply with the caller's own list below it, if that can be read. -/
def withOwnList (user : UserId) (reply : String) : Program Failure String := do
  match ← (Exchange.listing user .my).attempt with
  | .ok items => pure (reply ++ "\n\n" ++ ListedIssue.headedText .my items)
  | .error _ => pure reply

/-! ## The commands -/

def executeList (user : UserId) (kind : ListKind) : Program Failure String := do
  let items ← act (Exchange.listing user kind)
  Delivery.refresh user [.my, .out, .inbox]
  pure (ListedIssue.headedText kind items)

def draftOfMessage (message : String) : Program Failure Draft :=
  Program.ofExcept ((Draft.ofMessage message).mapError fun error => .operation (.rejected (.input error)))

def executeAdd (limits : Limits) (user : UserId) (message : String) : Program Failure String := do
  let draft ← draftOfMessage message
  let _ ← act (Exchange.add limits user draft)
  Delivery.refresh user [.my]
  withOwnList user "Added todo."

def nothingToPop : String :=
  "There are no todos to remove."

/-- Tells the sender of a todo that it has been removed from the head of a list. -/
def tellSender (name : String) (message : String) : Option UserId → Program Failure Unit
  | none => pure ()
  | some sender => do
    Delivery.refresh sender [.out]
    Delivery.directMessage sender s!"@{name} removed a todo you sent: {message}"

def reportPopped (user : UserId) (popped : Exchange.Popped) : Program Failure String := do
  let name ← Naming.resolve user
  let message := popped.issue.message
  tellSender name message popped.foreignUser
  Delivery.refresh user [.my]
  Delivery.reply popped.issue.post s!"@{name} popped a todo attached to this thread" message
  withOwnList user "Removed top todo."

def executePop (limits : Limits) (user : UserId) : Program Failure String := do
  match ← (Exchange.pop limits user).attempt with
  | .ok popped => reportPopped user popped
  | .error error => if error.isEmptyList then pure nothingToPop else .fail (.operation error)

def sendTo (limits : Limits) (user : UserId) (receiver : Profile) (message : String) :
    Program Failure String := do
  let prefs ← PreferenceStore.loadOrDefault receiver.id
  if ¬ prefs.allowIncoming then pure s!"@{receiver.username} is blocking todo requests."
  else
    let draft ← draftOfMessage message
    let issue ← act (Exchange.send limits user receiver.id draft)
    Delivery.refresh user [.out]
    Delivery.refresh receiver.id [.inbox]
    let name ← Naming.resolve user
    Delivery.offer receiver.id s!"You have received a new todo from @{name}" draft.message issue
    pure s!"Todo sent to @{receiver.username}."

def executeSend (limits : Limits) (user : UserId) (username message : String) :
    Program Failure String := do
  match ← Program.findByUsername username with
  | none => pure ("Please specify a valid user.\n\n" ++ usage)
  | some receiver =>
    if receiver.id = user then executeAdd limits user message
    else sendTo limits user receiver message

def executeShowSettings (user : UserId) : Program Failure String := do
  let prefs ← PreferenceStore.loadOrDefault user
  let summary := Setting.summary.description prefs.dailySummary
  let incoming := Setting.allowIncoming.description prefs.allowIncoming
  pure s!"Current settings:\n\n{summary}\n{incoming}"

def executeShowSetting (user : UserId) (setting : Setting) : Program Failure String := do
  let prefs ← PreferenceStore.loadOrDefault user
  pure (setting.description (setting.value prefs))

def executeSwitch (limits : Limits) (user : UserId) (setting : Setting) (on : Bool) :
    Program Failure String := do
  match setting with
  | .summary =>
    let _ ← (PreferenceStore.setDailySummary limits.updates user on).mapError ofStorage
    pure (setting.confirmation on)
  | .allowIncoming =>
    let _ ← (PreferenceStore.setAllowIncoming limits.updates user on).mapError ofStorage
    pure (setting.confirmation on)

/-! ## Replies -/

/-- Carries a command out. -/
def perform (limits : Limits) (user : UserId) : Command → Program Failure String
  | list kind => executeList user kind
  | add message => executeAdd limits user message
  | pop => executePop limits user
  | send receiver message => executeSend limits user receiver message
  | showSettings => executeShowSettings user
  | showSetting setting => executeShowSetting user setting
  | switch setting on => executeSwitch limits user setting on
  | help => pure usage

/-- Reads a line and carries it out; every failure becomes a reply. -/
def execute {ε : Type} (limits : Limits) (user : UserId) (line : String) : Program ε String := do
  match parse line with
  | .error error => pure (Failure.unreadable error).reply
  | .ok command =>
    match ← (command.perform limits user).attempt with
    | .ok reply => pure reply
    | .error failure => pure failure.reply

end Command

end SharedTodo
