import SharedTodo.Directory
import SharedTodo.Documents
import SharedTodo.Request.Basic

/-!
# Request bodies

A body is a JSON object; a blank one counts as empty. Missing fields are empty texts, zero or false, and
unknown ones are ignored. A list that has no known name means the own one.
-/

namespace SharedTodo.Request

open Json

/-! ## Fields -/

def textField (name : String) : Field :=
  .defaulting name Codec.text ""

structure AddBody where
  message : String
  description : String
  receiver : String
  post : String

def AddBody.codec : Codec AddBody :=
  (Record.codec "struct AddBody"
    [textField "message", textField "description", textField "send_to", textField "post_id"]).mapped
    (fun (message, description, receiver, post, ()) => ⟨message, description, receiver, post⟩)
    (fun body => (body.message, body.description, body.receiver, body.post, ()))

structure ListBody where
  list : String
  reminder : Bool
  offset : TimezoneOffset

def ListBody.codec : Codec ListBody :=
  (Record.codec "struct ListBody"
    [textField "list", .defaulting "reminder" Codec.flag false,
      .defaulting "timezone_offset" TimezoneOffset.codec ⟨0⟩]).mapped
    (fun (list, reminder, offset, ()) => ⟨list, reminder, offset⟩)
    (fun body => (body.list, body.reminder, body.offset, ()))

structure EditBody where
  id : String
  message : String
  description : String

def EditBody.codec : Codec EditBody :=
  (Record.codec "struct EditBody" [textField "id", textField "message", textField "description"]).mapped
    (fun (id, message, description, ()) => ⟨id, message, description⟩)
    (fun body => (body.id, body.message, body.description, ()))

structure IdBody where
  id : String

def IdBody.codec : Codec IdBody :=
  (Record.codec "struct IdBody" [textField "id"]).mapped
    (fun (id, ()) => ⟨id⟩)
    (fun body => (body.id, ()))

structure ReassignBody where
  id : String
  newOwner : String

def ReassignBody.codec : Codec ReassignBody :=
  (Record.codec "struct ChangeAssignmentBody" [textField "id", textField "send_to"]).mapped
    (fun (id, newOwner, ()) => ⟨id, newOwner⟩)
    (fun body => (body.id, body.newOwner, ()))

/-! ## Decoding -/

def readBody {α : Type} (codec : Codec α) (body : String) : Except Failure α :=
  (codec.decode (if Text.isBlankText body then "\x7b\x7d" else body)).mapError .unreadable

def readId (raw : String) : Except Failure IssueId :=
  (IssueId.ofInput raw).mapError .input

def draftOfBody (body : AddBody) : Except Failure Draft := do
  let draft ← (Draft.ofMessage body.message).mapError .input
  let draft := draft.withDescription body.description
  if Text.isBlankText body.post then .ok draft
  else (PostId.ofInput body.post).mapError .input |>.map draft.withPost

def receiverOfBody (body : AddBody) : Option String :=
  let receiver := Directory.wanted body.receiver
  if receiver = "" then none else some receiver

def decodeAdd (body : String) : Except Failure Request := do
  let body ← readBody AddBody.codec body
  let draft ← draftOfBody body
  .ok (add draft (receiverOfBody body))

def decodeList (body : String) : Except Failure Request := do
  let body ← readBody ListBody.codec body
  .ok (list ((ListKind.ofInput? body.list).getD .my) body.reminder body.offset)

def decodeEdit (body : String) : Except Failure Request := do
  let body ← readBody EditBody.codec body
  let id ← readId body.id
  let edit ← (Edit.ofInput body.message body.description).mapError .input
  .ok (.edit id edit)

def decodeId (body : String) : Except Failure IssueId := do
  let body ← readBody IdBody.codec body
  readId body.id

def decodeReassign (body : String) : Except Failure Request := do
  let body ← readBody ReassignBody.codec body
  let id ← readId body.id
  let newOwner := Directory.wanted body.newOwner
  if newOwner = "" then .error .noUser else .ok (reassign id newOwner)

def decodeKind (body : String) : Kind → Except Failure Request
  | .add => decodeAdd body
  | .list => decodeList body
  | .edit => decodeEdit body
  | .complete => (decodeId body).map complete
  | .accept => (decodeId body).map accept
  | .remove => (decodeId body).map remove
  | .bump => (decodeId body).map bump
  | .reassign => decodeReassign body

def decode (name body : String) : Except Failure Request :=
  match Kind.ofName? name with
  | some kind => decodeKind body kind
  | none => .error (.unknownName name)

/-! ## Answers -/

/-- The form in which a client receives a failure. -/
def Failure.codecFields : List Field :=
  [.required "status" Codec.text, .required "error" Codec.text, .required "details" Codec.text]

def Failure.json (failure : Failure) : String :=
  String.ofList (Record.write codecFields (failure.status.name, failure.title, failure.details, ()))

def Response.json : Response → String
  | issues items => ListedIssue.codec.array.encode items
  | done => "null"

end SharedTodo.Request
