import SharedTodo.Identifier.Names
import SharedTodo.Time.Instant

/-!
# Issues, drafts and edits

An issue is the record of one todo. A shared todo has two records with different identifiers; what ties
them together stands in the lists of their holders, never in the records.

Messages are trimmed and never blank. A blank description is an absent one; any other is kept as typed.
-/

namespace SharedTodo

/-- A message without the blanks around it. -/
def messageOfInput (raw : String) : Except InputError String :=
  if Text.isBlankText raw then .error .emptyMessage else .ok (Text.trim raw)

def descriptionOfInput (raw : String) : Option String :=
  if Text.isBlankText raw then none else some raw

structure Draft where
  message : String
  description : Option String
  post : Option PostId
  deriving DecidableEq, Repr

def Draft.ofMessage (raw : String) : Except InputError Draft :=
  (messageOfInput raw).map fun message => ⟨message, none, none⟩

def Draft.withDescription (draft : Draft) (raw : String) : Draft :=
  { draft with description := descriptionOfInput raw }

def Draft.withPost (draft : Draft) (post : PostId) : Draft :=
  { draft with post := some post }

/-- New content for an issue. -/
structure Edit where
  message : String
  description : Option String
  deriving DecidableEq, Repr

def Edit.ofInput (message description : String) : Except InputError Edit :=
  (messageOfInput message).map fun message => ⟨message, descriptionOfInput description⟩

structure Issue where
  id : IssueId
  message : String
  description : Option String
  post : Option PostId
  createdAt : Time.Instant
  deriving DecidableEq

namespace Issue

def ofDraft (draft : Draft) (id : IssueId) (now : Time.Instant) : Issue :=
  ⟨id, draft.message, draft.description, draft.post, now⟩

/-- The other half of a shared todo: the same content under another identifier. -/
def counterpart (issue : Issue) (id : IssueId) : Issue :=
  { issue with id }

def edited (issue : Issue) (edit : Edit) : Issue :=
  { issue with message := edit.message, description := edit.description }

end Issue

end SharedTodo
