/-!
# Unusable input

The ways in which a text that a user typed cannot become a value of the todo domain.
-/

namespace SharedTodo

inductive InputError where
  | emptyMessage
  | emptyUserId
  | emptyPostId
  | invalidIssueId (raw : String)
  deriving DecidableEq, Repr

def InputError.message : InputError → String
  | emptyMessage => "todo message must not be empty"
  | emptyUserId => "user identifier must not be empty"
  | emptyPostId => "post identifier must not be empty"
  | invalidIssueId raw => s!"invalid issue identifier '{raw}'"

end SharedTodo
