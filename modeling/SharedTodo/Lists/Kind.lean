import SharedTodo.Text.Ascii
import SharedTodo.Text.Blank

/-!
# The three lists

Every user has a list of their own todos, one of todos received and not yet accepted, and one of todos
sent. An entry is looked for in this order. List names are read in any case and with blanks around them.
-/

namespace SharedTodo

inductive ListKind where
  | my
  | inbox
  | out
  deriving DecidableEq, Repr, Inhabited

namespace ListKind

/-- All lists, in the order in which an entry is looked for. -/
def all : List ListKind :=
  [my, inbox, out]

def name : ListKind → String
  | my => "my"
  | inbox => "in"
  | out => "out"

def ofName? (name : String) : Option ListKind :=
  all.find? fun kind => kind.name = name

/-- The list that a typed name means. -/
def ofInput? (raw : String) : Option ListKind :=
  ofName? (Text.lower (Text.trim raw))

def unknownMessage (raw : String) : String :=
  s!"unknown list: {raw}"

theorem mem_all (kind : ListKind) : kind ∈ all := by
  cases kind <;> decide

theorem ofName?_name (kind : ListKind) : ofName? kind.name = some kind := by
  cases kind <;> decide

end ListKind

end SharedTodo
