import SharedTodo.Issue.Listed

/-!
# Lists as text

A list in a message has one numbered line for each todo. A todo whose counterpart is known by name says who
that is: the receiver in the list of sent todos, the sender elsewhere.
-/

namespace SharedTodo

namespace ListKind

def heading : ListKind → String
  | my => "Todo List:"
  | inbox => "Received Todos:"
  | out => "Sent Todos:"

/-- How a todo of the list relates to the user at its other end. -/
def relation : ListKind → String
  | out => "to"
  | my => "from"
  | inbox => "from"

end ListKind

namespace ListedIssue

/-- Who is at the other end; nothing for an empty name. -/
def party (kind : ListKind) : Option String → String
  | none => ""
  | some name => if name = "" then "" else s!" ({kind.relation} @{name})"

def line (kind : ListKind) (number : Nat) (item : ListedIssue) : String :=
  let party := party kind item.foreignName
  s!"{number}. {item.issue.message}{party}\n"

/-- The lines of a list, numbered from some number on. -/
def lines (kind : ListKind) : Nat → List ListedIssue → String
  | _, [] => ""
  | number, item :: items => item.line kind number ++ lines kind (number + 1) items

def emptyText : String :=
  "Nothing to do!"

def listText (kind : ListKind) (items : List ListedIssue) : String :=
  if items.isEmpty then emptyText else lines kind 1 items

/-- A list under its heading. -/
def headedText (kind : ListKind) (items : List ListedIssue) : String :=
  kind.heading ++ "\n\n" ++ listText kind items

end ListedIssue

end SharedTodo
