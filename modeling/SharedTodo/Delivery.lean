import SharedTodo.Program

/-!
# Telling users

Notifications are sent on a best-effort basis: a program goes on whether or not one is delivered.
-/

namespace SharedTodo.Delivery

variable {ε : Type}

def refresh (user : UserId) (lists : List ListKind) : Program ε Unit :=
  Program.perform (.notify (.refresh user lists))

def directMessage (user : UserId) (message : String) : Program ε Unit :=
  Program.perform (.notify (.directMessage user message none))

/-- A direct message with a todo that the user can act on. -/
def offer (user : UserId) (message : String) (todo : String) (issue : IssueId) : Program ε Unit :=
  Program.perform (.notify (.directMessage user message (some ⟨todo, issue⟩)))

/-- A reply in the thread that a todo came from, if it came from one. -/
def reply (post : Option PostId) (message todo : String) : Program ε Unit :=
  match post with
  | none => pure ()
  | some post => Program.perform (.notify (.reply post message todo))

end SharedTodo.Delivery
