import SharedTodo.Command.Basic

/-!
# The usage text

What a user reads who asks for help or types an unknown command.
-/

namespace SharedTodo.Command

def usage : String :=
  "Available commands:

add [message]
\tAdds a todo.

\texample: /todo add Don't forget to be awesome

list
\tLists your todo list.

list [listName]
\tLists a specific list.

\texample: /todo list in
\texample: /todo list out
\texample: /todo list my (same as /todo list)

pop
\tRemoves the todo at the top of your list.

send [user] [message]
\tSends a todo to a specified user.

\texample: /todo send @someone Hello!

settings summary [on, off]
\tSets your preference for the daily reminder.

\texample: /todo settings summary on

settings allow_incoming_task_requests [on, off]
\tAllows or blocks todos sent to you by other users.

\texample: /todo settings allow_incoming_task_requests on

help
\tDisplays this usage text.
"

end SharedTodo.Command
