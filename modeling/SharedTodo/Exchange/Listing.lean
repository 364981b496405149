import SharedTodo.Exchange.Access
import SharedTodo.Issue.Listed

/-!
# Listing

A list shows the entries that have a record, in order and with their positions in the stored list. An entry
whose link is living also shows where its counterpart is and who holds it. The lists of a counterpart user
are loaded once for a whole listing.
-/

namespace SharedTodo.Exchange

/-- The lists of other users that a listing has loaded. -/
abbrev Loaded :=
  Table UserId UserLists

def loadOnce (user : UserId) (loaded : Loaded) : Operation (UserLists × Loaded) := do
  match loaded.find? user with
  | some lists => pure (lists, loaded)
  | none =>
    let lists ← loadLists user
    pure (lists, loaded.insert user lists)

/-- An entry that has a record, as its holder sees it. -/
def listEntry (viewer : UserId) (position : Nat) (entry : Entry) (issue : Issue) (loaded : Loaded) :
    Operation (ListedIssue × Loaded) := do
  let item := ListedIssue.unlinked issue position
  match entry.link with
  | none => pure (item, loaded)
  | some link =>
    let (lists, loaded) ← loadOnce link.user loaded
    match lists.findLinked link.issue viewer entry.id with
    | none => pure (item, loaded)
    | some located =>
      let name ← Naming.resolve link.user
      let item := { item with
        foreignList := some located.list
        foreignPosition := some located.position
        foreignUser := some link.user
        foreignName := some name }
      pure (item, loaded)

/-- Lists the entries from some position on. -/
def listFrom (viewer : UserId) : Nat → List Entry → Loaded → Operation (List ListedIssue)
  | _, [], _ => pure []
  | position, entry :: rest, loaded => do
    match ← loadIssue entry.id with
    | none => listFrom viewer (position + 1) rest loaded
    | some issue =>
      let (item, loaded) ← listEntry viewer position entry issue loaded
      let items ← listFrom viewer (position + 1) rest loaded
      pure (item :: items)

def listing (user : UserId) (kind : ListKind) : Operation (List ListedIssue) := do
  let lists ← loadLists user
  listFrom user 0 (lists.list kind) .empty

end SharedTodo.Exchange
