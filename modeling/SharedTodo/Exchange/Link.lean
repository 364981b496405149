import SharedTodo.Exchange.Access

/-!
# Links between the halves of a todo

A link is living when the counterpart user lists the counterpart issue with a link back. Giving up an entry
dissolves its link: a counterpart that links back goes with its record; when there is no counterpart its
record goes; a counterpart that links elsewhere stays.
-/

namespace SharedTodo.Exchange

/-- What the counterpart user's lists hold for one half of a link. -/
inductive Half where
  /-- The counterpart linked back and was taken out. -/
  | removed
  | missing
  /-- The counterpart belongs to another link. -/
  | stale
  deriving DecidableEq, Repr

/-- Takes the counterpart out of the counterpart user's lists if it links back. -/
def takeCounterpart (owner : UserId) (own foreign : IssueId) (lists : UserLists) : UserLists × Half :=
  match lists.find foreign with
  | none => (lists, .missing)
  | some located =>
    if located.entry.linksTo owner own then (lists.erase located.list foreign, .removed)
    else (lists, .stale)

/-- Gives up the counterpart of an owner's entry; the counterpart user, if the link was living. -/
def dissolve (limits : Limits) (owner : UserId) (entry : Entry) : Operation (Option UserId) := do
  match entry.link with
  | none => pure none
  | some link =>
    match ← updateLists limits link.user fun lists =>
        .ok (takeCounterpart owner entry.id link.issue lists) with
    | .removed =>
      deleteIssue link.issue
      pure (some link.user)
    | .missing =>
      deleteIssue link.issue
      pure none
    | .stale => pure none

/-- The counterpart of an owner's entry, if the link is living. -/
def livingCounterpart (owner : UserId) (entry : Entry) : Operation (Option Link) := do
  match entry.link with
  | none => pure none
  | some link =>
    let lists ← loadLists link.user
    match lists.findLinked link.issue owner entry.id with
    | some _ => pure (some link)
    | none => pure none

end SharedTodo.Exchange
