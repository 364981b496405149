import SharedTodo.Lists.Entry
import SharedTodo.Lists.Kind

/-!
# The lists of one user

The three lists are kept as one document. Entries are found, removed and moved by their issue; a stored
document may name an issue twice, and then the first entry counts, in the order own, received, sent.

Only `push` looks at all three lists before it adds: it refuses an issue that is already there. Removing
gives the place at which `find` finds the entry (`remove_eq_some_iff`), and what an operation does to the
list it works on leaves the other two as they are (`list_withList_of_ne`).
-/

namespace SharedTodo

structure UserLists where
  my : List Entry
  inbox : List Entry
  out : List Entry
  deriving DecidableEq, Repr

/-- The place of an entry in a user's lists. -/
structure Located where
  list : ListKind
  position : Nat
  entry : Entry
  deriving DecidableEq, Repr

namespace UserLists

def empty : UserLists :=
  ⟨[], [], []⟩

def list (lists : UserLists) : ListKind → List Entry
  | .my => lists.my
  | .inbox => lists.inbox
  | .out => lists.out

def withList (lists : UserLists) (kind : ListKind) (entries : List Entry) : UserLists :=
  match kind with
  | .my => { lists with my := entries }
  | .inbox => { lists with inbox := entries }
  | .out => { lists with out := entries }

/-- All entries, in the order in which they are looked for. -/
def entries (lists : UserLists) : List Entry :=
  lists.my ++ lists.inbox ++ lists.out

def isEmpty (lists : UserLists) : Bool :=
  lists.entries.isEmpty

/-! ## Looking up -/

/-- Whether an entry names an issue. -/
def names (id : IssueId) (entry : Entry) : Bool :=
  entry.id = id

def position (lists : UserLists) (kind : ListKind) (id : IssueId) : Option Nat :=
  (lists.list kind).findIdx? (names id)

def findIn (lists : UserLists) (kind : ListKind) (id : IssueId) : Option Located :=
  (lists.position kind id).bind fun position =>
    ((lists.list kind).find? (names id)).map fun entry => ⟨kind, position, entry⟩

def find (lists : UserLists) (id : IssueId) : Option Located :=
  ListKind.all.findSome? fun kind => lists.findIn kind id

/-- The entry of an issue, provided that it links to an issue of `owner`. -/
def findLinked (lists : UserLists) (id : IssueId) (owner : UserId) (ownerIssue : IssueId) :
    Option Located :=
  (lists.find id).filter fun located => located.entry.linksTo owner ownerIssue

/-! ## Changing -/

/-- Adds an entry at the end of a list; `none` when its issue is already in one of the lists. -/
def push (lists : UserLists) (kind : ListKind) (entry : Entry) : Option UserLists :=
  match lists.find entry.id with
  | some _ => none
  | none => some (lists.withList kind (lists.list kind ++ [entry]))

/-- The lists after an attempt to add an entry. -/
def pushed (lists : UserLists) (kind : ListKind) (entry : Entry) : UserLists :=
  (lists.push kind entry).getD lists

def popFront (lists : UserLists) (kind : ListKind) : Option (Entry × UserLists) :=
  match lists.list kind with
  | [] => none
  | entry :: rest => some (entry, lists.withList kind rest)

/-- Takes an issue's entry out of one list. -/
def erase (lists : UserLists) (kind : ListKind) (id : IssueId) : UserLists :=
  lists.withList kind ((lists.list kind).eraseP (names id))

def remove (lists : UserLists) (id : IssueId) : Option (Located × UserLists) :=
  (lists.find id).map fun located => (located, lists.erase located.list id)

def removeFrom (lists : UserLists) (kind : ListKind) (id : IssueId) : Option (Entry × UserLists) :=
  ((lists.list kind).find? (names id)).map fun entry => (entry, lists.erase kind id)

/-- Moves an issue's entry to the head of a list; `none` when it is not in that list. -/
def moveToFront (lists : UserLists) (kind : ListKind) (id : IssueId) : Option UserLists :=
  (lists.removeFrom kind id).map fun (entry, rest) => rest.withList kind (entry :: rest.list kind)

/-! ## Laws of the three lists -/

theorem list_withList_self (lists : UserLists) (kind : ListKind) (entries : List Entry) :
    (lists.withList kind entries).list kind = entries := by
  cases kind <;> rfl

theorem list_withList_of_ne (lists : UserLists) {kind other : ListKind} (entries : List Entry)
    (h : other ≠ kind) : (lists.withList kind entries).list other = lists.list other := by
  cases kind <;> cases other <;> first | rfl | exact absurd rfl h

theorem withList_list (lists : UserLists) (kind : ListKind) :
    lists.withList kind (lists.list kind) = lists := by
  cases kind <;> rfl

theorem mem_entries {lists : UserLists} {entry : Entry} :
    entry ∈ lists.entries ↔ ∃ kind, entry ∈ lists.list kind := by
  constructor
  · intro h
    rcases List.mem_append.1 h with h | h
    · rcases List.mem_append.1 h with h | h
      · exact ⟨.my, h⟩
      · exact ⟨.inbox, h⟩
    · exact ⟨.out, h⟩
  · rintro ⟨kind, h⟩
    cases kind <;> simp_all [entries, list]

theorem isEmpty_iff {lists : UserLists} : lists.isEmpty = true ↔ lists = empty := by
  obtain ⟨my, inbox, out⟩ := lists
  simp [isEmpty, entries, empty]

theorem remove_eq_some_iff {lists rest : UserLists} {id : IssueId} {located : Located} :
    lists.remove id = some (located, rest) ↔
      lists.find id = some located ∧ rest = lists.erase located.list id := by
  simp only [remove, Option.map_eq_some_iff, Prod.mk.injEq]
  constructor
  · rintro ⟨_, hfind, rfl, rfl⟩
    exact ⟨hfind, rfl⟩
  · rintro ⟨hfind, rfl⟩
    exact ⟨located, hfind, rfl, rfl⟩

end UserLists

end SharedTodo
