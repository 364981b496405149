import SharedTodo.Identifier.Names
import SharedTodo.Table
import SharedTodo.Text.Ascii

/-!
# The user directory and the name cache

The directory knows users by identifier and by username; a username is looked for without blanks and signs
`@` in front and in any case. The cache holds names that were looked up before. It never holds more than its
capacity, which is at least one: a new name that would not fit clears it first.
-/

namespace SharedTodo

abbrev Directory :=
  Table UserId Profile

namespace Directory

def register (directory : Directory) (profile : Profile) : Directory :=
  directory.insert profile.id profile

/-- A username as it is looked for. -/
def wanted (username : String) : String :=
  String.ofList ((Text.trimList username.toList).dropWhile fun c => c = '@')

/-- The first user whose name it is. -/
def findByUsername (directory : Directory) (username : String) : Option Profile :=
  (directory.entries.map Prod.snd).find? fun profile =>
    Text.sameFolded profile.username (wanted username)

end Directory

structure NameCache where
  capacity : Nat
  names : Table UserId String

namespace NameCache

def ofCapacity (capacity : Nat) : NameCache :=
  ⟨max capacity 1, .empty⟩

def find? (cache : NameCache) (user : UserId) : Option String :=
  cache.names.find? user

def size (cache : NameCache) : Nat :=
  cache.names.size

def remember (cache : NameCache) (user : UserId) (name : String) : NameCache :=
  let kept :=
    if cache.capacity ≤ cache.names.size ∧ ¬ cache.names.contains user then .empty else cache.names
  { cache with names := kept.insert user name }

def forget (cache : NameCache) (user : UserId) : NameCache :=
  { cache with names := cache.names.erase user }

end NameCache

end SharedTodo
