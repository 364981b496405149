/-!
# Configuration values

What a configuration source says, before anybody asks whether it makes sense. Sources are laid over one
another: tables are merged entry by entry, and any other new value takes the place of the old one.
-/

namespace SharedTodo.Config

inductive Value where
  | text (text : String)
  | char (c : Char)
  | flag (on : Bool)
  | integer (n : Int)
  /-- A number that is no integer; no setting takes one. -/
  | fraction
  | list (items : List Value)
  | table (entries : List (String × Value))

namespace Value

/-- Changes what stands under a key, which comes last if it is new. -/
def alter (key : String) (change : Option Value → Value) : List (String × Value) → List (String × Value)
  | [] => [(key, change none)]
  | (k, v) :: rest => if k = key then (k, change (some v)) :: rest else (k, v) :: alter key change rest

mutual

/-- A value laid over an older one. -/
def onto : Value → Value → Value
  | table new, table old => table (allOnto new old)
  | new, _ => new

/-- Entries laid over older ones, one after the other. -/
def allOnto : List (String × Value) → List (String × Value) → List (String × Value)
  | [], old => old
  | (key, value) :: rest, old =>
    allOnto rest (alter key (fun | some before => value.onto before | none => value) old)

end

/-- The value that says one thing, under a path of keys. -/
def nested : List String → Value → Value
  | [], value => value
  | key :: path, value => table [(key, nested path value)]

/-- What stands under a key of a table. -/
def entry? (key : String) (entries : List (String × Value)) : Option Value :=
  entries.lookup key

end Value

end SharedTodo.Config
