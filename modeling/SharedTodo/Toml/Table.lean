import SharedTodo.Config.Value

/-!
# Tables of TOML

A table comes into being under its own header, on the way to another header, or by a dotted key, and may
only be added to in the way it came into being: one under its own header is never opened again, and dotted
keys only enter tables that dotted keys have made or that are on the way to a header. No key is set twice.
-/

namespace SharedTodo.Toml

open Config (Value)

inductive Origin where
  /-- The table has a header of its own. -/
  | header
  /-- The table lies on the way to a header. -/
  | implied
  | dotted
  deriving DecidableEq, Repr

inductive Node where
  | value (value : Value)
  | table (origin : Origin) (entries : List (String × Node))
  /-- The tables under a repeated header; the last one is being filled. -/
  | tables (earlier : List (List (String × Node))) (last : List (String × Node))

abbrev Entries :=
  List (String × Node)

namespace Entries

/-- Puts a node in the place of what stands under a key. -/
def put (key : String) (node : Node) (entries : Entries) : Entries :=
  entries.map fun (k, old) => if k = key then (k, node) else (k, old)

/-- Changes the table at the end of a path. Tables that are missing on the way are made. -/
def within (byDots : Bool) (change : Origin → Entries → Option Entries) :
    List String → Origin → Entries → Option Entries
  | [], origin, entries => change origin entries
  | key :: path, _, entries =>
    match entries.lookup key with
    | none => do
      let origin := if byDots then Origin.dotted else .implied
      let inner ← within byDots change path origin []
      some (entries ++ [(key, .table origin inner)])
    | some (.value _) => none
    | some (.table origin inner) =>
      if byDots && origin = .header then none
      else (within byDots change path origin inner).map fun inner => entries.put key (.table origin inner)
    | some (.tables earlier last) =>
      (within byDots change path .header last).map fun last => entries.put key (.tables earlier last)

/-- Sets a key that is new in a table. -/
def add (key : String) (node : Node) (entries : Entries) : Option Entries :=
  if (entries.lookup key).isSome then none else some (entries ++ [(key, node)])

/-- Sets what a dotted key names. A key without dots is set in any table, and the last table of a dotted key
is one that dotted keys have made. -/
def assign (path : List String) (key : String) (value : Value) (entries : Entries) : Option Entries :=
  within true
    (fun origin entries =>
      if path = [] ∨ origin = .dotted then entries.add key (.value value) else none)
    path .header entries

/-- Opens the table under a header. -/
def openTable (path : List String) (key : String) (entries : Entries) : Option Entries :=
  within false
    (fun _ entries =>
      match entries.lookup key with
      | none => some (entries ++ [(key, .table .header [])])
      | some (.table .implied inner) => some (entries.put key (.table .header inner))
      | some _ => none)
    path .header entries

/-- Opens one more table under a repeated header. -/
def openItem (path : List String) (key : String) (entries : Entries) : Option Entries :=
  within false
    (fun _ entries =>
      match entries.lookup key with
      | none => some (entries ++ [(key, .tables [] [])])
      | some (.tables earlier last) => some (entries.put key (.tables (earlier ++ [last]) []))
      | some _ => none)
    path .header entries

/-- Sets what a dotted key names in the table that the last header has opened. -/
def assignIn (section_ : List String) (path : List String) (key : String) (value : Value)
    (entries : Entries) : Option Entries :=
  within false (fun _ entries => entries.assign path key value) section_ .header entries

end Entries

mutual

def Node.toValue : Node → Value
  | .value value => value
  | .table _ entries => .table (entryValues entries)
  | .tables earlier last => .list (itemValues earlier ++ [.table (entryValues last)])

def entryValues : List (String × Node) → List (String × Value)
  | [] => []
  | (key, node) :: rest => (key, node.toValue) :: entryValues rest

def itemValues : List (List (String × Node)) → List Value
  | [] => []
  | item :: rest => .table (entryValues item) :: itemValues rest

end

end SharedTodo.Toml
