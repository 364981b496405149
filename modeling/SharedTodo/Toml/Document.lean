import SharedTodo.Toml.Scalar
import SharedTodo.Toml.Table
import SharedTodo.Toml.Text

/-!
# Documents of TOML

A document is a sequence of lines: headers, keys with their values, comments and blank lines. Lists may run
over several lines; tables in braces may not. `Toml.read` gives the table that a document describes, or
nothing for a text that is no document.
-/

namespace SharedTodo.Toml

open Config (Value)

/-! ## Values -/

mutual

/-- A value; `depth` lists and tables may still be opened in it. -/
def readValue : Nat → Nat → List Char → Option (Value × List Char)
  | 0, _, _ => none
  | fuel + 1, depth, cs =>
    match cs with
    | '"' :: _ => (readText cs).map fun (text, cs) => (.text text, cs)
    | '\'' :: _ => (readText cs).map fun (text, cs) => (.text text, cs)
    | '[' :: cs =>
      if depth = 0 then none else (readItems fuel (depth - 1) cs).map fun (items, cs) => (.list items, cs)
    | '\x7b' :: cs =>
      if depth = 0 then none
      else
        match skipSpaces cs with
        | '\x7d' :: cs => some (.table [], cs)
        | cs => (readPairs fuel (depth - 1) [] cs).map fun (entries, cs) => (.table (entryValues entries), cs)
    | _ => readScalar cs

/-- The items of a list, up to its bracket. -/
def readItems : Nat → Nat → List Char → Option (List Value × List Char)
  | 0, _, _ => none
  | fuel + 1, depth, cs =>
    match skipLines (cs.length + 1) cs with
    | ']' :: cs => some ([], cs)
    | cs => do
      let (item, cs) ← readValue fuel depth cs
      match skipLines (cs.length + 1) cs with
      | ',' :: cs =>
        let (items, cs) ← readItems fuel depth cs
        some (item :: items, cs)
      | ']' :: cs => some ([item], cs)
      | _ => none

/-- The pairs of a table in braces, up to its brace. -/
def readPairs : Nat → Nat → Entries → List Char → Option (Entries × List Char)
  | 0, _, _, _ => none
  | fuel + 1, depth, entries, cs => do
    let ((path, key), cs) ← readPath cs
    match cs with
    | '=' :: cs =>
      let (value, cs) ← readValue fuel depth (skipSpaces cs)
      let entries ← entries.assign path key value
      match skipSpaces cs with
      | ',' :: cs => readPairs fuel depth entries cs
      | '\x7d' :: cs => some (entries, cs)
      | _ => none
    | _ => none

end

/-! ## Lines -/

/-- What the lines so far have said, and the header that is open. -/
structure Progress where
  section_ : List String
  entries : Entries

def readItemHeader (progress : Progress) (cs : List Char) : Option (Progress × List Char) := do
  let ((path, key), cs) ← readPath cs
  match cs with
  | ']' :: ']' :: cs => some (⟨path ++ [key], ← progress.entries.openItem path key⟩, cs)
  | _ => none

def readHeader (progress : Progress) (cs : List Char) : Option (Progress × List Char) := do
  let ((path, key), cs) ← readPath cs
  match cs with
  | ']' :: cs => some (⟨path ++ [key], ← progress.entries.openTable path key⟩, cs)
  | _ => none

def readPair (progress : Progress) (cs : List Char) : Option (Progress × List Char) := do
  let ((path, key), cs) ← readPath cs
  match cs with
  | '=' :: cs =>
    let cs := skipSpaces cs
    let (value, cs) ← readValue (2 * cs.length + 2) deepest cs
    let entries ← progress.entries.assignIn progress.section_ path key value
    some ({ progress with entries }, cs)
  | _ => none

/-- One line without its end. -/
def readLine (progress : Progress) (cs : List Char) : Option (Progress × List Char) :=
  match skipSpaces cs with
  | [] => some (progress, [])
  | '#' :: cs => some (progress, '#' :: cs)
  | '\n' :: cs => some (progress, '\n' :: cs)
  | '\r' :: cs => some (progress, '\r' :: cs)
  | '[' :: '[' :: cs => readItemHeader progress cs
  | '[' :: cs => readHeader progress cs
  | cs => readPair progress cs

def readAll : Nat → Progress → List Char → Option Entries
  | 0, _, _ => none
  | _ + 1, progress, [] => some progress.entries
  | fuel + 1, progress, cs => do
    let (progress, cs) ← readLine progress cs
    let cs ← readLineEnd cs
    readAll fuel progress cs

/-- A byte order mark in front of a document is no part of it. -/
def dropMark : List Char → List Char
  | c :: cs => if c.toNat = 0xFEFF then cs else c :: cs
  | [] => []

/-- The table that a document describes. -/
def read (document : String) : Option Value :=
  let cs := dropMark document.toList
  (readAll (cs.length + 1) ⟨[], []⟩ cs).map fun entries => .table (entryValues entries)

end SharedTodo.Toml
