import SharedTodo.Config.Value
import SharedTodo.Text.Blank
import SharedTodo.Toml.Text

/-!
# Environment variables as configuration

A variable counts if its name starts with `TASKLINK_` in any case. The rest of the name is a path of keys
without regard to case, with two underscores or a dot between them; a path with an empty key is ignored.

The text of a variable is read as a truth value, a text in double quotes with the escapes of TOML, a
character, a list in brackets, a table in braces, a number or a bare text. What starts like one of these and
does not go on like it, such as `trueish`, is none of them; a text that is none of them as a whole stands for
itself.

In a quoted text with escapes, the text before the first escape is cut to as many bytes as it has characters.
-/

namespace SharedTodo.Config.Variable

/-! ## Names -/

def namespaceStart : List Char :=
  "tasklink_".toList

/-- Two underscores, from the left, become a dot. -/
def dotted : List Char → List Char
  | '_' :: '_' :: cs => '.' :: dotted cs
  | c :: cs => c :: dotted cs
  | [] => []

/-- The keys between dots. -/
def keysOf (cs : List Char) : List (List Char) :=
  match cs with
  | [] => [[]]
  | '.' :: cs => [] :: keysOf cs
  | c :: cs =>
    match keysOf cs with
    | [] => [[c]]
    | key :: keys => (c :: key) :: keys

/-- The path that a variable sets, if it is a setting. -/
def path? (name : String) : Option (List String) :=
  let name := Text.trimList name.toList
  if Text.lowerList (name.take namespaceStart.length) = namespaceStart then
    let keys := keysOf (Text.trimList (dotted (name.drop namespaceStart.length)))
    if keys.any List.isEmpty then none else some (keys.map fun key => String.ofList (Text.lowerList key))
  else none

/-! ## Values -/

def isSpace (c : Char) : Bool :=
  c = ' ' || c = '\t' || c = '\n' || c = '\r' || c.toNat = 12

def skip (cs : List Char) : List Char :=
  cs.dropWhile isSpace

def endsBare (c : Char) : Bool :=
  c = ',' || c = '\x7b' || c = '\x7d' || c = '[' || c = ']'

/-- Digits with at least one among them. -/
def isNumber (cs : List Char) : Bool :=
  !cs.isEmpty && cs.all Char.isDigit

def unsigned (cs : List Char) : List Char :=
  match cs with
  | '+' :: cs => cs
  | cs => cs

/-- The exponent of a fraction, or its absence. -/
def isExponent : List Char → Bool
  | [] => true
  | c :: cs =>
    (c = 'e' || c = 'E') &&
      match cs with
      | '-' :: cs => isNumber cs
      | cs => isNumber (unsigned cs)

/-- A number with a decimal point. -/
def isFraction (cs : List Char) : Bool :=
  let cs := match cs with
    | '-' :: cs => cs
    | cs => unsigned cs
  let whole := cs.takeWhile Char.isDigit
  match cs.dropWhile Char.isDigit with
  | '.' :: cs =>
    let decimals := cs.takeWhile Char.isDigit
    (!whole.isEmpty || !decimals.isEmpty) && isExponent (cs.dropWhile Char.isDigit)
  | _ => false

/-- An integer of 64 bits, with or without a sign. -/
def integer? (cs : List Char) : Option Int :=
  match cs with
  | '-' :: digits =>
    if isNumber digits ∧ Text.ofDigits digits ≤ 1 <<< 63 then some (-(Text.ofDigits digits : Int)) else none
  | cs =>
    let digits := unsigned cs
    if isNumber digits ∧ Text.ofDigits digits < UInt64.size then some (Text.ofDigits digits : Int) else none

def bare (cs : List Char) : Value :=
  let cs := Text.trimList cs
  if isFraction cs then .fraction
  else
    match integer? cs with
    | some n => .integer n
    | none => .text (String.ofList cs)

/-- The first characters that together have at most `size` bytes. -/
def withinBytes : Nat → List Char → List Char
  | _, [] => []
  | size, c :: cs => if c.utf8Size ≤ size then c :: withinBytes (size - c.utf8Size) cs else []

/-- The rest of a text in double quotes. -/
def readText (cs : List Char) : Option (String × List Char) := do
  let (text, rest) ← Toml.readBasic (cs.length + 1) cs
  let plain := cs.takeWhile fun c => c ≠ '"' && c ≠ '\\'
  let text :=
    match cs.drop plain.length with
    | '\\' :: _ => withinBytes plain.length plain ++ text.drop plain.length
    | _ => text
  some (String.ofList text, rest)

/-- A key of a table; single quotes are no quotes here. -/
def readKey : List Char → Option (String × List Char)
  | '"' :: cs => readText cs
  | '\'' :: _ => none
  | cs => Toml.readKey cs

mutual

def readValue : Nat → List Char → Option (Value × List Char)
  | 0, _ => none
  | fuel + 1, cs => do
    let (value, cs) ← (match skip cs with
      | 't' :: 'r' :: 'u' :: 'e' :: cs => some (.flag true, cs)
      | 'f' :: 'a' :: 'l' :: 's' :: 'e' :: cs => some (.flag false, cs)
      | '"' :: cs => (readText cs).map fun (text, cs) => (.text text, cs)
      | '[' :: cs => (readItems fuel cs).map fun (items, cs) => (.list items, cs)
      | '\x7b' :: cs => (readEntries fuel cs).map fun (entries, cs) => (.table entries, cs)
      | '\'' :: c :: '\'' :: cs => some (.char c, cs)
      | '\'' :: _ => none
      | cs => some (bare (cs.takeWhile fun c => !endsBare c), cs.dropWhile fun c => !endsBare c))
    some (value, skip cs)

/-- The items of a list, up to its bracket. -/
def readItems : Nat → List Char → Option (List Value × List Char)
  | 0, _ => none
  | _ + 1, ']' :: cs => some ([], cs)
  | fuel + 1, cs => do
    let (item, cs) ← readValue fuel cs
    match cs with
    | ',' :: cs =>
      let (items, cs) ← readItems fuel cs
      some (item :: items, cs)
    | ']' :: cs => some ([item], cs)
    | _ => none

/-- The entries of a table, up to its brace; a later one replaces an earlier one of the same key. -/
def readEntries : Nat → List Char → Option (List (String × Value) × List Char)
  | 0, _ => none
  | _ + 1, '\x7d' :: cs => some ([], cs)
  | fuel + 1, cs => do
    let (key, cs) ← readKey (skip cs)
    match skip cs with
    | '=' :: cs =>
      let (value, cs) ← readValue fuel cs
      match cs with
      | ',' :: cs =>
        let (entries, cs) ← readEntries fuel cs
        some (if (Value.entry? key entries).isSome then entries else (key, value) :: entries, cs)
      | '\x7d' :: cs => some ([(key, value)], cs)
      | _ => none
    | _ => none

end

/-- The value of a variable's text. -/
def value (text : String) : Value :=
  match readValue (2 * text.length + 2) text.toList with
  | some (value, []) => value
  | _ => .text text

/-- What all variables together say; a later one is laid over the earlier ones. -/
def valueOfAll (environment : List (String × String)) : Value :=
  environment.foldl
    (fun whole (name, text) =>
      match path? name with
      | some path => (Value.nested path (value text)).onto whole
      | none => whole)
    (.table [])

end SharedTodo.Config.Variable
