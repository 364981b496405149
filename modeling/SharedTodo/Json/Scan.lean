import SharedTodo.Json.Number
import SharedTodo.Json.Text

/-!
# Values that are passed over, or found where another was expected

`mismatch` says what stands where a value of some kind was expected. `skipValue` passes over a value of any
depth and checks no more than its form; `checkValue` reads it, so that it also refuses lone surrogates,
numbers that are too large, and nesting beyond a limit.

Both count down a fuel that starts above the length of the text; every value takes at least one character,
so it does not run out.
-/

namespace SharedTodo.Json

def isSpace (c : Char) : Bool :=
  c == ' ' || c == '\n' || c == '\t' || c == '\r'

def skipSpace (cs : List Char) : List Char :=
  cs.dropWhile isSpace

/-- Passes over the rest of `null`, `true` or `false`. -/
def word : List Char → List Char → Except Problem (List Char)
  | [], cs => .ok cs
  | _ :: _, [] => .error .endInValue
  | w :: ws, c :: cs => if c = w then word ws cs else .error .brokenWord

def wordNull : List Char := ['u', 'l', 'l']

def wordTrue : List Char := ['r', 'u', 'e']

def wordFalse : List Char := ['a', 'l', 's', 'e']

/-- Reads a number with its sign. -/
def readNumeral (cs : List Char) : Except Problem (Numeral × List Char) :=
  match cs with
  | '-' :: rest => Numeral.read true rest
  | _ => Numeral.read false cs

/-- What is wrong with a value where `expected` should stand. -/
def mismatch (expected : String) (cs : List Char) : Problem :=
  match skipSpace cs with
  | [] => .endInValue
  | 'n' :: rest => after (word wordNull rest) fun _ => .null
  | 't' :: rest => after (word wordTrue rest) fun _ => .flag true
  | 'f' :: rest => after (word wordFalse rest) fun _ => .flag false
  | '"' :: rest => after (Text.read rest) fun (s, _) => .text s
  | '[' :: _ => .wrongType .array expected
  | '{' :: _ => .wrongType .object expected
  | c :: rest =>
    if c = '-' ∨ c.isDigit then after (readNumeral (c :: rest)) fun (n, _) => n.found
    else .missingValue
where
  after {α : Type} (result : Except Problem α) (found : α → Found) : Problem :=
    match result with
    | .ok a => .wrongType (found a) expected
    | .error problem => problem

/-! ## Skipping -/

/-- Passes over a colon. -/
def colon (cs : List Char) : Except Problem (List Char) :=
  match skipSpace cs with
  | ':' :: rest => .ok rest
  | [] => .error .endInObject
  | _ => .error .missingColon

mutual

def skipValue : Nat → List Char → Except Problem (List Char)
  | 0, _ => .error .endInValue
  | fuel + 1, cs =>
    match skipSpace cs with
    | [] => .error .endInValue
    | 'n' :: rest => word wordNull rest
    | 't' :: rest => word wordTrue rest
    | 'f' :: rest => word wordFalse rest
    | '"' :: rest => Text.skip rest
    | '-' :: rest => Numeral.skip rest
    | '[' :: rest =>
      match skipSpace rest with
      | [] => .error .endInArray
      | ']' :: rest => .ok rest
      | rest => skipItems fuel rest
    | '{' :: rest =>
      match skipSpace rest with
      | [] => .error .endInObject
      | '}' :: rest => .ok rest
      | rest => skipMembers fuel rest
    | c :: rest => if c.isDigit then Numeral.skip (c :: rest) else .error .missingValue

/-- Passes over one item of an array and all that follow it. -/
def skipItems : Nat → List Char → Except Problem (List Char)
  | 0, _ => .error .endInValue
  | fuel + 1, cs =>
    match skipValue fuel cs with
    | .error problem => .error problem
    | .ok rest =>
      match skipSpace rest with
      | [] => .error .endInArray
      | ',' :: rest => skipItems fuel rest
      | ']' :: rest => .ok rest
      | _ => .error .missingArrayComma

/-- Passes over one member of an object and all that follow it. -/
def skipMembers : Nat → List Char → Except Problem (List Char)
  | 0, _ => .error .endInValue
  | fuel + 1, cs =>
    match skipSpace cs with
    | [] => .error .endInObject
    | '"' :: rest =>
      match Text.skip rest with
      | .error problem => .error problem
      | .ok rest =>
        match colon rest with
        | .error problem => .error problem
        | .ok rest =>
          match skipValue fuel rest with
          | .error problem => .error problem
          | .ok rest =>
            match skipSpace rest with
            | [] => .error .endInObject
            | ',' :: rest => skipMembers fuel rest
            | '}' :: rest => .ok rest
            | _ => .error .missingObjectComma
    | _ => .error .keyNotText

end

/-! ## Checking -/

/-- Nesting at which a value that is read is refused. -/
def depthLimit : Nat := 128

/-- What may follow a value in an array: another one, or the end. -/
def nextItem (cs : List Char) : Except Problem (Option (List Char)) :=
  match skipSpace cs with
  | [] => .error .endInArray
  | ']' :: _ => .ok none
  | ',' :: rest =>
    match skipSpace rest with
    | [] => .error .endInValue
    | ']' :: _ => .error .trailingComma
    | rest => .ok (some rest)
  | _ => .error .missingArrayComma

/-- The key at which a member starts, its opening quote passed over. -/
def keyStart (cs : List Char) : Except Problem (List Char) :=
  match cs with
  | '"' :: rest => .ok rest
  | _ => .error .keyNotText

/-- What may follow a member of an object: another one, given from its key on, or the end. -/
def nextMember (cs : List Char) : Except Problem (Option (List Char)) :=
  match skipSpace cs with
  | [] => .error .endInObject
  | '}' :: _ => .ok none
  | ',' :: rest =>
    match skipSpace rest with
    | [] => .error .endInValue
    | '}' :: _ => .error .trailingComma
    | rest => (keyStart rest).map some
  | _ => .error .missingObjectComma

/-- Closes an array in which no further value is wanted. -/
def endArray (cs : List Char) : Except Problem (List Char) :=
  match skipSpace cs with
  | [] => .error .endInArray
  | ']' :: rest => .ok rest
  | ',' :: rest =>
    match skipSpace rest with
    | ']' :: _ => .error .trailingComma
    | _ => .error .trailingText
  | _ => .error .trailingText

/-- Closes an object in which no further member is wanted. -/
def endObject (cs : List Char) : Except Problem (List Char) :=
  match skipSpace cs with
  | [] => .error .endInObject
  | '}' :: rest => .ok rest
  | ',' :: _ => .error .trailingComma
  | _ => .error .trailingText

mutual

/-- Reads a value of any kind inside `depth` more levels and forgets it. -/
def checkValue (depth : Nat) : Nat → List Char → Except Problem (List Char)
  | 0, _ => .error .endInValue
  | fuel + 1, cs =>
    match skipSpace cs with
    | [] => .error .endInValue
    | 'n' :: rest => word wordNull rest
    | 't' :: rest => word wordTrue rest
    | 'f' :: rest => word wordFalse rest
    | '"' :: rest => (Text.read rest).map Prod.snd
    | '[' :: rest =>
      if depth ≤ 1 then .error .tooDeep
      else
        match skipSpace rest with
        | [] => .error .endInArray
        | ']' :: rest => .ok rest
        | rest => checkItems (depth - 1) fuel rest
    | '{' :: rest =>
      if depth ≤ 1 then .error .tooDeep
      else
        match skipSpace rest with
        | [] => .error .endInObject
        | '}' :: rest => .ok rest
        | rest =>
          match keyStart rest with
          | .error problem => .error problem
          | .ok rest => checkMembers (depth - 1) fuel rest
    | c :: rest =>
      if c = '-' ∨ c.isDigit then (readNumeral (c :: rest)).map Prod.snd
      else .error .missingValue

def checkItems (depth : Nat) : Nat → List Char → Except Problem (List Char)
  | 0, _ => .error .endInValue
  | fuel + 1, cs =>
    match checkValue depth fuel cs with
    | .error problem => .error problem
    | .ok rest =>
      match nextItem rest with
      | .error problem => .error problem
      | .ok (some rest) => checkItems depth fuel rest
      | .ok none => endArray rest

def checkMembers (depth : Nat) : Nat → List Char → Except Problem (List Char)
  | 0, _ => .error .endInValue
  | fuel + 1, cs =>
    match Text.read cs with
    | .error problem => .error problem
    | .ok (_, rest) =>
      match colon rest with
      | .error problem => .error problem
      | .ok rest =>
        match checkValue depth fuel rest with
        | .error problem => .error problem
        | .ok rest =>
          match nextMember rest with
          | .error problem => .error problem
          | .ok (some rest) => checkMembers depth fuel rest
          | .ok none => endObject rest

end

/-- Enough fuel to pass over any value of a text. -/
def fuelFor (cs : List Char) : Nat :=
  2 * cs.length + 2

/-- Passes over a value of a field that nobody asked for. -/
def skip (cs : List Char) : Except Problem (List Char) :=
  skipValue (fuelFor cs) cs

/-- Reads a value of a field that nobody asked for, one level down. -/
def check (cs : List Char) : Except Problem (List Char) :=
  checkValue (depthLimit - 1) (fuelFor cs) cs

end SharedTodo.Json
