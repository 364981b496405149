import SharedTodo.Json.Scan

/-!
# Codecs

A codec reads a value from the start of a text and writes a value. `decode` and `encode` are its readings of
whole documents. Here are the codecs of texts, truth values, bounded integers, optional values and arrays,
and the ways to make a codec of one type from that of another.
-/

namespace SharedTodo.Json

structure Codec (α : Type) where
  read : List Char → Except Problem (α × List Char)
  write : α → List Char

namespace Codec

variable {α β : Type}

/-- Reads a whole document. -/
def decode (codec : Codec α) (document : String) : Except Problem α :=
  match codec.read document.toList with
  | .error problem => .error problem
  | .ok (value, rest) => if skipSpace rest = [] then .ok value else .error .trailingText

def encode (codec : Codec α) (value : α) : String :=
  String.ofList (codec.write value)

/-! ## Codecs from codecs -/

/-- The codec of a type whose values are checked when they are read. -/
def refined (codec : Codec α) (check : α → Except Problem β) (view : β → α) : Codec β where
  read cs := do
    let (a, rest) ← codec.read cs
    let b ← check a
    .ok (b, rest)
  write b := codec.write (view b)

/-- The codec of a type with the same values under other names. -/
def mapped (codec : Codec α) (make : α → β) (view : β → α) : Codec β :=
  codec.refined (fun a => .ok (make a)) view

/-! ## Simple values -/

/-- A text, with the name under which an error message expects it. -/
def textNamed (expected : String) : Codec String where
  read cs :=
    match skipSpace cs with
    | '"' :: rest => Text.read rest
    | _ => .error (mismatch expected cs)
  write := Text.write

def text : Codec String :=
  textNamed "a string"

def flag : Codec Bool where
  read cs :=
    match skipSpace cs with
    | 't' :: rest => (word wordTrue rest).map (true, ·)
    | 'f' :: rest => (word wordFalse rest).map (false, ·)
    | _ => .error (mismatch "a boolean" cs)
  write b := if b then 't' :: wordTrue else 'f' :: wordFalse

/-- An integer that `accept` takes; a fraction is never an integer. -/
def integer (expected : String) (accept : Int → Option α) (view : α → Int) : Codec α where
  read cs :=
    match skipSpace cs with
    | [] => .error .endInValue
    | c :: rest =>
      if c = '-' ∨ c.isDigit then do
        let (numeral, rest) ← readNumeral (c :: rest)
        match numeral.found with
        | .integer n =>
          match accept n with
          | some a => .ok (a, rest)
          | none => .error (.wrongValue (.integer n) expected)
        | found => .error (.wrongType found expected)
      else .error (mismatch expected cs)
  write a := SharedTodo.Text.decimalInt (view a)

def int32 : Codec Int32 :=
  integer "i32" (fun n => if Int32.minValue.toInt ≤ n ∧ n ≤ Int32.maxValue.toInt then some (Int32.ofInt n) else none) Int32.toInt

/-- A natural number of at most 64 bits. -/
def word64 : Codec Nat :=
  integer "usize" (fun n => if 0 ≤ n ∧ n < UInt64.size then some n.toNat else none) Int.ofNat

/-! ## Optional values and arrays -/

def optional (codec : Codec α) : Codec (Option α) where
  read cs :=
    match skipSpace cs with
    | 'n' :: rest => (word wordNull rest).map (none, ·)
    | _ => (codec.read cs).map fun (a, rest) => (some a, rest)
  write
    | none => 'n' :: wordNull
    | some a => codec.write a

/-- One item of an array and all that follow it. -/
def readItems (codec : Codec α) : Nat → List Char → Except Problem (List α × List Char)
  | 0, _ => .error .endInValue
  | fuel + 1, cs => do
    let (a, cs) ← codec.read cs
    match ← nextItem cs with
    | none => .ok ([a], cs)
    | some cs =>
      let (items, cs) ← codec.readItems fuel cs
      .ok (a :: items, cs)

/-- The first item of an array, or its end. -/
def firstItem (cs : List Char) : Except Problem (Option (List Char)) :=
  match skipSpace cs with
  | [] => .error .endInArray
  | ']' :: _ => .ok none
  | rest => .ok (some rest)

def joined (parts : List (List Char)) : List Char :=
  List.intercalate [','] parts

def array (codec : Codec α) : Codec (List α) where
  read cs :=
    match skipSpace cs with
    | '[' :: rest => do
      let (items, cs) ← (do
        match ← firstItem rest with
        | none => .ok ([], rest)
        | some cs => codec.readItems (cs.length + 1) cs)
      let cs ← endArray cs
      .ok (items, cs)
    | _ => .error (mismatch "a sequence" cs)
  write items := '[' :: joined (items.map codec.write) ++ [']']

/-- One of several names, as a text or as the only key of an object whose value is null. -/
def choice (choices : List String) (ofName? : String → Option α) (view : α → String) : Codec α where
  read cs :=
    match skipSpace cs with
    | '"' :: rest => do
      let (name, rest) ← Text.read rest
      pick name rest
    | '{' :: rest => do
      let (name, rest) ← textNamed "variant identifier" |>.read rest
      let (a, rest) ← pick name rest
      let rest ← colon rest
      let rest ← (match skipSpace rest with
        | 'n' :: rest => word wordNull rest
        | _ => .error (mismatch "unit" rest))
      match skipSpace rest with
      | '}' :: rest => .ok (a, rest)
      | [] => .error .endInObject
      | _ => .error .missingValue
    | [] => .error .endInValue
    | _ => .error .missingValue
  write a := Text.write (view a)
where
  pick (name : String) (rest : List Char) : Except Problem (α × List Char) :=
    match ofName? name with
    | some a => .ok (a, rest)
    | none => .error (.unknownChoice name choices)

end Codec

end SharedTodo.Json
