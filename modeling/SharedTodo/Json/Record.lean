import SharedTodo.Json.Codec

/-!
# Records

A record is described by its fields in order: name, codec, the value that a missing field stands for, and
which values are left out when it is written. From the description come its reader and its writer.

A record is read from an object, whose fields may stand in any order but only once each, or from an array
of its fields in order, whose last ones may be missing where they have a default. Fields that nobody asked
for are passed over. An open record is read from an object alone, and reads the values it does not use.
-/

namespace SharedTodo.Json

structure Field where
  name : String
  Value : Type
  codec : Codec Value
  /-- What a missing field stands for; without it, the field must be there. -/
  absent : Option Value
  /-- Whether a value is written. -/
  shown : Value → Bool

namespace Field

def required {α : Type} (name : String) (codec : Codec α) : Field :=
  ⟨name, α, codec, none, fun _ => true⟩

/-- A field that is always written and has a default. -/
def defaulting {α : Type} (name : String) (codec : Codec α) (value : α) : Field :=
  ⟨name, α, codec, some value, fun _ => true⟩

/-- A field that is left out when it has no value. -/
def optional {α : Type} (name : String) (codec : Codec α) : Field :=
  ⟨name, Option α, codec.optional, some none, Option.isSome⟩

end Field

/-- A value for every field. -/
def Values : List Field → Type
  | [] => Unit
  | field :: fields => field.Value × Values fields

/-- What has been read of a record so far. -/
def Slots : List Field → Type
  | [] => Unit
  | field :: fields => Option field.Value × Slots fields

namespace Slots

def blank : (fields : List Field) → Slots fields
  | [] => ()
  | _ :: fields => (none, blank fields)

/-- Reads the value of a named field; `none` when the record has no such field. A field that has been read
is refused before its value is looked at. -/
def read : (fields : List Field) → String → Slots fields → List Char →
    Option (Except Problem (Slots fields × List Char))
  | [], _, _, _ => none
  | field :: fields, name, (slot, slots), cs =>
    if name = field.name then
      match slot with
      | some _ => some (.error (.duplicateField name))
      | none => some do
        let cs ← colon cs
        let (value, cs) ← field.codec.read cs
        .ok ((some value, slots), cs)
    else (read fields name slots cs).map fun result => result.map fun (slots, cs) => ((slot, slots), cs)

/-- The values of all fields, defaults filled in. -/
def close : (fields : List Field) → Slots fields → Except Problem (Values fields)
  | [], _ => .ok ()
  | field :: fields, (slot, slots) =>
    match slot.or field.absent with
    | none => .error (.missingField field.name)
    | some value => (close fields slots).map fun values => (value, values)

end Slots

namespace Record

/-- One member of an object, from its key on, and all that follow it. -/
def readMembers (fields : List Field) (skip : List Char → Except Problem (List Char)) :
    Nat → Slots fields → List Char → Except Problem (Slots fields × List Char)
  | 0, _, _ => .error .endInValue
  | fuel + 1, slots, cs => do
    let (name, cs) ← Text.read cs
    let (slots, cs) ← (match slots.read fields name cs with
      | some result => result
      | none => do
        let cs ← colon cs
        let cs ← skip cs
        .ok (slots, cs))
    match ← nextMember cs with
    | none => .ok (slots, cs)
    | some cs => readMembers fields skip fuel slots cs

/-- Reads an object whose brace has been read. -/
def readObject (fields : List Field) (skip : List Char → Except Problem (List Char))
    (cs : List Char) : Except Problem (Values fields × List Char) := do
  let (slots, cs) ← (match skipSpace cs with
    | [] => .error .endInObject
    | '}' :: _ => .ok (Slots.blank fields, cs)
    | cs => do
      let cs ← keyStart cs
      readMembers fields skip (cs.length + 1) (Slots.blank fields) cs)
  let values ← slots.close fields
  let cs ← endObject cs
  .ok (values, cs)

def lengthExpected (title : String) (count : Nat) : String :=
  let noun := if count = 1 then "element" else "elements"
  s!"{title} with {count} {noun}"

/-- Reads the fields of an array one by one. -/
def readInOrder (expected : String) : (fields : List Field) → Nat → List Char →
    Except Problem (Values fields × List Char)
  | [], _, cs => .ok ((), cs)
  | field :: fields, index, cs => do
    match ← (if index = 0 then Codec.firstItem cs else nextItem cs) with
    | some cs =>
      let (value, cs) ← field.codec.read cs
      let (values, cs) ← readInOrder expected fields (index + 1) cs
      .ok ((value, values), cs)
    | none =>
      match field.absent with
      | none => .error (.wrongLength index expected)
      | some value =>
        let (values, cs) ← readInOrder expected fields (index + 1) cs
        .ok ((value, values), cs)

/-- The members that are written. -/
def members : (fields : List Field) → Values fields → List (List Char)
  | [], _ => []
  | field :: fields, (value, values) =>
    if field.shown value then
      (Text.write field.name ++ ':' :: field.codec.write value) :: members fields values
    else members fields values

def write (fields : List Field) (values : Values fields) : List Char :=
  '{' :: Codec.joined (members fields values) ++ ['}']

/-- A record under the title that an error message gives it. -/
def codec (title : String) (fields : List Field) : Codec (Values fields) where
  read cs :=
    match skipSpace cs with
    | '{' :: rest => readObject fields skip rest
    | '[' :: rest => do
      let (values, cs) ← readInOrder (lengthExpected title fields.length) fields 0 rest
      let cs ← endArray cs
      .ok (values, cs)
    | _ => .error (mismatch title cs)
  write := write fields

def openCodec (title : String) (fields : List Field) : Codec (Values fields) where
  read cs :=
    match skipSpace cs with
    | '{' :: rest => readObject fields check rest
    | _ => .error (mismatch title cs)
  write := write fields

end Record

end SharedTodo.Json
