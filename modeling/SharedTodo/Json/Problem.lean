import SharedTodo.Identifier.IssueId
import SharedTodo.Number.Shortest
import SharedTodo.Text.Quoted
import SharedTodo.Time.Rfc3339

/-!
# What can be wrong with a JSON document

Each problem is a cause; `Problem.message` is its text. A value of the wrong kind is described by what was
found and what was expected.
-/

namespace SharedTodo.Json

/-- A value as an error message describes it. -/
inductive Found where
  | null
  | flag (value : Bool)
  | integer (value : Int)
  | fraction (value : Number.Binary64)
  | text (value : String)
  | array
  | object
  deriving DecidableEq, Repr

def Found.describe : Found → String
  | null => "null"
  | flag b => s!"boolean `{b}`"
  | integer n => s!"integer `{String.ofList (Text.decimalInt n)}`"
  | fraction x => s!"floating point `{String.ofList x.text}`"
  | text s => s!"string {Text.quoted s}"
  | array => "sequence"
  | object => "map"

inductive Problem where
  | endInArray
  | endInObject
  | endInText
  | endInValue
  | missingColon
  | missingArrayComma
  | missingObjectComma
  | brokenWord
  | missingValue
  | invalidEscape
  | invalidNumber
  | numberTooLarge
  | controlCharacter
  | keyNotText
  | loneSurrogate
  | missingSurrogate
  | trailingComma
  | trailingText
  | tooDeep
  | wrongType (found : Found) (expected : String)
  | wrongValue (found : Found) (expected : String)
  | wrongLength (length : Nat) (expected : String)
  | duplicateField (name : String)
  | missingField (name : String)
  | unknownChoice (found : String) (choices : List String)
  | invalidId (fault : IssueId.Fault)
  | invalidInstant (fault : Time.Rfc3339.Fault)
  deriving DecidableEq, Repr

def Problem.message : Problem → String
  | endInArray => "EOF while parsing a list"
  | endInObject => "EOF while parsing an object"
  | endInText => "EOF while parsing a string"
  | endInValue => "EOF while parsing a value"
  | missingColon => "expected `:`"
  | missingArrayComma => "expected `,` or `]`"
  | missingObjectComma => "expected `,` or `\x7d`"
  | brokenWord => "expected ident"
  | missingValue => "expected value"
  | invalidEscape => "invalid escape"
  | invalidNumber => "invalid number"
  | numberTooLarge => "number out of range"
  | controlCharacter => "control character (\\u0000-\\u001F) found while parsing a string"
  | keyNotText => "key must be a string"
  | loneSurrogate => "lone leading surrogate in hex escape"
  | missingSurrogate => "unexpected end of hex escape"
  | trailingComma => "trailing comma"
  | trailingText => "trailing characters"
  | tooDeep => "recursion limit exceeded"
  | wrongType found expected => s!"invalid type: {found.describe}, expected {expected}"
  | wrongValue found expected => s!"invalid value: {found.describe}, expected {expected}"
  | wrongLength length expected => s!"invalid length {length}, expected {expected}"
  | duplicateField name => s!"duplicate field `{name}`"
  | missingField name => s!"missing field `{name}`"
  | unknownChoice found choices =>
    let list := ", ".intercalate (choices.map fun choice => s!"`{choice}`")
    s!"unknown variant `{found}`, expected one of {list}"
  | invalidId fault => s!"UUID parsing failed: {fault.message}"
  | invalidInstant fault => fault.message

end SharedTodo.Json
