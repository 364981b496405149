import SharedTodo.Config.Value
import SharedTodo.Number.Shortest
import SharedTodo.Text.Ascii
import SharedTodo.Time.Civil

/-!
# Simple values of TOML

Truth values, integers in four bases, fractions, dates and times. Digits may have single underscores between
them. A date or a time sets nothing that a setting could be made of, so it counts as an empty table.
-/

namespace SharedTodo.Toml

open Config (Value)

/-! ## Numbers -/

/-- Digits without the underscores between them; none may come first, last or twice. -/
def joinDigits (isDigit : Char → Bool) : List Char → Option (List Char)
  | [] => none
  | [c] => if isDigit c then some [c] else none
  | c :: '_' :: cs => if isDigit c then (joinDigits isDigit cs).map (c :: ·) else none
  | c :: cs => if isDigit c then (joinDigits isDigit cs).map (c :: ·) else none

def dropSign : List Char → List Char
  | '+' :: cs => cs
  | '-' :: cs => cs
  | cs => cs

/-- The digits of a decimal number; only zero itself starts with a zero. -/
def decimalDigits (cs : List Char) : Option (List Char) := do
  match ← joinDigits Char.isDigit cs with
  | '0' :: _ :: _ => none
  | ds => some ds

/-- The value of digits in a base. -/
def valueInBase (base : Nat) (ds : List Char) : Nat :=
  ds.foldl (fun n c => base * n + (Text.hexValue? c).getD 0) 0

def isDigitIn (base : Nat) (c : Char) : Bool :=
  match Text.hexValue? c with
  | some n => n < base
  | none => false

def inBase (base : Nat) (cs : List Char) : Option Int := do
  let ds ← joinDigits (isDigitIn base) cs
  let n := valueInBase base ds
  if n < 1 <<< 63 then some n else none

def integer? : List Char → Option Int
  | '0' :: 'x' :: cs => inBase 16 cs
  | '0' :: 'o' :: cs => inBase 8 cs
  | '0' :: 'b' :: cs => inBase 2 cs
  | '-' :: cs => do
    let n := valueInBase 10 (← decimalDigits cs)
    if n ≤ 1 <<< 63 then some (-(n : Int)) else none
  | cs => do
    let n := valueInBase 10 (← decimalDigits (dropSign cs))
    if n < 1 <<< 63 then some n else none

/-- The exponent behind its letter. -/
def exponent? : List Char → Option Int
  | '-' :: cs => (joinDigits Char.isDigit cs).map fun ds => -(Text.ofDigits ds : Int)
  | cs => (joinDigits Char.isDigit (dropSign cs)).map fun ds => (Text.ofDigits ds : Int)

def isExponentLetter (c : Char) : Bool :=
  c = 'e' || c = 'E'

/-- The digits behind the point, and the exponent. -/
def decimals? (cs : List Char) : Option (List Char × Int) := do
  let ds ← joinDigits Char.isDigit (cs.takeWhile fun c => !isExponentLetter c)
  match cs.dropWhile fun c => !isExponentLetter c with
  | [] => some (ds, 0)
  | _ :: cs => some (ds, ← exponent? cs)

/-- The decimal that digits with a point or an exponent write. -/
def decimal? (cs : List Char) : Option Number.Decimal := do
  let whole ← decimalDigits (cs.takeWhile fun c => c ≠ '.' && !isExponentLetter c)
  match cs.dropWhile fun c => c ≠ '.' && !isExponentLetter c with
  | '.' :: cs =>
    let (decimals, exponent) ← decimals? cs
    some ⟨Text.ofDigits (whole ++ decimals), exponent - decimals.length⟩
  | _ :: cs => some ⟨Text.ofDigits whole, ← exponent? cs⟩
  | [] => none

/-- Whether a decimal is too large for the 64-bit format, which holds no power of ten above `10 ^ 308`. -/
def isTooLarge (d : Number.Decimal) : Bool :=
  let size : Int := (Text.decimal d.digits).length + d.scale
  d.digits ≠ 0 && (309 < size || size = 309 && d.toMagnitude.isNone)

/-- A fraction may be infinite by name or below zero, but not by being too large. -/
def isFraction (cs : List Char) : Bool :=
  let number := dropSign cs
  if number = "inf".toList ∨ number = "nan".toList then true
  else
    match decimal? number with
    | some d => cs.head? = some '-' || !isTooLarge d
    | none => false

/-! ## Dates and times -/

def number? (ds : List Char) : Option Nat :=
  if ds.all Char.isDigit then some (Text.ofDigits ds) else none

def isDate : List Char → Bool
  | [y₁, y₂, y₃, y₄, '-', m₁, m₂, '-', d₁, d₂] =>
    match number? [y₁, y₂, y₃, y₄], number? [m₁, m₂], number? [d₁, d₂] with
    | some year, some month, some day => decide (Time.CivilDate.Valid ⟨year, month, day⟩)
    | _, _, _ => false
  | _ => false

def isFractionOfSecond : List Char → Bool
  | [] => true
  | '.' :: ds => !ds.isEmpty && ds.all Char.isDigit
  | _ => false

def isTime : List Char → Bool
  | h₁ :: h₂ :: ':' :: m₁ :: m₂ :: ':' :: s₁ :: s₂ :: rest =>
    match number? [h₁, h₂], number? [m₁, m₂], number? [s₁, s₂] with
    | some hour, some minute, some second =>
      hour < 24 && minute < 60 && second ≤ 60 && isFractionOfSecond rest
    | _, _, _ => false
  | _ => false

def isOffset : List Char → Bool
  | ['Z'] => true
  | ['z'] => true
  | [sign, h₁, h₂, ':', m₁, m₂] =>
    (sign = '+' || sign = '-') &&
      match number? [h₁, h₂], number? [m₁, m₂] with
      | some hour, some minute => hour < 24 && minute < 60
      | _, _ => false
  | _ => false

def isTimeChar (c : Char) : Bool :=
  c.isDigit || c = ':' || c = '.'

/-- A time with or without an offset. -/
def isOffsetTime (cs : List Char) : Bool :=
  isTime (cs.takeWhile isTimeChar) &&
    match cs.dropWhile isTimeChar with
    | [] => true
    | offset => isOffset offset

def isMoment (cs : List Char) : Bool :=
  isTime cs || isDate (cs.take 10) &&
    match cs.drop 10 with
    | [] => true
    | c :: cs => (c = 'T' || c = 't' || c = ' ') && isOffsetTime cs

/-! ## Simple values -/

def isScalarChar (c : Char) : Bool :=
  c.isAlphanum || c = '+' || c = '-' || c = '_' || c = '.' || c = ':'

/-- What a word without blanks stands for. -/
def scalar? (word : List Char) : Option Value :=
  if word = "true".toList then some (.flag true)
  else if word = "false".toList then some (.flag false)
  else if isMoment word then some (.table [])
  else if isFraction word then some .fraction
  else (integer? word).map .integer

/-- A simple value; a date may have a time behind a blank. -/
def readScalar (cs : List Char) : Option (Value × List Char) :=
  let word := cs.takeWhile isScalarChar
  let rest := cs.dropWhile isScalarChar
  match rest with
  | ' ' :: more =>
    let time := more.takeWhile isScalarChar
    if isDate word && isOffsetTime time then some (.table [], more.dropWhile isScalarChar)
    else (scalar? word).map fun value => (value, rest)
  | _ => (scalar? word).map fun value => (value, rest)

end SharedTodo.Toml
