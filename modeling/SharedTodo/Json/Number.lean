import SharedTodo.Json.Problem

/-!
# JSON numbers

A number without fraction and exponent is an integer as long as it fits into 64 bits; any other is a
fraction. A fraction keeps as many leading digits as fit into 64 bits, and is then multiplied or divided by
a power of ten; both steps round. A number too large for the format is refused when it is read, and passed
over when it is skipped.

The sign of a number is taken off before; minus zero is a fraction, since no integer is it.
-/

namespace SharedTodo.Json

open Number (Magnitude Binary64)

inductive Numeral where
  | natural (value : Nat)
  /-- A negative integer, by its magnitude. -/
  | negative (magnitude : Nat)
  | fraction (value : Binary64)
  deriving DecidableEq, Repr

namespace Numeral

def found : Numeral → Found
  | natural n => .integer n
  | negative n => .integer (-(n : Int))
  | fraction x => .fraction x

/-! ## Magnitudes -/

def maxWord : Nat := UInt64.size - 1

/-- Appends digits to a number as long as it fits into a word; the digits left over. -/
def absorb : Nat → List Char → Nat × List Char
  | n, [] => (n, [])
  | n, c :: cs =>
    let next := 10 * n + Text.digitValue c
    if next ≤ maxWord then absorb next cs else (n, c :: cs)

/-- Divides by a power of ten, in steps that the format can hold. -/
def divided : Nat → Magnitude → Nat → Option Magnitude
  | 0, x, _ => some x
  | steps + 1, x, k =>
    if k ≤ 308 then (Magnitude.powerOfTen k).bind x.div
    else if x.mantissa = 0 then some x
    else ((Magnitude.powerOfTen 308).bind x.div).bind fun y => divided steps y (k - 308)

/-- The magnitude of `significand * 10 ^ exponent`; `none` when it is too large. -/
def scaled (significand : Nat) (exponent : Int) : Option Magnitude :=
  (Magnitude.ofNat significand).bind fun x =>
    if exponent < 0 then divided (exponent.natAbs / 308 + 1) x exponent.natAbs
    else if exponent ≤ 308 then (Magnitude.powerOfTen exponent.toNat).bind x.mul
    else if x.mantissa = 0 then some x
    else none

def ofParts (negative : Bool) (significand : Nat) (exponent : Int) : Except Problem Numeral :=
  match scaled significand exponent with
  | some x => .ok (.fraction ⟨negative, x⟩)
  | none => .error .numberTooLarge

/-- An integer, or the fraction that stands in for one that does not fit. -/
def ofWord (negative : Bool) (n : Nat) : Except Problem Numeral :=
  if !negative then .ok (.natural n)
  else if 1 ≤ n ∧ n ≤ 1 <<< 63 then .ok (Numeral.negative n)
  else ofParts true n 0

/-! ## Reading -/

def spanDigits (cs : List Char) : List Char × List Char :=
  (cs.takeWhile Char.isDigit, cs.dropWhile Char.isDigit)

/-- The largest exponent that is counted; beyond it a number is zero or too large. -/
def maxExponent : Nat := 1 <<< 31 - 1

/-- Reads an exponent whose letter has been read. -/
def readExponent (negative : Bool) (significand : Nat) (start : Int) (cs : List Char) :
    Except Problem (Numeral × List Char) :=
  let (down, cs) := match cs with
    | '+' :: rest => (false, rest)
    | '-' :: rest => (true, rest)
    | _ => (false, cs)
  let (digits, rest) := spanDigits cs
  match digits, rest with
  | [], [] => .error .endInValue
  | [], _ => .error .invalidNumber
  | _, _ =>
    let size := Text.ofDigits digits
    if size ≤ maxExponent then
      (ofParts negative significand (if down then start - size else start + size)).map (·, rest)
    else if significand ≠ 0 ∧ !down then .error .numberTooLarge
    else .ok (.fraction ⟨negative, .zero⟩, rest)

def isExponentLetter (c : Char) : Bool :=
  c == 'e' || c == 'E'

/-- Reads an exponent if there is one. -/
def readExponent? (negative : Bool) (significand : Nat) (start : Int) (cs : List Char) :
    Except Problem (Numeral × List Char) :=
  match cs with
  | c :: rest =>
    if isExponentLetter c then readExponent negative significand start rest
    else (ofParts negative significand start).map (·, cs)
  | [] => (ofParts negative significand start).map (·, cs)

/-- Reads a fraction whose point has been read. -/
def readFraction (negative : Bool) (significand : Nat) (start : Int) (cs : List Char) :
    Except Problem (Numeral × List Char) :=
  let (digits, rest) := spanDigits cs
  match digits, rest with
  | [], [] => .error .endInValue
  | [], _ => .error .invalidNumber
  | _, _ =>
    let (significand, excess) := absorb significand digits
    readExponent? negative significand (start - (digits.length - excess.length : Nat)) rest

/-- Reads what follows the integer digits of a number. -/
def readTail (negative : Bool) (digits rest : List Char) : Except Problem (Numeral × List Char) :=
  let (significand, excess) := absorb 0 digits
  match rest with
  | '.' :: rest => readFraction negative significand excess.length rest
  | _ =>
    if excess.isEmpty && !(rest.head?.any isExponentLetter) then
      (ofWord negative significand).map (·, rest)
    else readExponent? negative significand excess.length rest

/-- Reads a number without its sign. -/
def read (negative : Bool) (cs : List Char) : Except Problem (Numeral × List Char) :=
  match cs with
  | [] => .error .endInValue
  | '0' :: rest =>
    if rest.head?.any Char.isDigit then .error .invalidNumber else readTail negative ['0'] rest
  | c :: _ =>
    if c.isDigit then
      let (digits, rest) := spanDigits cs
      readTail negative digits rest
    else .error .invalidNumber

/-! ## Skipping -/

def skipExponent (cs : List Char) : Except Problem (List Char) :=
  let cs := match cs with
    | '+' :: rest => rest
    | '-' :: rest => rest
    | _ => cs
  let (digits, rest) := spanDigits cs
  if digits.isEmpty then .error .invalidNumber else .ok rest

def skipExponent? (cs : List Char) : Except Problem (List Char) :=
  match cs with
  | c :: rest => if isExponentLetter c then skipExponent rest else .ok cs
  | [] => .ok cs

def skipTail (cs : List Char) : Except Problem (List Char) :=
  match cs with
  | '.' :: rest =>
    let (digits, rest) := spanDigits rest
    if digits.isEmpty then .error .invalidNumber else skipExponent? rest
  | _ => skipExponent? cs

/-- Skips a number without its sign. -/
def skip (cs : List Char) : Except Problem (List Char) :=
  match cs with
  | [] => .error .invalidNumber
  | '0' :: rest => if rest.head?.any Char.isDigit then .error .invalidNumber else skipTail rest
  | c :: _ => if c.isDigit then skipTail (spanDigits cs).2 else .error .invalidNumber

end Numeral

end SharedTodo.Json
