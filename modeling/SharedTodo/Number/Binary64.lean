import SharedTodo.Text.Ascii

/-!
# Binary floating point

A magnitude is `mantissa * 2 ^ exponent` with a mantissa of at most 53 bits and an exponent from `-1074`
to `971`. A positive fraction is rounded to the nearest magnitude, and of two equally near ones to the one
whose mantissa is even. A fraction beyond the largest magnitude has none.

Products and quotients are computed exactly and rounded once, so a chain of them has the errors that a
chain of machine operations has.
-/

namespace SharedTodo.Number

/-- A non-negative finite number of the 64-bit format. -/
structure Magnitude where
  mantissa : Nat
  exponent : Int
  deriving DecidableEq, Repr

namespace Magnitude

def zero : Magnitude :=
  ⟨0, -1074⟩

/-- The fraction `numerator / denominator` that a magnitude stands for. -/
def numerator (x : Magnitude) : Nat :=
  x.mantissa <<< x.exponent.toNat

def denominator (x : Magnitude) : Nat :=
  1 <<< (-x.exponent).toNat

/-- The quotient to the nearest integer, a half to the even one. -/
def roundDiv (n d : Nat) : Nat :=
  let q := n / d
  let twice := 2 * (n % d)
  if twice < d || (twice == d && q % 2 == 0) then q else q + 1

/-- The exponent at which the fraction `n / d` has a mantissa of 53 bits, or the least exponent. -/
def exponentOf (n d : Nat) : Int :=
  let guess : Int := (Nat.log2 n : Int) - Nat.log2 d - 52
  let scaled := (n <<< (-guess).toNat) / (d <<< guess.toNat)
  max (-1074) (if scaled < 1 <<< 52 then guess - 1 else guess)

/-- The nearest magnitude to `n / d`; `none` when the fraction is too large. -/
def round (n d : Nat) : Option Magnitude :=
  if n = 0 then some zero
  else
    let e := exponentOf n d
    let m := roundDiv (n <<< (-e).toNat) (d <<< e.toNat)
    let x : Magnitude := if m = 1 <<< 53 then ⟨1 <<< 52, e + 1⟩ else ⟨m, e⟩
    if x.exponent ≤ 971 then some x else none

def ofNat (n : Nat) : Option Magnitude :=
  round n 1

def mul (x y : Magnitude) : Option Magnitude :=
  round (x.numerator * y.numerator) (x.denominator * y.denominator)

def div (x y : Magnitude) : Option Magnitude :=
  round (x.numerator * y.denominator) (x.denominator * y.numerator)

/-- The magnitude nearest to a power of ten; the largest one in the format is `10 ^ 308`. -/
def powerOfTen (k : Nat) : Option Magnitude :=
  ofNat (Nat.pow 10 k)

end Magnitude

/-- A finite number of the 64-bit format; zero has two signs. -/
structure Binary64 where
  negative : Bool
  magnitude : Magnitude
  deriving DecidableEq, Repr

end SharedTodo.Number
