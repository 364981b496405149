import SharedTodo.Number.Binary64

/-!
# Shortest decimal text

The text of a number has the fewest digits that round back to it. Of two such decimals it is the nearer one,
and of two equally near ones the one whose last digit is even. It is positional from `0.00001` up to below
`10 ^ 16` and then always has a point; beyond that it has an exponent with a sign.
-/

namespace SharedTodo.Number

/-- The number `digits * 10 ^ scale`. -/
structure Decimal where
  digits : Nat
  scale : Int
  deriving DecidableEq, Repr

namespace Decimal

/-- The nearest magnitude to a decimal. -/
def toMagnitude (d : Decimal) : Option Magnitude :=
  Magnitude.round (d.digits * Nat.pow 10 d.scale.toNat) (Nat.pow 10 (-d.scale).toNat)

/-- Drops trailing zeros, at most as many as `limit`. -/
def dropZeros : Nat → Decimal → Decimal
  | 0, d => d
  | limit + 1, d =>
    if d.digits ≠ 0 ∧ d.digits % 10 = 0 then dropZeros limit ⟨d.digits / 10, d.scale + 1⟩ else d

end Decimal

namespace Magnitude

/-- How far a decimal is from a magnitude, as a numerator over a denominator that depends on the scale
alone. -/
def distance (x : Magnitude) (d : Decimal) : Nat :=
  let a := d.digits * Nat.pow 10 d.scale.toNat * x.denominator
  let b := x.numerator * Nat.pow 10 (-d.scale).toNat
  max a b - min a b

/-- The power of ten that the leading digit of a magnitude counts. -/
def leadingPower (x : Magnitude) : Int :=
  let n := x.numerator
  let d := x.denominator
  if d ≤ n then ((Text.decimal (n / d)).length : Int) - 1
  else
    let k := (Text.decimal (d / n)).length
    if d ≤ n * Nat.pow 10 (k - 1) then 1 - (k : Int) else -(k : Int)

/-- The nearer of two neighbouring decimals, of equally near ones the even one. -/
def nearer (x : Magnitude) (below above : Decimal) : Decimal :=
  if x.distance below < x.distance above then below
  else if x.distance above < x.distance below then above
  else if below.digits % 2 = 0 then below
  else above

/-- The decimal with a given scale that rounds to the magnitude and is nearest to it. -/
def nearestAt (x : Magnitude) (scale : Int) : Option Decimal :=
  let low := x.numerator * Nat.pow 10 (-scale).toNat / (x.denominator * Nat.pow 10 scale.toNat)
  let below : Decimal := ⟨low, scale⟩
  let above : Decimal := ⟨low + 1, scale⟩
  match decide (below.toMagnitude = some x), decide (above.toMagnitude = some x) with
  | true, true => some (x.nearer below above)
  | true, false => some below
  | false, true => some above
  | false, false => none

/-- Tries ever finer scales, `count` of them. -/
def firstFrom (x : Magnitude) : Nat → Int → Option Decimal
  | 0, _ => none
  | count + 1, scale =>
    match x.nearestAt scale with
    | some d => some d
    | none => firstFrom x count (scale - 1)

/-- The decimal with the fewest digits that rounds to the magnitude; seventeen digits always suffice. -/
def shortest (x : Magnitude) : Decimal :=
  if x.mantissa = 0 then ⟨0, 0⟩
  else ((x.firstFrom 17 x.leadingPower).getD ⟨0, 0⟩).dropZeros 17

end Magnitude

/-! ## Text -/

namespace Decimal

/-- The least and the greatest leading power of ten that is written positionally. -/
def positionalFrom : Int := -5

def positionalTo : Int := 15

def text (d : Decimal) : List Char :=
  let ds := Text.decimal d.digits
  let leading := d.scale + ds.length - 1
  if positionalFrom ≤ leading ∧ leading ≤ positionalTo then
    if 0 ≤ d.scale then ds ++ List.replicate d.scale.toNat '0' ++ ['.', '0']
    else if 0 ≤ leading then
      ds.take (leading.toNat + 1) ++ '.' :: ds.drop (leading.toNat + 1)
    else '0' :: '.' :: List.replicate ((-leading).toNat - 1) '0' ++ ds
  else
    let fraction := if ds.length ≤ 1 then [] else '.' :: ds.drop 1
    let exponent := (if 0 ≤ leading then '+' else '-') :: Text.decimal leading.natAbs
    ds.take 1 ++ fraction ++ 'e' :: exponent

end Decimal

def Binary64.text (x : Binary64) : List Char :=
  (if x.negative then ['-'] else []) ++ x.magnitude.shortest.text

end SharedTodo.Number
