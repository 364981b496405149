/-!
# Length, case and digits

A text is as long as the bytes it is stored in. Case is folded for the ASCII letters alone. Numbers are written in decimal without leading zeros, in
decimal at a fixed width, or in hexadecimal at a fixed width with lower-case letters; hexadecimal digits
are read in either case.
-/

namespace SharedTodo.Text

/-! ## Length -/

def byteLength (cs : List Char) : Nat :=
  cs.foldr (fun c n => c.utf8Size + n) 0

/-! ## Case -/

def lowerList (cs : List Char) : List Char :=
  cs.map Char.toLower

def lower (s : String) : String :=
  String.ofList (lowerList s.toList)

/-- Equality up to the case of ASCII letters. -/
def sameFolded (s t : String) : Bool :=
  lowerList s.toList == lowerList t.toList

theorem sameFolded_self (s : String) : sameFolded s s = true := by
  simp [sameFolded]

/-! ## Decimal -/

/-- The digit of a number below ten; later numbers continue with the letters `a`, `b`, and so on. -/
def digitChar (n : Nat) : Char :=
  if n < 10 then Char.ofNat (48 + n) else Char.ofNat (87 + n)

def decimal (n : Nat) : List Char :=
  Nat.toDigits 10 n

def decimalInt : Int → List Char
  | .ofNat n => decimal n
  | .negSucc n => '-' :: decimal (n + 1)

/-- The last `width` decimal digits of a number. -/
def decimalPadded : Nat → Nat → List Char
  | 0, _ => []
  | width + 1, n => decimalPadded width (n / 10) ++ [digitChar (n % 10)]

def digitValue (c : Char) : Nat :=
  c.toNat - 48

/-- The number that decimal digits write. -/
def ofDigits (ds : List Char) : Nat :=
  ds.foldl (fun n c => 10 * n + digitValue c) 0

/-! ## Hexadecimal -/

def hexValue? (c : Char) : Option Nat :=
  if '0' ≤ c && c ≤ '9' then some (c.toNat - 48)
  else if 'a' ≤ c && c ≤ 'f' then some (c.toNat - 87)
  else if 'A' ≤ c && c ≤ 'F' then some (c.toNat - 55)
  else none

/-- The last `width` hexadecimal digits of a number. -/
def hexPadded : Nat → Nat → List Char
  | 0, _ => []
  | width + 1, n => hexPadded width (n / 16) ++ [digitChar (n % 16)]

/-- Continues a number with hexadecimal digits; `none` at a character that is none. -/
def readHex (n : Nat) : List Char → Option Nat
  | [] => some n
  | c :: cs => (hexValue? c).bind fun v => readHex (16 * n + v) cs

theorem length_hexPadded (width n : Nat) : (hexPadded width n).length = width := by
  induction width generalizing n with
  | zero => rfl
  | succ w ih => simp [hexPadded, ih]

theorem hexValue?_digitChar : ∀ n < 16, hexValue? (digitChar n) = some n := by
  decide

theorem readHex_append (n : Nat) (cs ds : List Char) :
    readHex n (cs ++ ds) = (readHex n cs).bind fun m => readHex m ds := by
  induction cs generalizing n with
  | nil => rfl
  | cons c cs ih =>
    cases h : hexValue? c with
    | none => simp [readHex, h]
    | some v => simp [readHex, h, ih]

theorem readHex_hexPadded (width m n : Nat) (h : n < Nat.pow 16 width) :
    readHex m (hexPadded width n) = some (m * Nat.pow 16 width + n) := by
  induction width generalizing n with
  | zero =>
    have : n = 0 := Nat.lt_one_iff.1 h
    simp [hexPadded, readHex, this]
  | succ w ih =>
    have hpow : Nat.pow 16 (w + 1) = Nat.pow 16 w * 16 := rfl
    rw [hpow] at h ⊢
    have hdiv : n / 16 < Nat.pow 16 w := Nat.div_lt_of_lt_mul (by omega)
    rw [hexPadded, readHex_append, ih _ hdiv]
    simp only [Option.bind_some, readHex, hexValue?_digitChar _ (Nat.mod_lt n (by decide))]
    rw [Nat.mul_add, ← Nat.mul_assoc, Nat.add_assoc, Nat.div_add_mod, Nat.mul_comm 16 m,
      Nat.mul_assoc m 16, Nat.mul_comm 16 (Nat.pow 16 w)]

end SharedTodo.Text
