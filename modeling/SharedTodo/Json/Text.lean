import SharedTodo.Json.Problem

/-!
# JSON texts

A text is written between quotes; only the quote, the backslash and the controls below space are escaped,
with a letter where the format has one. Reading decodes every escape; a character beyond the basic plane
may be given by its two surrogates, which must both be there. Skipping a text checks the escapes but not
the surrogates.

Reading what was written gives the text back, and what follows it (`read_write`).
-/

namespace SharedTodo.Json.Text

/-! ## Writing -/

def controlEscape (c : Char) : List Char :=
  if c = '\x08' then ['\\', 'b']
  else if c = '\t' then ['\\', 't']
  else if c = '\n' then ['\\', 'n']
  else if c = '\x0c' then ['\\', 'f']
  else if c = '\r' then ['\\', 'r']
  else '\\' :: 'u' :: SharedTodo.Text.hexPadded 4 c.toNat

def escaped (c : Char) : List Char :=
  if c = '"' ∨ c = '\\' then ['\\', c]
  else if c.toNat < 0x20 then controlEscape c
  else [c]

/-- The text and the closing quote. -/
def body : List Char → List Char
  | [] => ['"']
  | c :: cs => escaped c ++ body cs

def write (s : String) : List Char :=
  '"' :: body s.toList

/-! ## Reading -/

/-- Where a reader stands inside a text. -/
inductive Place where
  | plain
  | escape
  /-- Inside the hexadecimal digits of an escape: how many are left, what the others stand for, and the
  leading surrogate in front of the escape, if one is. -/
  | digits (left value : Nat) (leading : Option Nat)
  | afterLeading (leading : Nat)
  | afterLeadingSlash (leading : Nat)
  deriving DecidableEq, Repr

/-- Fewer than four bytes, too few for an escape's digits. -/
def tooShort (cs : List Char) : Bool :=
  SharedTodo.Text.byteLength (cs.take 4) < 4

def simpleEscape? (c : Char) : Option Char :=
  if c = '"' ∨ c = '\\' ∨ c = '/' then some c
  else if c = 'b' then some '\x08'
  else if c = 'f' then some '\x0c'
  else if c = 'n' then some '\n'
  else if c = 'r' then some '\r'
  else if c = 't' then some '\t'
  else none

/-- What an escape's four digits lead to: a character, or the wait for a second surrogate. -/
def closeDigits (value : Nat) (leading : Option Nat) : Except Problem (Char ⊕ Place) :=
  let low := 0xDC00 ≤ value && value ≤ 0xDFFF
  match leading with
  | some high =>
    if low then .ok (.inl (Char.ofNat ((high - 0xD800) * 0x400 + (value - 0xDC00) + 0x10000)))
    else .error .loneSurrogate
  | none =>
    if low then .error .loneSurrogate
    else if 0xD800 ≤ value && value ≤ 0xDBFF then .ok (.inr (.afterLeading value))
    else .ok (.inl (Char.ofNat value))

/-- Puts a character in front of what is read after it. -/
def put (c : Char) (rest : Except Problem (List Char × List Char)) :
    Except Problem (List Char × List Char) :=
  rest.map fun (cs, after) => (c :: cs, after)

/-- Reads up to the closing quote. -/
def readFrom : Place → List Char → Except Problem (List Char × List Char)
  | _, [] => .error .endInText
  | .plain, c :: cs =>
    if c = '"' then .ok ([], cs)
    else if c = '\\' then readFrom .escape cs
    else if c.toNat < 0x20 then .error .controlCharacter
    else put c (readFrom .plain cs)
  | .escape, c :: cs =>
    if c = 'u' then
      if tooShort cs then .error .endInText else readFrom (.digits 4 0 none) cs
    else
      match simpleEscape? c with
      | some d => put d (readFrom .plain cs)
      | none => .error .invalidEscape
  | .digits left value leading, c :: cs =>
    match SharedTodo.Text.hexValue? c with
    | none => .error .invalidEscape
    | some digit =>
      if left ≤ 1 then
        match closeDigits (16 * value + digit) leading with
        | .ok (.inl d) => put d (readFrom .plain cs)
        | .ok (.inr place) => readFrom place cs
        | .error problem => .error problem
      else readFrom (.digits (left - 1) (16 * value + digit) leading) cs
  | .afterLeading leading, c :: cs =>
    if c = '\\' then readFrom (.afterLeadingSlash leading) cs else .error .missingSurrogate
  | .afterLeadingSlash leading, c :: cs =>
    if c = 'u' then
      if tooShort cs then .error .endInText else readFrom (.digits 4 0 (some leading)) cs
    else .error .missingSurrogate

/-- Reads a text whose opening quote has been read. -/
def read (cs : List Char) : Except Problem (String × List Char) :=
  (readFrom .plain cs).map fun (s, rest) => (String.ofList s, rest)

/-! ## Skipping -/

/-- Passes over the rest of a text; `place` tells how far an escape has come. -/
def skipFrom : Place → List Char → Except Problem (List Char)
  | _, [] => .error .endInText
  | .escape, c :: cs =>
    if c = 'u' then
      if tooShort cs then .error .endInText else skipFrom (.digits 4 0 none) cs
    else if (simpleEscape? c).isSome then skipFrom .plain cs
    else .error .invalidEscape
  | .digits left value leading, c :: cs =>
    if (SharedTodo.Text.hexValue? c).isNone then .error .invalidEscape
    else if left ≤ 1 then skipFrom .plain cs
    else skipFrom (.digits (left - 1) value leading) cs
  | _, c :: cs =>
    if c = '"' then .ok cs
    else if c = '\\' then skipFrom .escape cs
    else if c.toNat < 0x20 then .error .controlCharacter
    else skipFrom .plain cs

/-- Skips a text whose opening quote has been read. -/
def skip (cs : List Char) : Except Problem (List Char) :=
  skipFrom .plain cs

/-! ## Reading what was written -/

theorem readFrom_controlEscape {c : Char} (h : c.toNat < 0x20) (rest : List Char) :
    readFrom .plain (controlEscape c ++ rest) = put c (readFrom .plain rest) := by
  have hc : c = Char.ofNat c.toNat := (Char.ofNat_toNat c).symm
  have step : ∀ n < 0x20, ∀ rest, readFrom .plain (controlEscape (Char.ofNat n) ++ rest) =
      put (Char.ofNat n) (readFrom .plain rest) := by
    intro n hn rest
    match n, hn with
    | 0, _ | 1, _ | 2, _ | 3, _ | 4, _ | 5, _ | 6, _ | 7, _ | 8, _ | 9, _ | 10, _ | 11, _ | 12, _
    | 13, _ | 14, _ | 15, _ | 16, _ | 17, _ | 18, _ | 19, _ | 20, _ | 21, _ | 22, _ | 23, _ | 24, _
    | 25, _ | 26, _ | 27, _ | 28, _ | 29, _ | 30, _ | 31, _ => rfl
    | n + 32, h => omega
  rw [hc]
  exact step c.toNat h rest

theorem readFrom_escaped (c : Char) (rest : List Char) :
    readFrom .plain (escaped c ++ rest) = put c (readFrom .plain rest) := by
  unfold escaped
  split
  case isTrue h =>
    rcases h with rfl | rfl <;> rfl
  case isFalse h =>
    have hq : c ≠ '"' := fun e => h (.inl e)
    have hb : c ≠ '\\' := fun e => h (.inr e)
    split
    case isTrue hc => exact readFrom_controlEscape hc rest
    case isFalse hc => simp [readFrom, hq, hb, hc]

theorem readFrom_body (s rest : List Char) : readFrom .plain (body s ++ rest) = .ok (s, rest) := by
  induction s with
  | nil => rfl
  | cons c cs ih =>
    rw [body, List.append_assoc, readFrom_escaped, ih]
    rfl

theorem read_write (s : String) (rest : List Char) :
    ∃ after, write s ++ rest = '"' :: after ∧ read after = .ok (s, rest) :=
  ⟨body s.toList ++ rest, rfl, by simp [read, readFrom_body, Except.map]⟩

end SharedTodo.Json.Text
