import SharedTodo.Text.Ascii
import SharedTodo.Text.Blank
import SharedTodo.Time.Instant

/-!
# RFC 3339 texts of instants

Written in UTC with `Z`, with 0, 3, 6 or 9 digits of fraction, the fewest that lose nothing; a year outside
0 to 9999 has a sign. A leap second is written as second 60.

Read more widely: any offset, blanks between the components, short numbers, an offset without colon,
and the word `UTC`. Digits past the ninth of a fraction are dropped.
-/

namespace SharedTodo.Time.Rfc3339

/-- Why a text is no instant. -/
inductive Fault where
  | tooShort
  | invalid
  | outOfRange
  | impossible
  | trailing
  deriving DecidableEq, Repr

def Fault.message : Fault → String
  | tooShort => "premature end of input"
  | invalid => "input contains invalid characters"
  | outOfRange => "input is out of range"
  | impossible => "no possible date and time matching input"
  | trailing => "trailing input"

/-! ## Writing -/

def yearText (year : Int) : List Char :=
  if 0 ≤ year ∧ year ≤ 9999 then Text.decimalPadded 4 year.toNat
  else
    let digits := Text.decimal year.natAbs
    (if year < 0 then '-' else '+') :: List.replicate (4 - digits.length) '0' ++ digits

def fractionText (nano : Nat) : List Char :=
  if nano = 0 then []
  else if nano % 1000000 = 0 then '.' :: Text.decimalPadded 3 (nano / 1000000)
  else if nano % 1000 = 0 then '.' :: Text.decimalPadded 6 (nano / 1000)
  else '.' :: Text.decimalPadded 9 nano

def dateText (date : CivilDate) : List Char :=
  yearText date.year ++ '-' :: Text.decimalPadded 2 date.month ++ '-' ::
    Text.decimalPadded 2 date.day

def timeText (secondOfDay nano : Nat) : List Char :=
  let second := secondOfDay % 60 + nano / 1000000000
  Text.decimalPadded 2 (secondOfDay / 3600) ++ ':' ::
    Text.decimalPadded 2 (secondOfDay / 60 % 60) ++ ':' ::
    Text.decimalPadded 2 second ++ fractionText (nano % 1000000000)

def write (t : Instant) : List Char :=
  dateText (CivilDate.ofDays t.dayNumber) ++ 'T' ::
    timeText t.secondOfDay.toNat t.nano ++ ['Z']

/-! ## Reading -/

/-- A number of one to `width` digits. -/
def number (width : Nat) (cs : List Char) : Except Fault (Nat × List Char) :=
  match cs with
  | [] => .error .tooShort
  | c :: _ =>
    if c.isDigit then
      let digits := (cs.take width).takeWhile Char.isDigit
      .ok (Text.ofDigits digits, cs.drop digits.length)
    else .error .invalid

/-- A number that may follow blanks and must lie between two bounds. -/
def numberWithin (width low high : Nat) (cs : List Char) : Except Fault (Nat × List Char) := do
  let (n, rest) ← number width (Text.trimStart cs)
  if low ≤ n ∧ n ≤ high then .ok (n, rest) else .error .outOfRange

/-- Passes over a character that may follow blanks. -/
def literal (expected : Char) (cs : List Char) : Except Fault (List Char) :=
  match Text.trimStart cs with
  | [] => .error .tooShort
  | c :: rest => if c = expected then .ok rest else .error .invalid

/-- The years that fit into 32 bits; an unsigned year has at most four digits. -/
def readYear (cs : List Char) : Except Fault (Int × List Char) := do
  let (year, rest) ← (match Text.trimStart cs with
    | '-' :: rest => (number rest.length rest).map fun (n, r) => (-(n : Int), r)
    | '+' :: rest => (number rest.length rest).map fun (n, r) => ((n : Int), r)
    | rest => (number 4 rest).map fun (n, r) => ((n : Int), r))
  if -2147483648 ≤ year ∧ year ≤ 2147483647 then .ok (year, rest) else .error .outOfRange

def readDate (cs : List Char) : Except Fault (CivilDate × List Char) := do
  let (year, cs) ← readYear cs
  let cs ← literal '-' cs
  let (month, cs) ← numberWithin 2 1 12 cs
  let cs ← literal '-' cs
  let (day, cs) ← numberWithin 2 1 31 cs
  .ok (⟨year, month, day⟩, cs)

/-- The sign between date and time. -/
def separator : List Char → Except Fault (List Char)
  | [] => .error .tooShort
  | c :: rest => if c = 'T' ∨ c = 't' ∨ c = ' ' then .ok rest else .error .invalid

/-- The nanoseconds of an optional fraction. -/
def readFraction : List Char → Except Fault (Nat × List Char)
  | '.' :: cs => do
    let (n, rest) ← number 9 cs
    let places := min 9 (cs.takeWhile Char.isDigit).length
    .ok (n * Nat.pow 10 (9 - places), rest.dropWhile Char.isDigit)
  | cs => .ok (0, cs)

/-- Second of the day and nanosecond; second 60 is the leap second after second 59. -/
def readTime (cs : List Char) : Except Fault ((Nat × Nat) × List Char) := do
  let (hour, cs) ← numberWithin 2 0 23 cs
  let cs ← literal ':' cs
  let (minute, cs) ← numberWithin 2 0 59 cs
  let cs ← literal ':' cs
  let (second, cs) ← numberWithin 2 0 60 cs
  let (nano, cs) ← readFraction cs
  let start := hour * 3600 + minute * 60
  if second = 60 then .ok ((start + 59, nano + 1000000000), cs)
  else .ok ((start + second, nano), cs)

def twoDigits (a b : Char) : Nat :=
  10 * Text.digitValue a + Text.digitValue b

/-- The minutes of an offset. -/
def readOffsetMinutes : List Char → Except Fault (Nat × List Char)
  | [] => .error .tooShort
  | [c] => if c.utf8Size = 1 then .error .tooShort else .error .invalid
  | a :: b :: rest =>
    if a.isDigit ∧ b.isDigit then
      if a ≤ '5' then .ok (twoDigits a b, rest) else .error .outOfRange
    else .error .invalid

/-- Seconds east of UTC. -/
def readOffset (cs : List Char) : Except Fault (Int × List Char) :=
  match Text.trimStart cs with
  | 'Z' :: rest => .ok (0, rest)
  | 'z' :: rest => .ok (0, rest)
  | cs =>
    if Text.lowerList (cs.take 3) = ['u', 't', 'c'] then .ok (0, cs.drop 3)
    else
      match cs with
      | [] => .error .tooShort
      | sign :: rest =>
        if sign = '+' ∨ sign = '-' ∨ sign = '\u2212' then
          match rest with
          | [] => .error .tooShort
          | [c] => if c.utf8Size = 1 then .error .tooShort else .error .invalid
          | a :: b :: rest =>
            if a.isDigit ∧ b.isDigit then do
              let (minutes, rest) ←
                readOffsetMinutes (rest.dropWhile fun c => c = ':' || Text.isBlank c)
              let seconds : Int := twoDigits a b * 3600 + minutes * 60
              .ok (if sign = '+' then seconds else -seconds, rest)
            else .error .invalid
        else .error .invalid

def read (cs : List Char) : Except Fault Instant := do
  let (date, cs) ← readDate cs
  let cs ← separator cs
  let ((secondOfDay, nano), cs) ← readTime cs
  let (east, cs) ← readOffset cs
  if (Text.trimStart cs) ≠ [] then .error .trailing
  else if ¬ date.Valid ∨ date.year < -262143 ∨ 262142 < date.year then .error .outOfRange
  else if 86400 ≤ east ∨ east ≤ -86400 then .error .outOfRange
  else
    match Instant.ofParts? (date.toDays * 86400 + secondOfDay - east) nano with
    | some t => .ok t
    | none => .error .impossible

end SharedTodo.Time.Rfc3339
