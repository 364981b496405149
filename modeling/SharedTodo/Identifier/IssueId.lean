import SharedTodo.Text.Ascii

/-!
# Issue identifiers

An issue is named by 128 bits. The text of an identifier is its 32 hexadecimal digits in lower case, in
groups of 8, 4, 4, 4 and 12 between hyphens. Read are also the digits alone, the hyphenated form in braces
or behind `urn:uuid:`, and upper-case digits.

Reading the text of an identifier gives it back (`ofText?_text`), so different identifiers have different
texts (`text_injective`).
-/

namespace SharedTodo

structure IssueId where
  bits : BitVec 128
  deriving DecidableEq, Repr

namespace IssueId

def digits (id : IssueId) : List Char :=
  Text.hexPadded 32 id.bits.toNat

/-- Sets hyphens between groups of digits. -/
def hyphenate (ds : List Char) : List Char :=
  ds.take 8 ++ '-' :: (ds.drop 8).take 4 ++ '-' :: (ds.drop 12).take 4 ++ '-' ::
    (ds.drop 16).take 4 ++ '-' :: ds.drop 20

def textList (id : IssueId) : List Char :=
  hyphenate id.digits

def text (id : IssueId) : String :=
  String.ofList id.textList

instance : ToString IssueId :=
  ⟨text⟩

/-- The identifier that random bits make: version 4, in the common variant. -/
def ofRandom (bits : BitVec 128) : IssueId :=
  ⟨bits &&& ~~~(0xf000c000000000000000#128) ||| 0x40008000000000000000#128⟩

/-! ## Reading -/

/-- Why a text names no issue. -/
inductive Fault where
  | character (found : Char) (position : Nat)
  | length (found : Nat)
  | groupCount (found : Nat)
  | groupLength (group found : Nat)
  deriving DecidableEq, Repr

/-- Text of the fault. Characters and groups are counted from zero, characters in bytes and from the start of
the hyphenated form. -/
def Fault.message : Fault → String
  | character c position => s!"invalid character: found `{c}` at {position}"
  | length n => s!"invalid length: found {n}"
  | groupCount n => s!"invalid group count: expected 5, found {n}"
  | groupLength group n =>
    s!"invalid group length in group {group}: expected {[8, 4, 4, 4, 12].getD group 0}, found {n}"

def ofDigits? (ds : List Char) : Option IssueId :=
  if ds.length = 32 then (Text.readHex 0 ds).map fun n => ⟨BitVec.ofNat 128 n⟩ else none

/-- The digits of a hyphenated text; `none` when the hyphens are not where they belong. -/
def dehyphenate? (cs : List Char) : Option (List Char) :=
  if cs.length = 36 ∧ cs[8]? = some '-' ∧ cs[13]? = some '-' ∧ cs[18]? = some '-' ∧
      cs[23]? = some '-' then
    some (cs.take 8 ++ (cs.drop 9).take 4 ++ (cs.drop 14).take 4 ++ (cs.drop 19).take 4 ++
      cs.drop 24)
  else none

def urn : List Char :=
  ['u', 'r', 'n', ':', 'u', 'u', 'i', 'd', ':']

/-- The text inside of braces or behind the prefix. -/
def unwrap (cs : List Char) : Option (List Char) :=
  if Text.lowerList (cs.take 9) = urn then some (cs.drop 9)
  else if cs.head? = some '{' ∧ 2 ≤ cs.length ∧ cs.getLast? = some '}' then
    some (cs.drop 1).dropLast
  else none

def ofTextList? (cs : List Char) : Option IssueId :=
  match unwrap cs with
  | some inner => (dehyphenate? inner).bind ofDigits?
  | none => (ofDigits? cs).or ((dehyphenate? cs).bind ofDigits?)

def ofText? (s : String) : Option IssueId :=
  ofTextList? s.toList

/-- The byte positions of the hyphens, or the first character that is neither hyphen nor digit. -/
def hyphens : Nat → List Char → Except Fault (List Nat)
  | _, [] => .ok []
  | i, c :: cs =>
    if c = '-' then (hyphens (i + 1) cs).map (i :: ·)
    else if (Text.hexValue? c).isSome then hyphens (i + 1) cs
    else .error (.character c i)

/-- The first group whose end is not where it belongs. -/
def groupFault (total group start : Nat) : List Nat → List Nat → Fault
  | width :: widths, stop :: stops =>
    if stop = start + width then groupFault total (group + 1) (start + width + 1) widths stops
    else .groupLength group (stop - start)
  | _, _ => .groupLength group (total - start)

/-- The bytes of the longest form, the hyphenated one behind the prefix. -/
def longestForm : Nat :=
  urn.length + 36

/-- The fault of a text that is no identifier. A text longer than every form has a wrong length, whatever it
holds. Without hyphens only bare digits can be meant, so that their number is wrong; the last group is
measured up to the end of the whole text. -/
def faultOf (cs : List Char) : Fault :=
  if longestForm < Text.byteLength cs then .length (Text.byteLength cs)
  else
    match hyphens 0 ((unwrap cs).getD cs) with
    | .error fault => fault
    | .ok stops =>
      if stops = [] ∧ unwrap cs = none then .length (Text.byteLength cs)
      else if stops.length ≠ 4 then .groupCount (stops.length + 1)
      else groupFault (Text.byteLength cs) 0 0 [8, 4, 4, 4] stops

def read (cs : List Char) : Except Fault IssueId :=
  match ofTextList? cs with
  | some id => .ok id
  | none => .error (faultOf cs)

/-! ## Reading what was written -/

theorem length_digits (id : IssueId) : id.digits.length = 32 :=
  Text.length_hexPadded 32 _

theorem ofDigits?_digits (id : IssueId) : ofDigits? id.digits = some id := by
  have h := Text.readHex_hexPadded 32 0 id.bits.toNat (by simpa using id.bits.isLt)
  have hd : Text.readHex 0 id.digits = some id.bits.toNat := by simpa [digits] using h
  simp [ofDigits?, length_digits, hd]

theorem dehyphenate?_hyphenate {ds : List Char} (h : ds.length = 32) :
    dehyphenate? (hyphenate ds) = some ds := by
  match ds, h with
  | [a0, a1, a2, a3, a4, a5, a6, a7, b0, b1, b2, b3, c0, c1, c2, c3, d0, d1, d2, d3, e0, e1, e2, e3,
      e4, e5, e6, e7, e8, e9, e10, e11], _ => rfl

theorem unwrap_hyphenate {ds : List Char} (h : ds.length = 32)
    (hex : ∀ c ∈ ds, (Text.hexValue? c).isSome) : unwrap (hyphenate ds) = none := by
  match ds, h with
  | [a0, a1, a2, a3, a4, a5, a6, a7, b0, b1, b2, b3, c0, c1, c2, c3, d0, d1, d2, d3, e0, e1, e2, e3,
      e4, e5, e6, e7, e8, e9, e10, e11], _ =>
    have h0 : a0 ≠ '{' := by
      rintro rfl
      exact absurd (hex '{' (by simp)) (by decide)
    simp [unwrap, hyphenate, Text.lowerList, urn, h0]

theorem isSome_hexValue?_of_mem_hexPadded {width n : Nat} {c : Char}
    (h : c ∈ Text.hexPadded width n) : (Text.hexValue? c).isSome := by
  induction width generalizing n with
  | zero => simp [Text.hexPadded] at h
  | succ w ih =>
    rcases List.mem_append.1 h with h | h
    · exact ih h
    · rw [List.mem_singleton.1 h, Text.hexValue?_digitChar _ (Nat.mod_lt n (by decide))]
      rfl

theorem ofTextList?_textList (id : IssueId) : ofTextList? id.textList = some id := by
  have hlen := id.length_digits
  have hun := unwrap_hyphenate hlen fun c => isSome_hexValue?_of_mem_hexPadded
  have hlong : ofDigits? id.textList = none := by
    simp [ofDigits?, textList, hyphenate, hlen]
  simp only [ofTextList?, textList, hun]
  simp only [textList] at hlong
  rw [hlong, dehyphenate?_hyphenate hlen]
  simpa using id.ofDigits?_digits

theorem ofText?_text (id : IssueId) : ofText? id.text = some id := by
  simpa [ofText?, text] using id.ofTextList?_textList

theorem text_injective {a b : IssueId} (h : a.text = b.text) : a = b := by
  have ha := ofText?_text a
  rw [h, ofText?_text] at ha
  exact (Option.some.inj ha).symm

theorem read_textList (id : IssueId) : read id.textList = .ok id := by
  simp [read, ofTextList?_textList]

end IssueId

end SharedTodo
