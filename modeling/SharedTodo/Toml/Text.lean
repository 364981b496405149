import SharedTodo.Text.Ascii

/-!
# Lines, keys and texts of TOML

The smallest parts of a document: blanks, comments and line ends, the four kinds of quoted texts, and keys.
Every reader takes the start of a text and returns what is left of it.
-/

namespace SharedTodo.Toml

/-! ## Blanks and lines -/

def isSpace (c : Char) : Bool :=
  c = ' ' || c = '\t'

def skipSpaces (cs : List Char) : List Char :=
  cs.dropWhile isSpace

/-- A character that may stand on a line as it is. -/
def isPlain (c : Char) : Bool :=
  c = '\t' || (32 ≤ c.toNat && c.toNat ≠ 127)

def readNewline : List Char → Option (List Char)
  | '\n' :: cs => some cs
  | '\r' :: '\n' :: cs => some cs
  | _ => none

def skipComment : List Char → List Char
  | '#' :: cs => cs.dropWhile isPlain
  | cs => cs

/-- The end of a line, blanks and a comment before it included; the end of the text is one too. -/
def readLineEnd (cs : List Char) : Option (List Char) :=
  match skipComment (skipSpaces cs) with
  | [] => some []
  | cs => readNewline cs

/-- Skips blanks, comments and line ends. -/
def skipLines : Nat → List Char → List Char
  | 0, cs => cs
  | fuel + 1, cs =>
    match skipSpaces cs with
    | [] => []
    | cs =>
      match readNewline (skipComment cs) with
      | some rest => skipLines fuel rest
      | none => skipComment cs

/-! ## Quoted texts -/

/-- A character as it is, or an escape that stands for one, without the backslash. -/
def readEscape : List Char → Option (Char × List Char)
  | '"' :: cs => some ('"', cs)
  | '\\' :: cs => some ('\\', cs)
  | 'b' :: cs => some (Char.ofNat 8, cs)
  | 'f' :: cs => some (Char.ofNat 12, cs)
  | 'n' :: cs => some ('\n', cs)
  | 'r' :: cs => some ('\r', cs)
  | 't' :: cs => some ('\t', cs)
  | 'u' :: cs => code 4 cs
  | 'U' :: cs => code 8 cs
  | _ => none
where
  code (width : Nat) (cs : List Char) : Option (Char × List Char) :=
    if cs.length < width then none
    else
      match Text.readHex 0 (cs.take width) with
      | some n => if n.isValidChar then some (Char.ofNat n, cs.drop width) else none
      | none => none

/-- The rest of a text in double quotes. -/
def readBasic : Nat → List Char → Option (List Char × List Char)
  | 0, _ => none
  | _ + 1, [] => none
  | _ + 1, '"' :: cs => some ([], cs)
  | fuel + 1, '\\' :: cs => do
    let (c, cs) ← readEscape cs
    let (text, cs) ← readBasic fuel cs
    some (c :: text, cs)
  | fuel + 1, c :: cs =>
    if isPlain c then (readBasic fuel cs).map fun (text, cs) => (c :: text, cs) else none

/-- The rest of a text in single quotes. -/
def readLiteral (cs : List Char) : Option (List Char × List Char) :=
  let text := cs.takeWhile fun c => isPlain c && c ≠ '\''
  match cs.dropWhile fun c => isPlain c && c ≠ '\'' with
  | '\'' :: cs => some (text, cs)
  | _ => none

/-- The end of a text on several lines, if it is here: up to two of its quotes may stand before the three
that close it. -/
def readClosing (quote : Char) (cs : List Char) : Option (List Char × List Char) :=
  let count := min 5 (cs.takeWhile fun c => c = quote).length
  if 3 ≤ count then some (List.replicate (count - 3) quote, cs.drop count) else none

/-- Skips blanks and line ends. -/
def skipBlankLines : Nat → List Char → List Char
  | 0, cs => cs
  | fuel + 1, cs =>
    match readNewline (skipSpaces cs) with
    | some rest => skipBlankLines fuel rest
    | none => skipSpaces cs

/-- A backslash at the end of a line takes the line end and all blanks and line ends after it away. -/
def joinLines (cs : List Char) : Option (List Char) :=
  (readNewline (skipSpaces cs)).map fun cs => skipBlankLines (cs.length + 1) cs

/-- The rest of a text on several lines; with escapes if the quote is a double one. -/
def readLines (quote : Char) : Nat → List Char → Option (List Char × List Char)
  | 0, _ => none
  | fuel + 1, cs =>
    match readClosing quote cs with
    | some (text, cs) => some (text, cs)
    | none =>
      match readNewline cs with
      | some cs => (readLines quote fuel cs).map fun (text, cs) => ('\n' :: text, cs)
      | none =>
        match cs with
        | [] => none
        | c :: cs =>
          if c = '\\' ∧ quote = '"' then
            match joinLines cs with
            | some cs => readLines quote fuel cs
            | none => do
              let (c, cs) ← readEscape cs
              let (text, cs) ← readLines quote fuel cs
              some (c :: text, cs)
          else if isPlain c then (readLines quote fuel cs).map fun (text, cs) => (c :: text, cs)
          else none

/-- A line end right after the opening quotes is no part of a text. -/
def dropNewline (cs : List Char) : List Char :=
  (readNewline cs).getD cs

/-- A quoted text of any kind. -/
def readText : List Char → Option (String × List Char)
  | '"' :: '"' :: '"' :: cs => finish (readLines '"' (cs.length + 1) (dropNewline cs))
  | '\'' :: '\'' :: '\'' :: cs => finish (readLines '\'' (cs.length + 1) (dropNewline cs))
  | '"' :: cs => finish (readBasic (cs.length + 1) cs)
  | '\'' :: cs => finish (readLiteral cs)
  | _ => none
where
  finish (result : Option (List Char × List Char)) : Option (String × List Char) :=
    result.map fun (text, cs) => (String.ofList text, cs)

/-! ## Keys -/

def isKeyChar (c : Char) : Bool :=
  c.isAlphanum || c = '_' || c = '-'

def readKey : List Char → Option (String × List Char)
  | '"' :: cs => (readBasic (cs.length + 1) cs).map fun (key, cs) => (String.ofList key, cs)
  | '\'' :: cs => (readLiteral cs).map fun (key, cs) => (String.ofList key, cs)
  | cs =>
    let key := cs.takeWhile isKeyChar
    if key.isEmpty then none else some (String.ofList key, cs.dropWhile isKeyChar)

/-- Keys with dots between them, and the blanks around each. -/
def readKeys : Nat → List Char → Option (List String × List Char)
  | 0, _ => none
  | fuel + 1, cs => do
    let (key, cs) ← readKey (skipSpaces cs)
    match skipSpaces cs with
    | '.' :: cs =>
      let (keys, cs) ← readKeys fuel cs
      some (key :: keys, cs)
    | cs => some ([key], cs)

/-- The most keys in a path, and the most lists and tables inside of one another. -/
def deepest : Nat :=
  79

/-- A path of keys: those on the way and the last one. -/
def readPath (cs : List Char) : Option ((List String × String) × List Char) := do
  let (keys, cs) ← readKeys deepest cs
  match keys.reverse with
  | last :: way => some ((way.reverse, last), cs)
  | [] => none

end SharedTodo.Toml
