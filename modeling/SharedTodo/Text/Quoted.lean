import SharedTodo.Text.Ascii
import SharedTodo.Text.Shown

/-!
# Quoted text

A text between double quotes, for showing it in a message. Quote and backslash have a backslash in front,
tab, line feed, carriage return and NUL are written as letters, and any other character that would not show
is written by its code point.
-/

namespace SharedTodo.Text

def hexadecimal (n : Nat) : List Char :=
  Nat.toDigits 16 n

def quotedChar (c : Char) : List Char :=
  if c = '"' ∨ c = '\\' then ['\\', c]
  else if c = '\t' then ['\\', 't']
  else if c = '\n' then ['\\', 'n']
  else if c = '\r' then ['\\', 'r']
  else if c.toNat = 0 then ['\\', '0']
  else if isShown c then [c]
  else '\\' :: 'u' :: '\x7b' :: hexadecimal c.toNat ++ ['\x7d']

def quoted (s : String) : String :=
  String.ofList ('"' :: s.toList.flatMap quotedChar ++ ['"'])

end SharedTodo.Text
