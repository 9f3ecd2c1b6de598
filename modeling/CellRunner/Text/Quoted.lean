import CellRunner.Text.Unshown

/-!
# Quoted text

A text between quotes: quotes and backslashes stand behind a backslash, the four common
controls have letters, and the characters that are not shown are written by number.
-/

set_option autoImplicit false

namespace CellRunner.Text.Quoted

def hexadecimal (n : Nat) : List Char := Nat.toDigits 16 n

/-- What stands for one character between quotes. -/
def written (c : Char) : List Char :=
  if c = '"' then ['\\', '"']
  else if c = '\\' then ['\\', '\\']
  else if c = '\t' then ['\\', 't']
  else if c = '\r' then ['\\', 'r']
  else if c = '\n' then ['\\', 'n']
  else if c.toNat = 0 then ['\\', '0']
  else if isUnshown c then ['\\', 'u', '{'] ++ hexadecimal c.toNat ++ ['}']
  else [c]

def encode (cs : List Char) : List Char := '"' :: cs.flatMap written ++ ['"']

end Quoted

def quoted (s : String) : String := String.ofList (Quoted.encode s.toList)

/-- A list of quoted texts in brackets. -/
def quotedList (ss : List String) : String :=
  "[" ++ String.intercalate ", " (ss.map quoted) ++ "]"

end CellRunner.Text
