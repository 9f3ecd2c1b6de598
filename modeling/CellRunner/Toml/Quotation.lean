import CellRunner.Toml.Cursor
import CellRunner.Toml.Scalar

/-!
# Quoted strings of a document

Basic strings know escapes and literal ones do not; each kind stands on one line between
single quotes or over several lines between triple ones.
-/

set_option autoImplicit false

namespace CellRunner.Toml.Quotation

open Reader

/-- The character with this code point, if it is one. -/
def character? (n : Nat) : Option Char := if n.isValidChar then some (Char.ofNat n) else none

/-- The character that `n` hexadecimal digits give. -/
def hexadecimal (n : Nat) : Reader Char := do
  let ds := (← get).rest.take n
  if ds.length = n && ds.all Scalar.isHexadecimal then
    skip n
    match character? (Scalar.digitsValue 16 ds) with
    | some c => return c
    | none => refuse
  else refuse

/-- What follows a backslash. -/
def escape : Reader Char := do
  match ← any with
  | 'b' => return '\x08'
  | 't' => return '\t'
  | 'n' => return '\n'
  | 'f' => return '\x0c'
  | 'r' => return '\r'
  | 'e' => return '\x1b'
  | '"' => return '"'
  | '\\' => return '\\'
  | 'x' => hexadecimal 2
  | 'u' => hexadecimal 4
  | 'U' => hexadecimal 8
  | _ => refuse

/-- Blanks and line breaks; `fuel` bounds the number of steps. -/
def whiteSpace : Nat → Reader Unit
  | 0 => refuse
  | fuel + 1 => do
    spaces
    if ← lineBreak then whiteSpace fuel

/-- After a backslash at the end of a line: the line break and all blanks after it. -/
def continuation (fuel : Nat) : Reader Bool := do
  let s ← get
  spaces
  if ← lineBreak then
    whiteSpace fuel
    return true
  else
    set s
    return false

/-- The rest of a string on one line; `out` is what has been read, last character first. -/
def line (quote : Char) : Nat → List Char → Reader (List Char)
  | 0, _ => refuse
  | fuel + 1, out => do
    let c ← any
    if c = quote then return out.reverse
    else if c = '\\' && quote = '"' then
      let e ← escape
      line quote fuel (e :: out)
    else if isPlain c then line quote fuel (c :: out)
    else refuse

/-- The number of quotes that come next. -/
def quotes (quote : Char) : Reader Nat := do
  return ((← get).rest.takeWhile (· == quote)).length

/-- The rest of a string over several lines. Three quotes close it; up to two more before
them belong to it. -/
def block (quote : Char) : Nat → List Char → Reader (List Char)
  | 0, _ => refuse
  | fuel + 1, out => do
    let n ← quotes quote
    if 3 ≤ n then
      let inside := min (n - 3) 2
      skip (inside + 3)
      return (List.replicate inside quote ++ out).reverse
    else if ← accept ['\r', '\n'] then block quote fuel ('\n' :: '\r' :: out)
    else
      let c ← any
      if c = '\\' && quote = '"' then
        if ← continuation fuel then block quote fuel out
        else
          let e ← escape
          block quote fuel (e :: out)
      else if isPlain c || c = '\n' then block quote fuel (c :: out)
      else refuse

/-- A quoted string on one line. -/
def short : Reader String := do
  let quote ← any
  return String.ofList (← line quote ((← get).rest.length + 1) [])

/-- A quoted string of any kind. -/
def string : Reader String := do
  match (← get).rest with
  | q :: r :: s :: _ =>
    if q = r && q = s then
      skip 3
      let _ ← lineBreak
      return String.ofList (← block q ((← get).rest.length + 1) [])
    else short
  | _ => short

end CellRunner.Toml.Quotation
