import CellRunner.Decimal.Fixed
import CellRunner.Shell.Syntax

/-!
# Formatted text

Escapes in texts, and directives that put an argument into a field.
-/

set_option autoImplicit false

namespace CellRunner.Shell.Format

/-! ### Escapes -/

def isOctal (c : Char) : Bool := '0' ≤ c && c ≤ '7'

def octalValue (cs : Text) : Nat := cs.foldl (fun n c => n * 8 + (c.toNat - 48)) 0

def isHexadecimal (c : Char) : Bool :=
  c.isDigit || ('a' ≤ c && c ≤ 'f') || ('A' ≤ c && c ≤ 'F')

def digitValue (c : Char) : Nat :=
  if c.isDigit then c.toNat - 48 else if 'a' ≤ c then c.toNat - 87 else c.toNat - 55

def hexadecimalValue (cs : Text) : Nat := cs.foldl (fun n c => n * 16 + digitValue c) 0

def byte (n : Nat) : Char := Char.ofNat (n % 256)

def letterEscape? : Char → Option Char
  | 'a' => some '\x07'
  | 'b' => some '\x08'
  | 'e' => some '\x1b'
  | 'f' => some '\x0c'
  | 'n' => some '\n'
  | 'r' => some '\r'
  | 't' => some '\t'
  | 'v' => some '\x0b'
  | '\\' => some '\\'
  | _ => none

/-- What an escape after a backslash stands for, and the rest. -/
def escape (cs : Text) : Text × Text :=
  match cs with
  | [] => (['\\'], [])
  | c :: rest =>
    match letterEscape? c with
    | some d => ([d], rest)
    | none =>
      if isOctal c then
        let digits := (cs.take 3).takeWhile isOctal
        ([byte (octalValue digits)], cs.drop digits.length)
      else (['\\', c], rest)

/-- The bytes of a character with this code point. -/
def codePoint (n : Nat) : Text :=
  if n.isValidChar then ofString (String.singleton (Char.ofNat n)) else []

/-- As `escape`, with some more escapes: hexadecimal numbers, code points and quotes. -/
def richEscape (cs : Text) : Text × Text :=
  match cs with
  | 'e' :: rest => (['\x1b'], rest)
  | 'E' :: rest => (['\x1b'], rest)
  | '"' :: rest => (['"'], rest)
  | '\'' :: rest => (['\''], rest)
  | '?' :: rest => (['?'], rest)
  | 'x' :: rest =>
    let digits := (rest.take 2).takeWhile isHexadecimal
    if digits.isEmpty then (['\\', 'x'], rest)
    else ([byte (hexadecimalValue digits)], rest.drop digits.length)
  | 'u' :: rest =>
    let digits := (rest.take 4).takeWhile isHexadecimal
    if digits.isEmpty then (['\\', 'u'], rest)
    else (codePoint (hexadecimalValue digits), rest.drop digits.length)
  | 'U' :: rest =>
    let digits := (rest.take 8).takeWhile isHexadecimal
    if digits.isEmpty then (['\\', 'U'], rest)
    else (codePoint (hexadecimalValue digits), rest.drop digits.length)
  | _ => escape cs

/-- What stands between a dollar sign with a single quote and the closing quote. -/
def escapesFrom : Nat → Text → Text → Text
  | 0, _, out => out.reverse
  | _ + 1, [], out => out.reverse
  | fuel + 1, c :: cs, out =>
    if c = '\\' then
      match cs with
      | 'c' :: d :: rest => escapesFrom fuel rest (byte (d.toUpper.toNat ^^^ 64) :: out)
      | _ =>
        let (made, rest) := richEscape cs
        escapesFrom fuel rest (made.reverse ++ out)
    else escapesFrom fuel cs (c :: out)

def escapes (cs : Text) : Text := escapesFrom (cs.length + 1) cs []

/-- A character as it stands in quotes after a dollar sign. -/
def quotedChar (c : Char) : Text :=
  if c = '\'' then "\\'".toList
  else if c = '\x1b' then "\\E".toList
  else
    match "\x07\x08\t\n\x0b\x0c\r\\".toList.idxOf? c with
    | some i => ['\\', "abtnvfr\\".toList.getD i c]
    | none =>
      if c < ' ' || c.toNat ≥ 127 then
        let ds := Nat.toDigits 8 c.toNat
        '\\' :: List.replicate (3 - ds.length) '0' ++ ds
      else [c]

/-- A text in quotes after a dollar sign. -/
def escapeQuoted (cs : Text) : Text := '$' :: '\'' :: cs.flatMap quotedChar ++ ['\'']

/-- A text with its escapes carried out, and whether an escape ended all output. An octal
number may have a zero in front of its three digits. -/
def expanded (rich : Bool) : Nat → Text → Text → Text × Bool
  | 0, _, out => (out.reverse, false)
  | _ + 1, [], out => (out.reverse, false)
  | fuel + 1, c :: cs, out =>
    if c = '\\' then
      match cs with
      | 'c' :: _ => (out.reverse, true)
      | '0' :: rest =>
        let digits := (rest.take 3).takeWhile isOctal
        expanded rich fuel (rest.drop digits.length) (byte (octalValue digits) :: out)
      | _ =>
        let (made, rest) := if rich then richEscape cs else escape cs
        expanded rich fuel rest (made.reverse ++ out)
    else expanded rich fuel cs (c :: out)

def unescape (rich : Bool) (cs : Text) : Text × Bool := expanded rich (cs.length + 1) cs []

/-- As `unescape`, where an octal number has to begin with a zero. -/
def echoFrom : Nat → Text → Text → Text × Bool
  | 0, _, out => (out.reverse, false)
  | _ + 1, [], out => (out.reverse, false)
  | fuel + 1, c :: cs, out =>
    if c = '\\' then
      match cs with
      | 'c' :: _ => (out.reverse, true)
      | '0' :: rest =>
        let digits := (rest.take 3).takeWhile isOctal
        echoFrom fuel (rest.drop digits.length) (byte (octalValue digits) :: out)
      | d :: rest =>
        if isOctal d || d = '"' || d = '\'' || d = '?' then echoFrom fuel rest (d :: '\\' :: out)
        else
          let (made, rest) := richEscape (d :: rest)
          echoFrom fuel rest (made.reverse ++ out)
      | [] => (('\\' :: out).reverse, false)
    else echoFrom fuel cs (c :: out)

def echoEscapes (cs : Text) : Text × Bool := echoFrom (cs.length + 1) cs []

/-! ### Directives -/

/-- A width or a precision, or that an argument tells it. -/
inductive Amount where
  | number (n : Nat)
  | argument
  deriving DecidableEq, Repr

/-- A directive after a percent sign; `kind` is missing when the text ends before it. -/
structure Directive where
  left : Bool := false
  zero : Bool := false
  plus : Bool := false
  space : Bool := false
  alternate : Bool := false
  width : Amount := .number 0
  precision : Option Amount := none
  kind : Option Char := none
  deriving DecidableEq, Repr

def flag (d : Directive) : Char → Option Directive
  | '-' => some { d with left := true }
  | '0' => some { d with zero := true }
  | '+' => some { d with plus := true }
  | ' ' => some { d with space := true }
  | '#' => some { d with alternate := true }
  | '\'' => some d
  | _ => none

def flags : Text → Directive → Directive × Text
  | [], d => (d, [])
  | x :: xs, d =>
    match flag d x with
    | some d => flags xs d
    | none => (d, x :: xs)

def decimal (cs : Text) : Nat := cs.foldl (fun n c => n * 10 + (c.toNat - 48)) 0

def amount : Text → Amount × Text
  | '*' :: rest => (.argument, rest)
  | cs => (.number (decimal (cs.takeWhile Char.isDigit)), cs.dropWhile Char.isDigit)

/-- The directive at the front, and the rest; characters in `sizes` before its kind have no
meaning. -/
def directive (sizes : List Char) (cs : Text) : Directive × Text :=
  let (d, cs) := flags cs {}
  let (width, cs) := amount cs
  let d := { d with width }
  let (d, cs) := match cs with
    | '.' :: rest =>
      let (precision, rest) := amount rest
      ({ d with precision := some precision }, rest)
    | _ => (d, cs)
  match cs.dropWhile sizes.contains with
  | kind :: rest => ({ d with kind := some kind }, rest)
  | [] => (d, [])

/-- A field with its width and precision known. -/
structure Field where
  directive : Directive
  width : Nat
  precision : Option Nat

def Field.left (f : Field) : Bool := f.directive.left

def pad (f : Field) (cs : Text) : Text :=
  let n := f.width - cs.length
  if f.left then cs ++ List.replicate n ' ' else List.replicate n ' ' ++ cs

/-- Digits with what stands before them; zeros may fill the width between the two. -/
def padNumber (f : Field) (zeros : Bool) (front digits : Text) : Text :=
  let n := f.width - front.length - digits.length
  if zeros && !f.left then front ++ List.replicate n '0' ++ digits
  else pad f (front ++ digits)

def text (f : Field) (cs : Text) : Text :=
  pad f (match f.precision with
    | some n => cs.take n
    | none => cs)

def sign (f : Field) (negative : Bool) : Text :=
  if negative then ['-'] else if f.directive.plus then ['+'] else if f.directive.space then [' ']
  else []

/-- Digits with as many zeros in front as the precision asks for. -/
def digitsOf (f : Field) (base n : Nat) : Text :=
  let ds := if n = 0 && f.precision = some 0 then [] else Nat.toDigits base n
  List.replicate ((f.precision.getD 0) - ds.length) '0' ++ ds

def signed (f : Field) (n : Int) : Text :=
  padNumber f (f.directive.zero && f.precision.isNone) (sign f (n < 0)) (digitsOf f 10 n.natAbs)

/-- A number without a sign, octal, decimal or hexadecimal. -/
def unsigned (f : Field) (kind : Char) (n : Nat) : Text :=
  let zeros := f.directive.zero && f.precision.isNone
  if kind = 'x' || kind = 'X' then
    let ds := digitsOf f 16 n
    let ds := if kind = 'X' then ds.map Char.toUpper else ds
    padNumber f zeros (if f.directive.alternate && n != 0 then ['0', kind] else []) ds
  else if kind = 'o' then
    let ds := digitsOf f 8 n
    padNumber f zeros []
      (if f.directive.alternate && ds.head? != some '0' then '0' :: ds else ds)
  else padNumber f zeros [] (digitsOf f 10 n)

open Decimal (Fraction)

/-- A number with a fraction, or none. -/
inductive Floating where
  | finite (negative : Bool) (value : Fraction)
  | infinite (negative : Bool)
  | notANumber (negative : Bool)
  deriving DecidableEq, Repr

def withPoint (keep : Bool) (whole places : Text) : Text :=
  if places.isEmpty && !keep then whole else whole ++ '.' :: places

def exponentText (e : Int) : Text :=
  let ds := Nat.toDigits 10 e.natAbs
  'e' :: (if e < 0 then '-' else '+') :: (if ds.length < 2 then '0' :: ds else ds)

def fixed (x : Fraction) (places : Nat) (keep : Bool) : Text :=
  let (whole, rest) := x.positional places
  withPoint keep whole rest

def scientific (x : Fraction) (places : Nat) (keep : Bool) : Text :=
  let (e, ds) := x.scientific (places + 1)
  withPoint keep (ds.take 1) (ds.drop 1) ++ exponentText e

def dropZeros (cs : Text) : Text := (cs.reverse.dropWhile (· = '0')).reverse

/-- Positional or scientific, whichever is shorter, without zeros at the end. -/
def general (x : Fraction) (digits : Nat) (keep : Bool) : Text :=
  let digits := max digits 1
  let (e, ds) := x.scientific digits
  if e < -4 || e ≥ digits then
    let rest := if keep then ds.drop 1 else dropZeros (ds.drop 1)
    withPoint keep (ds.take 1) rest ++ exponentText e
  else
    let (whole, rest) := x.positional (digits - 1 - e).toNat
    withPoint keep whole (if keep then rest else dropZeros rest)

/-- A number as the kinds `e`, `f` and `g` write it; capital kinds use capital letters. -/
def real (f : Field) (kind : Char) (x : Floating) : Text :=
  let precision := f.precision.getD 6
  let keep := f.directive.alternate
  let capital (cs : Text) : Text := if kind.isUpper then cs.map Char.toUpper else cs
  match x with
  | .infinite negative => padNumber f false (sign f negative) (capital "inf".toList)
  | .notANumber negative => padNumber f false (sign f negative) (capital "nan".toList)
  | .finite negative v =>
    let ds := match kind.toLower with
      | 'f' => fixed v precision keep
      | 'e' => scientific v precision keep
      | _ => general v precision keep
    padNumber f f.directive.zero (sign f negative) (capital ds)

/-! ### Numbers in arguments -/

def isSpace (c : Char) : Bool := c = ' ' || ('\t' ≤ c && c ≤ '\r')

/-- The sign at the front, and the rest. -/
def signAt : Text → Bool × Text
  | '-' :: cs => (true, cs)
  | '+' :: cs => (false, cs)
  | cs => (false, cs)

/-- The number that a text begins with, octal after a zero and hexadecimal after `0x`, its
sign, and what is left; none if there is no digit. -/
def integerAt (cs : Text) : Option (Bool × Nat × Text) :=
  let (negative, ds) := signAt (cs.dropWhile isSpace)
  match ds with
  | '0' :: x :: rest =>
    let hex := rest.takeWhile isHexadecimal
    if (x = 'x' || x = 'X') && !hex.isEmpty then
      some (negative, hexadecimalValue hex, rest.drop hex.length)
    else
      let oct := ds.takeWhile isOctal
      some (negative, octalValue oct, ds.drop oct.length)
  | _ =>
    let digits := ds.takeWhile Char.isDigit
    if digits.isEmpty then none else some (negative, decimal digits, ds.drop digits.length)

def greatest : Nat := Nat.pow 2 63 - 1

/-- A number within the range of signed numbers, and whether it was so before. -/
def clampSigned (negative : Bool) (n : Nat) : Int × Bool :=
  if negative then (if n > greatest + 1 then (-(greatest + 1 : Nat), false) else (-(n : Int), true))
  else if n > greatest then (greatest, false) else (n, true)

/-- A number modulo the range of unsigned numbers, and whether it was within the range. -/
def clampUnsigned (negative : Bool) (n : Nat) : Nat × Bool :=
  if n ≥ Nat.pow 2 64 then (Nat.pow 2 64 - 1, false)
  else (if negative then (Nat.pow 2 64 - n) % Nat.pow 2 64 else n, true)

/-- Digits with a point among them, as digits and the number of places. -/
def decimalAt (cs : Text) : Option (Nat × Nat × Text) :=
  let whole := cs.takeWhile Char.isDigit
  let after := cs.drop whole.length
  match after with
  | '.' :: rest =>
    let places := rest.takeWhile Char.isDigit
    if whole.isEmpty && places.isEmpty then none
    else some (decimal (whole ++ places), places.length, rest.drop places.length)
  | _ => if whole.isEmpty then none else some (decimal whole, 0, after)

/-- An exponent at the front, if there is one. -/
def exponentAt (cs : Text) : Int × Text :=
  match cs with
  | e :: rest =>
    if e = 'e' || e = 'E' then
      let (negative, ds) := signAt rest
      let digits := ds.takeWhile Char.isDigit
      if digits.isEmpty then (0, cs)
      else
        let n : Int := min (decimal digits) 99999
        (if negative then -n else n, ds.drop digits.length)
    else (0, cs)
  | [] => (0, [])

/-- The number that a text begins with, to its exact value, and what is left. -/
def realAt (cs : Text) : Option (Floating × Text) :=
  let (negative, ds) := signAt (cs.dropWhile isSpace)
  let startsWith (s : String) : Bool := s.toList.isPrefixOf (ds.map Char.toLower)
  if startsWith "infinity" then some (.infinite negative, ds.drop 8)
  else if startsWith "inf" then some (.infinite negative, ds.drop 3)
  else if startsWith "nan" then some (.notANumber negative, ds.drop 3)
  else
    match ds with
    | '0' :: x :: rest =>
      let hex := rest.takeWhile isHexadecimal
      if (x = 'x' || x = 'X') && !hex.isEmpty then
        some (.finite negative ⟨hexadecimalValue hex, 1⟩, rest.drop hex.length)
      else plain negative ds
    | _ => plain negative ds
where
  plain (negative : Bool) (ds : Text) : Option (Floating × Text) :=
    (decimalAt ds).map fun (digits, places, rest) =>
      let (e, rest) := exponentAt rest
      (.finite negative (Fraction.ofDecimal digits (e - places)), rest)

/-- A number with at most the digits of a double-precision one, or an extended one. -/
def Floating.limited (extended : Bool) : Floating → Floating
  | .finite negative x => .finite negative (if extended then x.toExtended else x.toDouble)
  | x => x

/-- The whole decimal number that a text spells. -/
def number (cs : Text) : Int × Bool :=
  match integerAt cs with
  | some (negative, n, rest) => (if negative then -(n : Int) else n, rest.isEmpty)
  | none => (0, cs.isEmpty)

/-- Whether a text has to be quoted to be read as one word. -/
def isSpecial (cs : Text) : Bool :=
  let always : List Char := " \t\n'\"\\|&;()<>!\x7b\x7d*[?]^$\x60".toList
  cs.any always.contains || (cs.zip (' ' :: cs)).any fun (c, before) =>
    (c = '~' && (before = ' ' || before = '=' || before = ':')) || (c = '#' && before = ' ')

/-- A text in single quotes. -/
def singleQuoted (cs : Text) : Text :=
  '\'' :: cs.flatMap (fun c => if c = '\'' then "'\\''".toList else [c]) ++ ['\'']

end CellRunner.Shell.Format
