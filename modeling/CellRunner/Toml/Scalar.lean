/-!
# Scalars of a TOML document

The spellings of numbers, truth values and dates that stand without quotes.
-/

set_option autoImplicit false

namespace CellRunner.Toml

inductive Scalar where
  | string (text : String)
  | integer (value : Int)
  /-- the value `digits * 10 ^ place`, with a sign -/
  | float (negative : Bool) (digits : Nat) (place : Int)
  | infinity (negative : Bool)
  | notANumber (negative : Bool)
  | boolean (value : Bool)
  /-- a date, a time, or both -/
  | moment
  deriving DecidableEq, Repr

namespace Scalar

def isHexadecimal (c : Char) : Bool :=
  c.isDigit || ('a' ≤ c && c ≤ 'f') || ('A' ≤ c && c ≤ 'F')

def digitValue (c : Char) : Nat :=
  if c.isDigit then c.toNat - 48
  else if 'a' ≤ c && c ≤ 'f' then c.toNat - 87
  else c.toNat - 55

def digitsValue (base : Nat) (ds : List Char) : Nat :=
  ds.foldl (fun n d => n * base + digitValue d) 0

/-- At least one digit; single underscores may stand between two digits, and are left out. -/
def grouped (isDigit : Char → Bool) : List Char → Option (List Char)
  | [] => none
  | [c] => if isDigit c then some [c] else none
  | c :: '_' :: cs => if isDigit c then (grouped isDigit cs).map (c :: ·) else none
  | c :: cs => if isDigit c then (grouped isDigit cs).map (c :: ·) else none

/-- Decimal digits without a needless zero in front. -/
def wholeDigits (cs : List Char) : Option (List Char) :=
  match grouped Char.isDigit cs with
  | some ('0' :: _ :: _) => none
  | r => r

/-- The sign, if any, and what follows it. -/
def signed : List Char → Bool × List Char
  | '-' :: cs => (true, cs)
  | '+' :: cs => (false, cs)
  | cs => (false, cs)

def integer? (cs : List Char) : Option Scalar :=
  let based (base : Nat) (isDigit : Char → Bool) (ds : List Char) : Option Scalar :=
    (grouped isDigit ds).map fun ds => .integer (digitsValue base ds)
  match cs with
  | '0' :: 'x' :: ds => based 16 isHexadecimal ds
  | '0' :: 'o' :: ds => based 8 (fun c => '0' ≤ c && c ≤ '7') ds
  | '0' :: 'b' :: ds => based 2 (fun c => c = '0' || c = '1') ds
  | _ =>
    let (negative, ds) := signed cs
    (wholeDigits ds).map fun ds =>
      let n : Int := digitsValue 10 ds
      .integer (if negative then -n else n)

/-- The exponent after its mark; zero when there is none. -/
def exponent? : List Char → Option Int
  | [] => some 0
  | _ :: cs =>
    let (negative, ds) := signed cs
    (grouped Char.isDigit ds).map fun ds =>
      let n : Int := digitsValue 10 ds
      if negative then -n else n

/-- The digits after the point; empty when there is no point. -/
def fraction? : List Char → Option (List Char)
  | [] => some []
  | _ :: cs => grouped Char.isDigit cs

def isExponentMark (c : Char) : Bool := c = 'e' || c = 'E'

def float? (cs : List Char) : Option Scalar :=
  let (negative, cs) := signed cs
  if cs = ['i', 'n', 'f'] then some (.infinity negative)
  else if cs = ['n', 'a', 'n'] then some (.notANumber negative)
  else do
    let mantissa := cs.takeWhile (!isExponentMark ·)
    let whole ← wholeDigits (mantissa.takeWhile (· != '.'))
    let fraction ← fraction? (mantissa.dropWhile (· != '.'))
    let exponent ← exponent? (cs.dropWhile (!isExponentMark ·))
    some (.float negative (digitsValue 10 (whole ++ fraction)) (exponent - fraction.length))

def boolean? : List Char → Option Scalar
  | ['t', 'r', 'u', 'e'] => some (.boolean true)
  | ['f', 'a', 'l', 's', 'e'] => some (.boolean false)
  | _ => none

/-- Exactly `n` digits, then the rest. -/
def number? (n : Nat) (cs : List Char) : Option (Nat × List Char) :=
  let ds := cs.take n
  if ds.length = n && ds.all Char.isDigit then some (digitsValue 10 ds, cs.drop n) else none

def after? (c : Char) : List Char → Option (List Char)
  | d :: cs => if d = c then some cs else none
  | [] => none

def isLeapYear (y : Nat) : Bool := y % 4 = 0 && (y % 100 != 0 || y % 400 = 0)

def monthDays (y m : Nat) : Nat :=
  if m = 2 then (if isLeapYear y then 29 else 28)
  else if m = 4 || m = 6 || m = 9 || m = 11 then 30
  else 31

/-- A date at the front. -/
def afterDate? (cs : List Char) : Option (List Char) := do
  let (y, cs) ← number? 4 cs
  let cs ← after? '-' cs
  let (m, cs) ← number? 2 cs
  let cs ← after? '-' cs
  let (d, cs) ← number? 2 cs
  if 1 ≤ m && m ≤ 12 && 1 ≤ d && d ≤ monthDays y m then some cs else none

/-- Hours and minutes at the front. -/
def afterHours? (cs : List Char) : Option (List Char) := do
  let (h, cs) ← number? 2 cs
  let cs ← after? ':' cs
  let (m, cs) ← number? 2 cs
  if h ≤ 23 && m ≤ 59 then some cs else none

/-- A time at the front; it may have seconds, and these a fraction. -/
def afterTime? (cs : List Char) : Option (List Char) := do
  match ← afterHours? cs with
  | ':' :: cs =>
    let (s, cs) ← number? 2 cs
    if s ≤ 60 then
      match cs with
      | '.' :: ds =>
        if (ds.takeWhile Char.isDigit).isEmpty then none else some (ds.dropWhile Char.isDigit)
      | _ => some cs
    else none
  | cs => some cs

def isOffset : List Char → Bool
  | ['Z'] => true
  | ['z'] => true
  | '+' :: cs => afterHours? cs == some []
  | '-' :: cs => afterHours? cs == some []
  | _ => false

def moment? (cs : List Char) : Option Scalar :=
  match afterDate? cs with
  | some [] => some .moment
  | some (c :: cs) =>
    if c = 'T' || c = 't' || c = ' ' then
      match afterTime? cs with
      | some rest => if rest.isEmpty || isOffset rest then some .moment else none
      | none => none
    else none
  | none => if afterTime? cs == some [] then some .moment else none

/-- The scalar that a run of characters without quotes spells. -/
def ofRun? (cs : List Char) : Option Scalar :=
  boolean? cs <|> integer? cs <|> float? cs <|> moment? cs

end Scalar

end CellRunner.Toml
