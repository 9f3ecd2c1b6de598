import CellRunner.Tool.Records.Number
import CellRunner.Tool.Records.Syntax
import CellRunner.Tool.Records.Table

/-!
# Values of records

A value is a number or a text. Text that was read counts as a number where it looks like one.
-/

set_option autoImplicit false

namespace CellRunner.Tool.Records

open Shell (Text)
open Shell.Format (Directive Field)

inductive Value where
  | unset
  | number (x : Float)
  | text (cs : Text)
  /-- text that was read -/
  | input (cs : Text)

namespace Value

instance : Inhabited Value := ⟨.unset⟩

def toNumber : Value → Float
  | .unset => 0
  | .number x => x
  | .text cs => numberAt cs
  | .input cs => numberAt cs

/-- The number that a value is, if it may be compared as one. -/
def asNumber? : Value → Option Float
  | .unset => some 0
  | .number x => some x
  | .text _ => none
  | .input cs => number? cs

def holds : Value → Bool
  | .unset => false
  | .number x => x != 0
  | .text cs => !cs.isEmpty
  | .input cs =>
    match number? cs with
    | some x => x != 0
    | none => !cs.isEmpty

end Value

/-! ### Formats -/

inductive FormatFault where
  | tooFew
  | improper (count : Nat)

/-- A whole number within what a directive can write. -/
def clamped (x : Float) : Int :=
  if x.isNaN || x < -9223372036854775808.0 then -(Int.pow 2 63)
  else if x ≥ 18446744073709551616.0 then Int.pow 2 64 - 1
  else whole x

/-- A value as a directive writes it. -/
def filled (spell : Value → Text) (f : Field) (kind : Char) (v : Value) : Option Text :=
  match kind with
  | 'd' => some (Shell.Format.signed f (clamped v.toNumber))
  | 'i' => some (Shell.Format.signed f (clamped v.toNumber))
  | 's' => some (Shell.Format.text f (spell v))
  | 'c' =>
    let c := match v with
      | .number x => Shell.Format.byte (place x % 256).toNat
      | v => (spell v).headD '\x00'
    some (Shell.Format.pad f [c])
  | _ =>
    if "ouxX".toList.contains kind then
      some (Shell.Format.unsigned f kind (clamped v.toNumber % Int.pow 2 64).toNat)
    else if "eEfFgG".toList.contains kind then
      some (Shell.Format.real f kind (toReal v.toNumber))
    else none

/-- A format with values put into it, the parts of the result last first, and what went wrong;
`fuel` bounds the number of directives. -/
def formatFrom (spell : Value → Text) :
    Nat → Nat → Text → List Value → List Text → List Text × Option FormatFault
  | 0, _, _, _, out => (out, none)
  | fuel + 1, count, cs, vs, out =>
    let (plain, rest) := cs.span (· != '%')
    let out := plain :: out
    match rest with
    | [] => (out, none)
    | _ :: '%' :: rest => formatFrom spell fuel count rest vs (['%'] :: out)
    | _ :: rest =>
      let (d, rest) := Shell.Format.directive ['l', 'h', 'q', 'L', 'z', 'j', 't'] rest
      let take (vs : List Value) : Option (Int × List Value) :=
        match vs with
        | v :: vs => some (place v.toNumber, vs)
        | [] => none
      let amount (a : Shell.Format.Amount) (vs : List Value) : Option (Int × List Value) :=
        match a with
        | .number n => some (n, vs)
        | .argument => take vs
      match amount d.width vs with
      | none => (out, some .tooFew)
      | some (width, vs) =>
        let precision := match d.precision with
          | none => some ((none : Option Int), vs)
          | some a => (amount a vs).map fun (n, vs) => (some n, vs)
        match precision with
        | none => (out, some .tooFew)
        | some (precision, vs) =>
          let d := if width < 0 then { d with left := true } else d
          let f : Field :=
            { directive := d, width := width.natAbs
              precision := precision.bind fun n => if n < 0 then none else some n.toNat }
          match d.kind, vs with
          | none, _ => (out, some .tooFew)
          | some kind, vs =>
            if !"discouxXeEfFgG".toList.contains kind then (out, some (.improper (count + 1)))
            else
              match vs with
              | [] => (out, some .tooFew)
              | v :: vs =>
                match filled spell f kind v with
                | some piece => formatFrom spell fuel (count + 1) rest vs (piece :: out)
                | none => (out, some (.improper (count + 1)))

/-- A number as text, by a format unless it is whole. -/
def spelled (format : Text) (x : Float) : Text :=
  if isWhole x then ofInt (whole x)
  else
    ((formatFrom (fun _ => []) (format.length + 1) 0 format [.number x] []).1).reverse.flatten
where
  ofInt (n : Int) : Text := Order.spell n

def Value.toText (format : Text) : Value → Text
  | .unset => []
  | .number x => spelled format x
  | .text cs => cs
  | .input cs => cs

/-- The key that a value is. -/
def Value.key (format : Text) : Value → Key
  | .number x =>
    if isWhole x && x.abs < 2147483648.0 then .number (whole x) else .text (spelled format x)
  | v => .text (v.toText format)

def compareTexts : Text → Text → Ordering
  | [], [] => .eq
  | [], _ => .lt
  | _, [] => .gt
  | a :: as, b :: bs => if a < b then .lt else if b < a then .gt else compareTexts as bs

def Relation.holds (op : Relation) (o : Ordering) : Bool :=
  match op with
  | .less => o == .lt
  | .lessEqual => o != .gt
  | .equal => o == .eq
  | .different => o != .eq
  | .greater => o == .gt
  | .greaterEqual => o != .lt

/-- Compares numbers as such, and all else as texts. -/
def compareValues (format : Text) (op : Relation) (a b : Value) : Bool :=
  match a.asNumber?, b.asNumber? with
  | some x, some y =>
    match op with
    | .less => x < y
    | .lessEqual => x ≤ y
    | .equal => x == y
    | .different => x != y
    | .greater => x > y
    | .greaterEqual => x ≥ y
  | _, _ => op.holds (compareTexts (a.toText format) (b.toText format))

def Arithmetic.apply (op : Arithmetic) (x y : Float) : Float :=
  match op with
  | .add => x + y
  | .subtract => x - y
  | .multiply => x * y
  | .divide => x / y
  | .remainder => remainderOf x y
  | .power => x.pow y

/-! ### Separators -/

inductive Separator where
  | blanks
  | each
  | char (c : Char)
  | pattern (r : Regex)

def isBlank (c : Char) : Bool := c = ' ' || ('\t' ≤ c && c ≤ '\r')

/-- The words between blanks, the present one backwards. -/
def wordsFrom : Text → Text → List Text
  | word, [] => if word.isEmpty then [] else [word.reverse]
  | word, c :: cs =>
    if isBlank c then
      if word.isEmpty then wordsFrom [] cs else word.reverse :: wordsFrom [] cs
    else wordsFrom (c :: word) cs

def splitAt (p : Char → Bool) : Text → Text → List Text
  | word, [] => [word.reverse]
  | word, c :: cs => if p c then word.reverse :: splitAt p [] cs else splitAt p (c :: word) cs

/-- The parts between matches that are not empty; `fuel` bounds their number. -/
def splitBy (r : Regex) (cs : Text) : Nat → Nat → Nat → List Text
  | 0, begin_, _ => [cs.drop begin_]
  | fuel + 1, begin_, start =>
    match Regex.find? {} r cs start with
    | none => [cs.drop begin_]
    | some m =>
      if m.start = m.stop then
        if m.stop ≥ cs.length then [cs.drop begin_] else splitBy r cs fuel begin_ (m.stop + 1)
      else Regex.Match.part cs begin_ m.start :: splitBy r cs fuel m.stop m.stop

def parts (s : Separator) (cs : Text) : List Text :=
  if cs.isEmpty then []
  else
    match s with
    | .blanks => wordsFrom [] cs
    | .each => cs.map ([·])
    | .char c => splitAt (· = c) [] cs
    | .pattern r => splitBy r cs (cs.length + 1) 0 0

/-! ### Substitutions -/

/-- What is put in place of a match: an ampersand stands for the match unless a backslash is
before it, and of backslashes before an ampersand two stand for one. -/
def replaced (found : Text) : Nat → Text → Text
  | n, [] => List.replicate n '\\'
  | n, c :: cs =>
    if c = '\\' then replaced found (n + 1) cs
    else if c = '&' then
      List.replicate (n / 2) '\\' ++ (if n % 2 = 1 then ['&'] else found) ++ replaced found 0 cs
    else List.replicate n '\\' ++ c :: replaced found 0 cs

/-- Replaces the first match or all, from a place in the text on; `done` holds what comes
before, the last part first, `edge` the end of the last match, and `fuel` bounds the matches. -/
def substituteFrom (r : Regex) (all : Bool) (target text : Text) :
    Nat → Nat → Option Nat → List Text → Nat → Text × Nat
  | 0, start, _, done, count => ((text.drop start :: done).reverse.flatten, count)
  | fuel + 1, start, edge, done, count =>
    match if start > text.length then none else Regex.find? {} r text start with
    | none => ((text.drop start :: done).reverse.flatten, count)
    | some m =>
      let done := Regex.Match.part text start m.start :: done
      let isEmpty := m.start = m.stop
      let next := if isEmpty then m.stop + 1 else m.stop
      let skipped := if isEmpty then Regex.Match.part text m.stop next else []
      if isEmpty && edge = some m.start then
        substituteFrom r all target text fuel next edge (skipped :: done) count
      else
        let done := replaced (m.text text) 0 target :: done
        if all then substituteFrom r all target text fuel next (some m.stop) (skipped :: done)
          (count + 1)
        else ((text.drop m.stop :: done).reverse.flatten, count + 1)

/-- Part of a text, by the number of its first character and its length. -/
def substring (cs : Text) (first : Float) (length : Option Float) : Text :=
  let i := place first
  match length with
  | none => cs.drop (i - 1).toNat
  | some n =>
    let n := place n
    let n := if i < 1 then n - i else n
    (cs.drop (i - 1).toNat).take n.toNat

/-- The number of the first character of a part in a text; zero if it is not there. -/
def indexOf (part : Text) : Nat → Text → Nat
  | _, [] => 0
  | n, c :: cs => if part.isPrefixOf (c :: cs) then n else indexOf part (n + 1) cs

end CellRunner.Tool.Records
