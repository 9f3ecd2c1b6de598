import CellRunner.Tool.Columns

/-!
# Numbers with units

A unit is a power of 1000 or of 1024. A number gets the greatest unit that leaves something before
the point, and is rounded to the places that are shown.
-/

set_option autoImplicit false

namespace CellRunner.Tool

open Machine (Prog)
open Shell (Text)
open Decimal (Fraction)

namespace Units

inductive Scale where
  | plain
  /-- powers of 1024 where a letter is followed by an `i`, of 1000 else -/
  | auto
  | si
  | iec
  /-- powers of 1024, whose letters are followed by an `i` -/
  | iecI
  deriving DecidableEq

def Scale.base : Scale → Nat
  | .iec => 1024
  | .iecI => 1024
  | _ => 1000

def scales : Choice.Words Scale :=
  [(["none"], .plain), (["auto"], .auto), (["si"], .si), (["iec"], .iec), (["iec-i"], .iecI)]

inductive Rounding where
  | up
  | down
  | fromZero
  | towardsZero
  | nearest
  deriving DecidableEq

def roundings : Choice.Words Rounding :=
  [(["up"], .up), (["down"], .down), (["from-zero"], .fromZero), (["towards-zero"], .towardsZero),
    (["nearest"], .nearest)]

/-- What happens to numbers that cannot be read. -/
inductive Leniency where
  | abort
  | fail
  | warn
  | ignore
  deriving DecidableEq

def leniencies : Choice.Words Leniency :=
  [(["abort"], .abort), (["fail"], .fail), (["warn"], .warn), (["ignore"], .ignore)]

structure Number where
  isNegative : Bool
  size : Fraction

def letters : Text := "KMGTPEZYRQ".toList

/-- The most digits of a number without a unit, and of any number. -/
def plainDigits : Nat := 18

def mostDigits : Nat := 33

inductive Fault where
  | tooLarge
  | invalid
  | forbidden
  | unit
  | missing
  /-- something after the number -/
  | rest (cs : Text)

def Fault.text (cs : Text) : Fault → Text
  | .tooLarge => "value too large to be converted: ".toList ++ quoted cs
  | .invalid => "invalid number: ".toList ++ quoted cs
  | .forbidden =>
    "rejecting suffix in input: ".toList ++ quoted cs ++ " (consider using --from)".toList
  | .unit => "invalid suffix in input: ".toList ++ quoted cs
  | .missing =>
    "missing 'i' suffix in input: ".toList ++ quoted cs ++ " (e.g Ki/Mi/Gi)".toList
  | .rest r => "invalid suffix in input ".toList ++ quoted cs ++ ": ".toList ++ quoted r

def times (x : Fraction) (n : Nat) : Fraction := (⟨x.top * n, x.bottom⟩ : Fraction).toExtended

def divided (x : Fraction) (n : Nat) : Fraction := (⟨x.top, x.bottom * n⟩ : Fraction).toExtended

def plus (x y : Fraction) : Fraction :=
  (⟨x.top * y.bottom + y.top * x.bottom, x.bottom * y.bottom⟩ : Fraction).toExtended

/-- Digits at the front; none if there are none, or too many. -/
def digitsAt (cs : Text) : Except Fault (Text × Text) :=
  let ds := cs.takeWhile Char.isDigit
  if (ds.dropWhile (· = '0')).length > mostDigits then .error .tooLarge
  else .ok (ds, cs.drop ds.length)

/-- A number without a unit, its places after the point, and what follows it. -/
def numberAt (cs : Text) : Except Fault (Number × Nat × Text) := do
  let isNegative := cs.head? = some '-'
  let cs := if isNegative then cs.tail else cs
  let (whole, rest) ← digitsAt cs
  let n : Fraction := (⟨Shell.Format.decimal whole, 1⟩ : Fraction).toExtended
  match rest with
  | '.' :: rest =>
    let (ds, rest) ← digitsAt rest
    if ds.isEmpty then .error .invalid
    else
      let part := (⟨Shell.Format.decimal ds, Nat.pow 10 ds.length⟩ : Fraction).toExtended
      .ok (⟨isNegative, plus n part⟩, ds.length, rest)
  | _ => if whole.isEmpty then .error .invalid else .ok (⟨isNegative, n⟩, 0, rest)

/-- A number with its unit, and its places after the point. -/
def read (from_ : Scale) (cs : Text) : Except Fault (Number × Nat) := do
  let (n, places, rest) ← numberAt cs
  let (n, places, rest, _) ← (do
    if rest.isEmpty then
      if from_ == .iecI then .error .missing else .ok (n, places, rest, ())
    else
      let rest := rest.dropWhile fun c => c = ' ' || c = '\t'
      match rest with
      | [] => .error .unit
      | c :: rest =>
        match letters.idxOf? c with
        | none => .error .unit
        | some i =>
          if from_ == .plain then .error .forbidden
          else
            let marked := rest.head? = some 'i'
            if from_ == .iecI && !marked then .error .missing
            else
              let isBinary := from_ == .iec || from_ == .iecI || from_ == .auto && marked
              let takes := marked && (from_ == .iecI || from_ == .auto)
              let rest := if takes then rest.tail else rest
              let base := if isBinary then 1024 else 1000
              .ok (⟨n.isNegative, times n.size (Nat.pow base (i + 1))⟩, 0, rest, ()) :
    Except Fault (Number × Nat × Text × Unit))
  if rest.isEmpty then .ok (n, places) else .error (.rest rest)

/-! ### Writing -/

structure Style where
  to_ : Scale
  rounding : Rounding
  /-- the places after the point that are wanted -/
  places : Option Nat
  /-- the width that zeros fill up -/
  zeros : Nat
  ending : Text

/-- A number without its places after the point. -/
def round (r : Rounding) (n : Number) : Number :=
  let q := n.size.top / n.size.bottom
  let isWhole := n.size.top % n.size.bottom = 0
  let grows := match r with
    | .fromZero => true
    | .towardsZero => false
    | .up => !n.isNegative
    | .down => n.isNegative
    | .nearest => 2 * (n.size.top % n.size.bottom) ≥ n.size.bottom
  ⟨n.isNegative, ⟨if grows && !isWhole then q + 1 else q, 1⟩⟩

/-- A size below a base, and how often it was divided by it. -/
def reduced (base : Nat) : Nat → Fraction → Nat × Fraction
  | 0, x => (0, x)
  | fuel + 1, x =>
    if x.top < base * x.bottom then (0, x)
    else
      let (n, x) := reduced base fuel (divided x base)
      (n + 1, x)

def shown (zeros : Nat) (n : Number) (places : Nat) : Text :=
  let (whole, part) := n.size.positional places
  let digits := whole ++ (if places > 0 then '.' :: part else [])
  let sign : Text := if n.isNegative && (n.size.top != 0) then ['-'] else []
  sign ++ List.replicate (zeros - sign.length - digits.length) '0' ++ digits

def rescaled (r : Rounding) (n : Number) (places : Nat) : Number :=
  let x := times n.size (Nat.pow 10 places)
  let rounded := round r ⟨n.isNegative, x⟩
  ⟨n.isNegative, divided rounded.size (Nat.pow 10 places)⟩

def Style.write (s : Style) (n : Number) (places : Nat) : Text :=
  if s.to_ == .plain then shown s.zeros (rescaled s.rounding n places) places
  else
    let base := s.to_.base
    let (power, x) := reduced base 60 n.size
    let adjust := match s.places with
      | some p => min (power * 3) p
      | none => if x.top < 10 * x.bottom then 1 else 0
    let n := rescaled s.rounding ⟨n.isNegative, x⟩ adjust
    let (power, n) := if n.size.top ≥ base * n.size.bottom then
        (power + 1, { n with size := divided n.size base }) else (power, n)
    let pointed := n.size.top != 0 && n.size.top < 10 * n.size.bottom && power > 0
    let places := s.places.getD (if pointed then 1 else 0)
    let unit := if power = 0 then [] else [letters.getD (power - 1) '?']
    let unit := if s.to_ == .iecI && power > 0 then unit ++ ['i'] else unit
    shown s.zeros n places ++ unit

/-- Why a number cannot be written. -/
def Style.trouble? (s : Style) (n : Number) (places : Nat) : Option Text :=
  let used := s.places.getD places
  let (digits, _) := reduced 10 60 n.size
  let value := (if n.isNegative then ['-'] else []) ++ Shell.Format.general n.size 6 false
  if s.to_ == .plain && digits + used > plainDigits then
    some (if used > 0 then
        "value/precision too large to be printed: '".toList ++ value ++ '/' :: ofNat used ++
          "' (consider using --to)".toList
      else
        "value too large to be printed: '".toList ++ value ++ "' (consider using --to)".toList)
  else if digits > mostDigits - 1 then
    some ("value too large to be printed: '".toList ++ value ++
      "' (cannot handle values > 999Q)".toList)
  else none

/-! ### Lines -/

structure Wish where
  style : Style
  from_ : Scale
  fromUnit : Nat
  toUnit : Nat
  fields : List Columns.Range
  delimiter : Option Char
  /-- the width, and whether blanks come after the number -/
  padding : Nat
  toLeft : Bool
  fills : Bool
  before : Text
  after : Text
  leniency : Leniency

/-- Complains of a number, unless nothing is said. -/
def Wish.blame (w : Wish) (message : Text) : Run Unit := do
  match w.leniency with
  | .ignore => return ()
  | .abort =>
    complain message
    quit 2
  | _ => complain message

/-- Shows a field; the value tells whether it was a number. -/
def Wish.field (w : Wish) (n : Nat) (cs : Text) : Run Bool := do
  if !w.fields.any (·.has n) then
    out cs
    return true
  let ending := w.style.ending
  let bare := if !ending.isEmpty && cs.length > ending.length && ending.isSuffixOf cs then
      cs.take (cs.length - ending.length)
    else cs
  let text := bare.dropWhile fun c => c = ' ' || c = '\t'
  let padding := if w.fills then
      if text.length < bare.length || n > 1 then bare.length else 0
    else w.padding
  match read w.from_ text with
  | .error e =>
    w.blame (e.text text)
    out bare
    return false
  | .ok (number, places) =>
    let number := if w.fromUnit != 1 || w.toUnit != 1 then
        { number with size := divided (times number.size w.fromUnit) w.toUnit }
      else number
    match w.style.trouble? number places with
    | some message =>
      w.blame message
      out bare
      return false
    | none =>
      let shown := w.style.write number (w.style.places.getD places) ++ ending
      out (w.before ++ (if w.toLeft then padRight padding shown else padLeft padding shown) ++ w.after)
      return true

/-- Fields between blanks keep the blanks in front of them. -/
def blankFields : Nat → Text → List Text
  | 0, cs => [cs]
  | fuel + 1, cs =>
    let isBlank (c : Char) : Bool := c = ' ' || c = '\t' || c = '\n'
    let lead := cs.takeWhile isBlank
    let word := (cs.drop lead.length).takeWhile (!isBlank ·)
    let rest := cs.drop (lead.length + word.length)
    match rest with
    | [] => [lead ++ word]
    | _ :: rest => (lead ++ word) :: blankFields fuel rest

def fieldsBy (d : Option Char) (cs : Text) : List Text :=
  match d with
  | none => blankFields (cs.length + 1) cs
  | some d => cs.splitOnP (· = d)

def Wish.line (w : Wish) (cs : Text) : Run Bool := do
  let fields := fieldsBy w.delimiter cs
  let (_, ok) ← fields.foldlM (fun (n, ok) f => do
    if n > 1 then out [w.delimiter.getD ' ']
    let fine ← w.field n f
    return (n + 1, ok && fine)) (1, true)
  return ok

/-! ### Arguments -/

/-- A format: what stands before and after a number, and how it is written. -/
structure Format where
  before : Text
  after : Text
  width : Nat := 0
  toLeft : Bool := false
  zeros : Nat := 0
  places : Option Nat := none
  groups : Bool := false

/-- A text up to a single percent sign, and what follows it. -/
def literal : Text → Text × Option Text
  | '%' :: '%' :: cs => let (a, b) := literal cs; ('%' :: a, b)
  | '%' :: cs => ([], some cs)
  | c :: cs => let (a, b) := literal cs; (c :: a, b)
  | [] => ([], none)

def formatOf (cs : Text) : Run Format := do
  let name := quoted cs
  match literal cs with
  | (_, none) => fail ("format ".toList ++ name ++ " has no % directive".toList)
  | (before, some rest) =>
    let flags := rest.takeWhile fun c => c = ' ' || c = '0' || c = '\''
    let rest := rest.drop flags.length
    let isNegative := rest.head? = some '-'
    let rest := if isNegative then rest.tail else rest
    let flags' := if isNegative then rest.takeWhile (· = '0') else []
    let rest := rest.drop flags'.length
    let width := rest.takeWhile Char.isDigit
    let rest := rest.drop width.length
    let width := Shell.Format.decimal width
    let isZero := flags.contains '0'
    let invalid {α : Type} : Run α :=
      fail ("invalid format ".toList ++ name ++
        ", directive must be %[0]['][-][N][.][N]f".toList)
    if rest.isEmpty then fail ("format ".toList ++ name ++ " ends in %".toList)
    let (places, rest) ← do
      match rest with
      | '.' :: rest =>
        let ds := rest.takeWhile Char.isDigit
        if ds.isEmpty && (rest.head? = some '-' || rest.head? = some '+' || rest.head? = some ' ') then
          fail ("invalid precision in format ".toList ++ name)
        pure (some (Shell.Format.decimal ds), rest.drop ds.length)
      | rest => pure (none, rest)
    match rest with
    | 'f' :: rest =>
      match literal rest with
      | (_, some _) => fail ("format ".toList ++ name ++ " has too many % directives".toList)
      | (after, none) =>
        return {
          before, after, places, groups := flags.contains '\''
          width := if isZero && !isNegative then 0 else width
          zeros := if isZero && !isNegative then width else 0, toLeft := isNegative }
    | _ => invalid

def unitSize (v : Text) : Run Nat := do
  let ds := v.takeWhile Char.isDigit
  let rest := v.drop ds.length
  let n := if ds.isEmpty then 1 else Shell.Format.decimal ds
  let power := match rest with
    | [] => some 1
    | [c] => (letters.idxOf? c).map fun i => Nat.pow 1000 (i + 1)
    | [c, 'i'] => (letters.idxOf? c).map fun i => Nat.pow 1024 (i + 1)
    | _ => none
  match power with
  | some p => if n = 0 || v.isEmpty then fail ("invalid unit size: ".toList ++ quoted v) else return n * p
  | none => fail ("invalid unit size: ".toList ++ quoted v)

end Units

open Units in
def numfmt : Tool := do
  let (os, operands) ← readOptions <| .make
    "d:z\x01:\x02:\x03:\x04:\x05:\x06::\x07:\x08:\x0b:\x0c:\x0e:\x0f\x10"
    [("delimiter", 'd'), ("zero-terminated", 'z'), ("from", '\x01'), ("from-unit", '\x02'),
      ("to", '\x03'), ("to-unit", '\x04'), ("field", '\x05'), ("header", '\x06'),
      ("padding", '\x07'), ("round", '\x08'), ("format", '\x0b'), ("suffix", '\x0c'),
      ("invalid", '\x0e'), ("grouping", '\x0f'), ("debug", '\x10')]
  let choose {α : Type} (c : Char) (context : String) (ws : Choice.Words α) (usual : α) : Run α := do
    match valueOf? c os with
    | none => return usual
    | some v => Choice.read context.toList ws v
  let from_ ← choose '\x01' "--from" scales .plain
  let to_ ← choose '\x03' "--to" (scales.filter (·.2 != .auto)) .plain
  let rounding ← choose '\x08' "--round" roundings .fromZero
  let leniency ← choose '\x0e' "--invalid" leniencies .abort
  let unit (c : Char) : Run Nat := do
    match valueOf? c os with
    | none => return 1
    | some v => unitSize v
  let fromUnit ← unit '\x02'
  let toUnit ← unit '\x04'
  let (padding, toLeft) ← do
    match valueOf? '\x07' os with
    | none => pure (0, false)
    | some v =>
      let isNegative := v.head? = some '-'
      match natural? (if isNegative then v.tail else v) with
      | some n =>
        if n = 0 || n ≥ Nat.pow 2 63 then fail ("invalid padding value ".toList ++ quoted v)
        else pure (n, isNegative)
      | none => fail ("invalid padding value ".toList ++ quoted v)
  let fields ← match valueOf? '\x05' os with
    | none => pure [⟨1, some 1⟩]
    | some ['-'] => pure [⟨1, none⟩]
    | some v =>
      match Columns.ranges .fields v with
      | .ok rs => pure rs
      | .error m => misuse m
  let delimiter ← match valueOf? 'd' os with
    | none => pure none
    | some [c] => pure (some c)
    | some [] => pure (some (Char.ofNat 0))
    | some _ => fail "the delimiter must be a single character".toList
  let headers ← match valueOf? '\x06' os with
    | none => pure 0
    | some [] => pure 1
    | some v =>
      match natural? v with
      | some n => if n = 0 then fail ("invalid header value ".toList ++ quoted v) else pure n
      | none => fail ("invalid header value ".toList ++ quoted v)
  if has "\x0b" os && has "\x0f" os then
    fail "--grouping cannot be combined with --format".toList
  let format ← match valueOf? '\x0b' os with
    | none => pure { before := [], after := [] }
    | some f => formatOf f
  if has "\x10" os && from_ == .plain && to_ == .plain && !has "\x0f\x07\x0b" os then
    complain "no conversion option specified".toList
  if (has "\x0f" os || format.groups) && to_ != .plain then
    fail "grouping cannot be combined with --to".toList
  let padding := if format.width > 0 then format.width else padding
  let wish : Wish :=
    { style := { to_, rounding, places := format.places, zeros := format.zeros
                 ending := (valueOf? '\x0c' os).getD [] }
      from_, fromUnit, toUnit, fields, delimiter, padding
      toLeft := if format.width > 0 then format.toLeft else toLeft
      fills := padding = 0 && delimiter.isNone, before := format.before, after := format.after
      leniency }
  let mark := if has "z" os then Char.ofNat 0 else '\n'
  let step (ok : Bool) (line : Text) (ended : Bool) : Run Bool := do
    let fine ← wish.line line
    if ended then out [mark]
    return ok && fine
  let ok ← if !operands.isEmpty then
      operands.foldlM (fun ok a => do step ok a true) true
    else do
      let ((_, ok), _) ← throughLines (fun (n, ok) line ended => do
        if n < headers then
          out (line ++ if ended then [mark] else [])
          return some (n + 1, ok)
        else return some (n + 1, ← step ok line ended)) mark Prog.fuel (0, true) { descriptor := 0 }
      pure ok
  return if ok || leniency == .warn || leniency == .ignore then 0 else 2

end CellRunner.Tool
