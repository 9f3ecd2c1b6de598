import CellRunner.Decimal.Fixed
import CellRunner.Shell.Format
import CellRunner.Tool.Amount

/-!
# Putting lines in order

Lines are compared by keys, each a part of the line that is looked at in some way. Lines whose
keys agree are compared as they are, unless the order they came in is to be kept.
-/

set_option autoImplicit false

namespace CellRunner.Tool

open Machine (Prog Bytes)
open Shell (Text toBytes ofBytes ofString asName)

namespace Order

/-- How a part of a line is looked at. -/
structure Look where
  skipsStart : Bool := false
  skipsEnd : Bool := false
  dictionary : Bool := false
  printable : Bool := false
  folds : Bool := false
  numeric : Bool := false
  general : Bool := false
  human : Bool := false
  month : Bool := false
  version : Bool := false
  reversed : Bool := false
  deriving DecidableEq, Repr

/-- Whether a look is the usual one, but for its direction. -/
def Look.isUsual (l : Look) : Bool := { l with reversed := false } == {}

/-- A part of a line: fields and characters are counted from zero; no first field stands for
the start of the line, and no last one for its end. -/
structure Key where
  firstField : Option Nat
  firstChar : Nat
  lastField : Option Nat
  /-- how many characters of the last field belong to the key; zero for all of it -/
  lastChar : Nat
  look : Look
  deriving DecidableEq, Repr

def isBlank (c : Char) : Bool := c = ' ' || c = '\t' || c = '\n'

/-- The rest of a line after a field. -/
def skipField (mark : Option Char) (cs : Text) : Text :=
  match mark with
  | some m => cs.dropWhile (· != m)
  | none => (cs.dropWhile isBlank).dropWhile (!isBlank ·)

/-- The rest of a line from the beginning of a key on. -/
def fromFirst (mark : Option Char) (k : Key) (cs : Text) : Text :=
  let step (cs : Text) : Text :=
    match mark with
    | some _ => (skipField mark cs).drop 1
    | none => skipField mark cs
  let cs := (k.firstField.getD 0).repeat step cs
  let cs := if k.look.skipsStart then cs.dropWhile isBlank else cs
  cs.drop k.firstChar

/-- The rest of a line after the end of a key. -/
def afterLast (mark : Option Char) (k : Key) (cs : Text) : Text :=
  match k.lastField with
  | none => []
  | some n =>
    let count := if k.lastChar = 0 then n + 1 else n
    let step (s : Nat × Text) : Nat × Text :=
      let rest := skipField mark s.2
      let left := s.1 - 1
      (left, if mark.isSome && (left > 0 || k.lastChar > 0) then rest.drop 1 else rest)
    let rest := (count.repeat step (count, cs)).2
    if k.lastChar = 0 then rest
    else (if k.look.skipsEnd then rest.dropWhile isBlank else rest).drop k.lastChar

/-- The part of a line that a key chooses. -/
def chosen (mark : Option Char) (k : Key) (cs : Text) : Text :=
  let start := fromFirst mark k cs
  start.take (start.length - (afterLast mark k cs).length)

/-- What a part of a line is compared by. -/
inductive Weight where
  | text (cs : Text)
  /-- a rank, and among those of one rank a decimal number with some places -/
  | number (rank : Int) (n : Int) (places : Nat)
  | fraction (rank : Int) (negative : Bool) (x : Decimal.Fraction)
  | version (cs : Text)

/-- The number that a text begins with, without leading blanks, and what follows. -/
def decimalAt (cs : Text) : Int × Nat × Text :=
  let cs := cs.dropWhile isBlank
  let negative := cs.head? = some '-'
  let cs := if negative then cs.drop 1 else cs
  let whole := cs.takeWhile Char.isDigit
  let after := cs.drop whole.length
  let (places, rest) := match after with
    | '.' :: rest => (rest.takeWhile Char.isDigit, rest.dropWhile Char.isDigit)
    | _ => ([], after)
  let n : Nat := Shell.Format.decimal (whole ++ places)
  (if negative then -(n : Int) else n, places.length, rest)

def monthNames : List String :=
  ["JAN", "FEB", "MAR", "APR", "MAY", "JUN", "JUL", "AUG", "SEP", "OCT", "NOV", "DEC"]

def monthRank (cs : Text) : Nat :=
  let name := String.ofList (((cs.dropWhile isBlank).take 3).map Char.toUpper)
  match monthNames.idxOf? name with
  | some i => i + 1
  | none => 0

def humanWeight (cs : Text) : Weight :=
  let (n, places, rest) := decimalAt cs
  let power : Int := match rest.head? with
    | some c => ((("KMGTPEZYRQ".toList.idxOf? (if c = 'k' then 'K' else c)).map (· + 1)).getD 0 : Nat)
    | none => 0
  let sign : Int := if n < 0 then -1 else if n = 0 then 0 else 1
  .number (sign * (power + 1)) n places

def generalWeight (cs : Text) : Weight :=
  match Shell.Format.realAt cs with
  | none => .fraction 0 false ⟨0, 1⟩
  | some (.notANumber _, _) => .fraction 1 false ⟨0, 1⟩
  | some (.infinite true, _) => .fraction 2 false ⟨0, 1⟩
  | some (.finite negative x, _) => .fraction 3 negative x
  | some (.infinite false, _) => .fraction 4 false ⟨0, 1⟩

def weigh (l : Look) (cs : Text) : Weight :=
  if l.numeric then
    let (n, places, _) := decimalAt cs
    .number 0 n places
  else if l.general then generalWeight cs
  else if l.human then humanWeight cs
  else if l.month then .number (monthRank cs) 0 0
  else if l.version then .version cs
  else
    let cs := if l.dictionary then cs.filter fun c => isBlank c || c.isAlphanum else cs
    let cs := if l.printable then cs.filter isPrintable else cs
    .text (if l.folds then cs.map Char.toUpper else cs)

def compareTexts (a b : Text) : Ordering := compareOfLessAndEq a b

/-! ### Versions -/

/-- The place of a character among versions: the end, then letters, then all else. -/
def versionRank (c : Option Char) : Int :=
  match c with
  | none => -1
  | some c =>
    if c.isDigit then 0 else if c.isAlpha then c.toNat else if c = '~' then -2
    else c.toNat + 256

/-- Compares texts piece by piece, numbers by their values; `fuel` bounds the pieces. -/
def compareVersions : Nat → Text → Text → Ordering
  | 0, _, _ => .eq
  | fuel + 1, a, b =>
    if a.isEmpty && b.isEmpty then .eq
    else
      let x := a.takeWhile (!·.isDigit)
      let y := b.takeWhile (!·.isDigit)
      let ranks (cs : Text) (rest : Text) : List Int :=
        cs.map (fun c => versionRank (some c)) ++ [versionRank rest.head?]
      let a := a.drop x.length
      let b := b.drop y.length
      let rec go : List Int → List Int → Ordering
        | [], [] => .eq
        | [], j :: _ => compareOfLessAndEq 0 j
        | i :: _, [] => compareOfLessAndEq i 0
        | i :: is, j :: js => if i = j then go is js else compareOfLessAndEq i j
      match go (ranks x a) (ranks y b) with
      | .eq =>
        let m := a.takeWhile Char.isDigit
        let n := b.takeWhile Char.isDigit
        match compare (Shell.Format.decimal m) (Shell.Format.decimal n) with
        | .eq => compareVersions fuel (a.drop m.length) (b.drop n.length)
        | o => o
      | o => o

/-- A name without the endings of a file, such as `.tar.gz`. -/
def stem (cs : Text) : Text :=
  let isEnding (piece : Text) : Bool :=
    match piece with
    | c :: rest => (c.isAlpha || c = '~') && rest.all fun c => c.isAlphanum || c = '~'
    | [] => false
  let rec cut : Nat → Text → Text
    | 0, cs => cs
    | fuel + 1, cs =>
      let ending := (cs.reverse.takeWhile (· != '.')).reverse
      if ending.length < cs.length && isEnding ending && ending.length + 1 < cs.length then
        cut fuel (cs.take (cs.length - ending.length - 1))
      else cs
  cut cs.length cs

def versionOrder (a b : Text) : Ordering :=
  if a = b then .eq
  else if a.isEmpty then .lt
  else if b.isEmpty then .gt
  else
    let special (cs : Text) : Nat := if cs = ['.'] then 0 else if cs = ['.', '.'] then 1
      else if cs.head? = some '.' then 2 else 3
    match compare (special a) (special b) with
    | .eq =>
      let fuel := a.length + b.length + 2
      match compareVersions fuel (stem a) (stem b) with
      | .eq => compareVersions fuel a b
      | o => o
    | o => o

def Weight.compare : Weight → Weight → Ordering
  | .text a, .text b => compareTexts a b
  | .number r n p, .number s m q =>
    match Ord.compare r s with
    | .eq => Ord.compare (n * Nat.pow 10 q) (m * Nat.pow 10 p)
    | o => o
  | .fraction r neg x, .fraction s neg' y =>
    match Ord.compare r s with
    | .eq =>
      let value (neg : Bool) (x : Decimal.Fraction) (d : Nat) : Int :=
        (if neg then -1 else 1) * ((x.top * d : Nat) : Int)
      Ord.compare (value neg x y.bottom) (value neg' y x.bottom)
    | o => o
  | .version a, .version b => versionOrder a b
  | _, _ => .eq

/-! ### Lines -/

structure Style where
  keys : List Key
  mark : Option Char
  reversed : Bool
  stable : Bool
  unique : Bool

/-- A line with the weights of its keys. -/
structure Weighed where
  line : Text
  weights : List Weight

def Style.weigh (s : Style) (line : Text) : Weighed :=
  { line, weights := s.keys.map fun k => Order.weigh k.look (chosen s.mark k line) }

def compareKeys : List Key → List Weight → List Weight → Ordering
  | k :: ks, a :: as, b :: bs =>
    match a.compare b with
    | .eq => compareKeys ks as bs
    | o => if k.look.reversed then o.swap else o
  | _, _, _ => .eq

def Style.compare (s : Style) (a b : Weighed) : Ordering :=
  match compareKeys s.keys a.weights b.weights with
  | .eq =>
    if !s.keys.isEmpty && (s.stable || s.unique) then .eq
    else
      let o := compareTexts a.line b.line
      if s.reversed then o.swap else o
  | o => o

/-- The first of each row of lines that compare as equal. -/
def firsts (s : Style) : List Weighed → List Weighed
  | a :: b :: rest =>
    if s.compare a b == .eq then firsts s (a :: rest) else a :: firsts s (b :: rest)
  | ws => ws
termination_by ws => ws.length

def Style.sort (s : Style) (lines : List Text) : List Text :=
  let sorted := (lines.map s.weigh).mergeSort fun a b => s.compare a b != .gt
  (if s.unique then firsts s sorted else sorted).map (·.line)

/-- The number of the first line that is out of order, and the line. -/
def Style.disorder? (s : Style) : Nat → List Weighed → Option (Nat × Text)
  | n, a :: b :: rest =>
    let o := s.compare a b
    if o == .gt || (s.unique && o == .eq) then some (n + 1, b.line)
    else s.disorder? (n + 1) (b :: rest)
  | _, _ => none

/-! ### Reading keys -/

/-- A letter changes how a part is looked at; `side` tells which end of the key a skipping of
blanks is about. -/
def Look.letter (l : Look) (first last : Bool) (c : Char) : Option Look :=
  match c with
  | 'b' => some { l with skipsStart := l.skipsStart || first, skipsEnd := l.skipsEnd || last }
  | 'd' => some { l with dictionary := true }
  | 'i' => some { l with printable := true }
  | 'f' => some { l with folds := true }
  | 'n' => some { l with numeric := true }
  | 'g' => some { l with general := true }
  | 'h' => some { l with human := true }
  | 'M' => some { l with month := true }
  | 'V' => some { l with version := true }
  | 'r' => some { l with reversed := true }
  | _ => none

def letters (first last : Bool) : Look → Text → Look × Text
  | l, [] => (l, [])
  | l, c :: cs =>
    match l.letter first last c with
    | some l => letters first last l cs
    | none => (l, c :: cs)

/-- A count at the front of a key. -/
def count (what : String) (cs : Text) : Except Text (Nat × Text) :=
  let digits := cs.takeWhile Char.isDigit
  if digits.isEmpty then
    .error (what.toList ++ ": invalid count at start of ".toList ++ quoted cs)
  else .ok (Shell.Format.decimal digits, cs.drop digits.length)

def badKey (what : String) (cs : Text) : Text :=
  what.toList ++ ": invalid field specification ".toList ++ quoted cs

def key (spec : Text) : Except Text Key := do
  let (field, cs) ← count "invalid number at field start" spec
  if field = 0 then throw (badKey "field number is zero" spec)
  let (char, cs) ← match cs with
    | '.' :: rest => do
      let (n, rest) ← count "invalid number after '.'" rest
      if n = 0 then throw (badKey "character offset is zero" spec)
      pure (n - 1, rest)
    | _ => pure (0, cs)
  let (look, cs) := letters true false {} cs
  let (lastField, lastChar, look, cs) ← match cs with
    | ',' :: rest => do
      let (n, rest) ← count "invalid number after ','" rest
      if n = 0 then throw (badKey "field number is zero" spec)
      let (m, rest) ← match rest with
        | '.' :: rest => count "invalid number after '.'" rest
        | _ => pure (0, rest)
      let (look, rest) := letters false true look rest
      pure (some (n - 1), m, look, rest)
    | _ => pure (none, 0, look, cs)
  if !cs.isEmpty then throw (badKey "stray character in field spec" spec)
  return { firstField := some (field - 1), firstChar := char, lastField, lastChar, look }

/-- The keys of an order, where those without a look of their own take the common one. -/
def withCommon (common : Look) (keys : List Key) : List Key :=
  if keys.isEmpty then
    if common.isUsual then []
    else [{ firstField := none, firstChar := 0, lastField := none, lastChar := 0, look := common }]
  else keys.map fun k => if k.look == {} then { k with look := common } else k

/-- The letters of looks that cannot stand together. -/
def clash? (l : Look) : Option Text :=
  let kinds := (if l.general then ['g'] else []) ++ (if l.human then ['h'] else []) ++
    (if l.month then ['M'] else []) ++ (if l.numeric then ['n'] else []) ++
    (if l.version then ['V'] else [])
  let texts := (if l.dictionary then ['d'] else []) ++ (if l.printable then ['i'] else [])
  if kinds.length > 1 || (!kinds.isEmpty && !texts.isEmpty && !l.version) then
    some ((if l.dictionary then ['d'] else []) ++
      (if l.general then ['g'] else []) ++ (if l.human then ['h'] else []) ++
      (if l.printable && !l.dictionary then ['i'] else []) ++ (if l.month then ['M'] else []) ++
      (if l.numeric then ['n'] else []) ++ (if l.version then ['V'] else []))
  else none

def spelling : Options :=
  .make "bcCdfghik:mMno:rRsS:t:T:uVz\x01:"
    [("ignore-leading-blanks", 'b'), ("check", 'c'), ("dictionary-order", 'd'),
      ("ignore-case", 'f'), ("general-numeric-sort", 'g'), ("human-numeric-sort", 'h'),
      ("ignore-nonprinting", 'i'), ("key", 'k'), ("merge", 'm'), ("month-sort", 'M'),
      ("numeric-sort", 'n'), ("output", 'o'), ("reverse", 'r'), ("stable", 's'),
      ("field-separator", 't'), ("temporary-directory", 'T'), ("unique", 'u'),
      ("version-sort", 'V'), ("zero-terminated", 'z'), ("parallel", '\x01')]

def mark? (v : Text) : Run (Option Char) := do
  match v with
  | [] => fail "empty tab".toList
  | [c] => return some c
  | ['\\', '0'] => return some '\x00'
  | _ => fail ("multi-character tab ".toList ++ quoted v)

def readStyle (os : List Given) : Run Style := do
  let keys ← (os.filter (·.1 = 'k')).mapM fun g =>
    match key g.2 with
    | .ok k => pure k
    | .error m => fail m
  let common := os.foldl (fun l g => (l.letter true true g.1).getD l) ({} : Look)
  let mark ← match valueOf? 't' os with
    | some v => mark? v
    | none => pure none
  let keys := withCommon common keys
  if let some letters := keys.findSome? fun k => clash? k.look then
    fail ("options '-".toList ++ letters ++ "' are incompatible".toList)
  return { keys, mark, reversed := common.reversed, stable := has "s" os, unique := has "u" os }

/-- The lines of all operands. -/
def allLines (mark : Char) (operands : List Text) : Run (List Text) := do
  let found ← (orInput operands).mapM fun path => do
    withInput path
      (fun e => fail ("cannot read: ".toList ++ because (beforeColon path) e))
      fun d => do
        match ← slurp d with
        | .ok bytes => return linesBy mark (ofBytes bytes)
        | .error e => fail ("read failed: ".toList ++ because (beforeColon path) e)
  return found.flatten

end Order

open Order in
def sort : Tool := do
  modify fun d => { d with failure := 2 }
  let (os, operands) ← readOptions spelling
  let style ← readStyle os
  let ending := if has "z" os then '\x00' else '\n'
  if has "cC" os then
    if let some extra := operands[1]? then
      fail ("extra operand ".toList ++ quoted extra ++ " not allowed with -".toList ++
        [(lastOf? "cC" os).getD 'c'])
    let lines ← allLines ending operands
    match style.disorder? 1 (lines.map style.weigh) with
    | none => return 0
    | some (n, line) =>
      if !has "C" os then
        complain (operands.headD ['-'] ++ ':' :: ofNat n ++ ": disorder: ".toList ++ line)
      return 1
  else
    let sorted := style.sort (← allLines ending operands)
    let text := sorted.flatMap fun line => line ++ [ending]
    match valueOf? 'o' os with
    | none => out text
    | some path =>
      match ← ask (.open (asName path) .truncate 0o666 0) with
      | .ok d =>
        let _ ← run (Prog.put d (toBytes text))
        close d
      | .error e => fail ("open failed: ".toList ++ because (beforeColon path) e)
    return 0

end CellRunner.Tool
