import CellRunner.Tool.Amount

/-!
# Parts of lines side by side

One program cuts parts out of lines, and another puts lines beside one another.
-/

set_option autoImplicit false

namespace CellRunner.Tool

open Machine (Prog Bytes)
open Shell (Text toBytes ofBytes ofString asName)

namespace Columns

inductive Kind where
  | bytes
  | fields
  deriving DecidableEq, Repr

/-- Positions from one to another, the last one included; none for all that follow. -/
structure Range where
  first : Nat
  last : Option Nat
  deriving DecidableEq, Repr

def Range.has (r : Range) (n : Nat) : Bool :=
  r.first ≤ n && (match r.last with
    | some l => n ≤ l
    | none => true)

def Kind.positions : Kind → String
  | .bytes => "byte/character positions"
  | .fields => "fields"

def Kind.position : Kind → String
  | .bytes => "byte/character position"
  | .fields => "field"

/-- A position, or a message. -/
def position (k : Kind) (cs : Text) : Except Text Nat :=
  match natural? cs with
  | some n =>
    if n = 0 then .error (k.positions.toList ++ " are numbered from 1".toList)
    else if n ≥ Nat.pow 2 64 - 1 then
      .error (k.position.toList ++ " number ".toList ++ quoted cs ++ " is too large".toList)
    else .ok n
  | none =>
    .error ("invalid ".toList ++ k.position.toList ++ " value ".toList ++
      quoted (cs.dropWhile Char.isDigit))

def range (k : Kind) (cs : Text) : Except Text Range := do
  match cs.span (· != '-') with
  | ([], ['-']) => .error "invalid range with no endpoint: -".toList
  | ([], '-' :: to_) => return ⟨1, some (← position k to_)⟩
  | (only, []) =>
    let n ← position k only
    return ⟨n, some n⟩
  | (front, ['-']) => return ⟨← position k front, none⟩
  | (front, _ :: back) =>
    let a ← position k front
    let b ← position k back
    if b < a then .error "invalid decreasing range".toList else return ⟨a, some b⟩

/-- Items between commas or blanks. -/
def items (cs : Text) : List Text :=
  cs.foldr (fun c s =>
    if c = ',' || c = ' ' || c = '\t' then [] :: s
    else
      match s with
      | x :: xs => (c :: x) :: xs
      | [] => [[c]]) [[]]

def ranges (k : Kind) (cs : Text) : Except Text (List Range) :=
  (items cs).mapM fun item =>
    if item.isEmpty then .error (k.positions.toList ++ " are numbered from 1".toList)
    else range k item

structure Style where
  ranges : List Range
  complement : Bool
  separator : Option Text

def Style.chooses (s : Style) (n : Nat) : Bool := s.ranges.any (·.has n) != s.complement

/-- Whether a range of its own begins at a position. -/
def Style.begins (s : Style) (n : Nat) : Bool :=
  if s.complement then !s.chooses (n - 1)
  else !s.chooses (n - 1) || (s.ranges.any fun r => r.first = n) &&
    !s.ranges.any fun r => r.first < n && r.has n

/-- The chosen bytes of a line; a separator stands between ranges. -/
def chosenBytes (s : Style) (line : Text) : Text :=
  let marked := line.zip ((List.range line.length).map (· + 1))
  let chosen := marked.filter fun (_, n) => s.chooses n
  match s.separator with
  | none => chosen.map (·.1)
  | some sep =>
    chosen.zip (List.range chosen.length) |>.flatMap fun ((c, n), i) =>
      if i > 0 && s.begins n then sep ++ [c] else [c]

/-- The fields of a line. -/
def split (mark : Char) (cs : Text) : List Text :=
  cs.foldr (fun c s =>
    if c = mark then [] :: s
    else
      match s with
      | x :: xs => (c :: x) :: xs
      | [] => [[c]]) [[]]

/-- The chosen fields of a line; a line without a mark is kept, or left out. -/
def chosenFields (s : Style) (mark : Char) (onlyMarked : Bool) (line : Text) : Option Text :=
  if !line.contains mark then if onlyMarked then none else some line
  else
    let fields := split mark line
    let marked := fields.zip ((List.range fields.length).map (· + 1))
    let chosen := (marked.filter fun (_, n) => s.chooses n).map (·.1)
    some (List.intercalate (s.separator.getD [mark]) chosen)

/-- Writes each line of the operands as `f` changes it. -/
def eachLine (operands : List Text) (mark : Char) (f : Text → Option Text) : Run Nat :=
  forEach (orInput operands) fun path =>
    withInput path
      (fun e => do
        complainOf path e
        return 1)
      fun d => do
        let (_, feed) ← throughLines (fun (_ : Unit) line _ => do
          if let some cs := f line then out (cs ++ [mark])
          return some ()) mark Prog.fuel () { descriptor := d }
        match feed.trouble with
        | some e =>
          complainOf path e
          return 1
        | none => return 0

end Columns

open Columns in
def cut : Tool := do
  let (os, operands) ← readOptions <| .make "b:c:d:f:nsz\x01\x02:"
    [("bytes", 'b'), ("characters", 'c'), ("fields", 'f'), ("delimiter", 'd'),
      ("only-delimited", 's'), ("output-delimiter", '\x02'), ("complement", '\x01'),
      ("zero-terminated", 'z')]
  let lists := os.filter fun g => "bcf".toList.contains g.1
  match lists with
  | [] => misuse "you must specify a list of bytes, characters, or fields".toList
  | _ :: _ :: _ => misuse "only one list may be specified".toList
  | [(letter, list)] =>
    let kind : Kind := if letter = 'f' then .fields else .bytes
    let mark := (valueOf? 'd' os).getD ['\t']
    if mark.length > 1 then misuse "the delimiter must be a single character".toList
    if kind = .bytes && has "d" os then
      misuse "an input delimiter may be specified only when operating on fields".toList
    if kind = .bytes && has "s" os then
      misuse
        "suppressing non-delimited lines makes sense\n\tonly when operating on fields".toList
    match ranges kind list with
    | .error m => misuse m
    | .ok ranges =>
      let style : Style :=
        { ranges, complement := has "\x01" os, separator := valueOf? '\x02' os }
      let ending := if has "z" os then '\x00' else '\n'
      eachLine operands ending fun line =>
        match kind with
        | .bytes => some (chosenBytes style line)
        | .fields => chosenFields style (mark.headD '\x00') (has "s" os) line

namespace Columns

/-- The separators in a list, where an escape may stand for none. -/
def separators : Text → Option (List Text)
  | [] => some []
  | ['\\'] => none
  | '\\' :: c :: cs =>
    let found : Text :=
      if c = '0' then []
      else match "bfnrtv\\".toList.idxOf? c with
        | some i => ["\x08\x0c\n\r\t\x0b\\".toList.getD i c]
        | none => [c]
    (separators cs).map (found :: ·)
  | c :: cs => (separators cs).map ([c] :: ·)

/-- Joins texts by separators in turn. -/
def joinBy (seps : List Text) : Nat → List Text → Text
  | _, [] => []
  | _, [cs] => cs
  | i, cs :: rest => cs ++ seps.getD (i % seps.length) [] ++ joinBy seps (i + 1) rest

/-- A line from each of the feeds, or none when all are at their ends. -/
def row : List Feed → Char → Run (List (Option Text) × List Feed)
  | [], _ => return ([], [])
  | f :: fs, mark => do
    let (line, f) ← f.next mark
    let (lines, fs) ← row fs mark
    return (line.map (·.1) :: lines, f :: fs)

def rows (seps : List Text) (mark : Char) : Nat → List Feed → Run Unit
  | 0, _ => return ()
  | fuel + 1, fs => do
    let (lines, fs) ← row fs mark
    if lines.any (·.isSome) then
      out (joinBy seps 0 (lines.map (·.getD [])) ++ [mark])
      rows seps mark fuel fs

/-- Feeds of all operands, those for the standard input being one and the same. -/
def feeds : List Text → Run (Option (List Feed))
  | [] => return some []
  | path :: rest => do
    let d ← if path = ['-'] then pure (some 0) else
      match ← ask (.open (asName path) .read 0 0) with
      | .ok d => pure (some d)
      | .error e => do
        complainOf path e
        pure none
    match d with
    | none => return none
    | some d => return (← feeds rest).map ({ descriptor := d } :: ·)

/-- All rows when several columns come from the standard input in turn. -/
def rowsInTurn (seps : List Text) (mark : Char) (n : Nat) : Nat → List Text → Run Unit
  | 0, _ => return ()
  | fuel + 1, lines => do
    if !lines.isEmpty then
      let taken := lines.take n
      out (joinBy seps 0 (taken ++ List.replicate (n - taken.length) []) ++ [mark])
      rowsInTurn seps mark n fuel (lines.drop n)

end Columns

open Columns in
def paste : Tool := do
  let (os, operands) ← readOptions <| .make "d:sz"
    [("delimiters", 'd'), ("serial", 's'), ("zero-terminated", 'z')]
  let mark := if has "z" os then '\x00' else '\n'
  let list := (valueOf? 'd' os).getD ['\t']
  match separators list with
  | none => fail ("delimiter list ends with an unescaped backslash: ".toList ++ beforeColon list)
  | some seps =>
    let seps := if seps.isEmpty then [[]] else seps
    if has "s" os then
      forEach (orInput operands) fun path => do
        match ← contents path with
        | .error e =>
          complainOf path e
          return 1
        | .ok cs =>
          out (joinBy seps 0 (linesBy mark cs) ++ [mark])
          return 0
    else if operands.length > 1 && operands.all (· = ['-']) then
      match ← contents ['-'] with
      | .error e => fail (because ['-'] e)
      | .ok cs =>
        let all := linesBy mark cs
        rowsInTurn seps mark operands.length (all.length + 1) all
        return 0
    else
      match ← feeds (orInput operands) with
      | none => return 1
      | some fs =>
        rows seps mark Prog.fuel fs
        return 0

end CellRunner.Tool
