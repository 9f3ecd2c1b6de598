import CellRunner.Tool.Columns
import CellRunner.Tool.Order

/-!
# Lines that repeat, and files in order side by side
-/

set_option autoImplicit false

namespace CellRunner.Tool

open Machine (Prog)
open Shell (Text toBytes ofBytes asName)

namespace Sorted

/-! ### Repetitions -/

structure Repeats where
  counts : Bool
  /-- shows lines that repeat -/
  repeated : Bool
  /-- shows lines that do not -/
  unique : Bool
  /-- shows lines that repeat as often as they do -/
  every : Bool
  folds : Bool
  fields : Nat
  chars : Nat
  width : Option Nat

/-- What a line is compared by. -/
def Repeats.part (r : Repeats) (line : Text) : Text :=
  let skip (cs : Text) : Text :=
    (cs.dropWhile Order.isBlank).dropWhile (!Order.isBlank ·)
  let cs := (r.fields.repeat skip line).drop r.chars
  let cs := match r.width with
    | some n => cs.take n
    | none => cs
  if r.folds then cs.map Char.toUpper else cs

/-- A row of lines that agree: the lines, the last one first. -/
def Repeats.show_ (r : Repeats) (mark : Char) (lines : List Text) : Text :=
  let n := lines.length
  if r.every then
    if n > 1 then lines.reverse.flatMap fun l => l ++ [mark] else []
  else if (n > 1 && r.unique) || (n = 1 && r.repeated) then []
  else
    (if r.counts then padLeft 7 (ofNat n) ++ [' '] else []) ++ lines.getLastD [] ++ [mark]

end Sorted

open Sorted in
def uniq : Tool := do
  let (os, operands) ← readOptions <| .make "cdDf:is:uw:z\x01::"
    [("count", 'c'), ("repeated", 'd'), ("all-repeated", 'D'), ("skip-fields", 'f'),
      ("ignore-case", 'i'), ("skip-chars", 's'), ("unique", 'u'), ("check-chars", 'w'),
      ("zero-terminated", 'z'), ("group", '\x01')]
  atMost 2 operands
  let amount (c : Char) (what : String) : Run (Option Nat) := do
    match valueOf? c os with
    | none => return none
    | some v =>
      match natural? v with
      | some n => return some n
      | none => fail (v ++ ": invalid number of ".toList ++ what.toList)
  let r : Repeats :=
    { counts := has "c" os, repeated := has "d" os, unique := has "u" os, every := has "D" os
      folds := has "i" os, fields := (← amount 'f' "fields to skip").getD 0
      chars := (← amount 's' "bytes to skip").getD 0, width := ← amount 'w' "bytes to compare" }
  if r.counts && r.every then
    misuse "printing all duplicated lines and repeat counts is meaningless".toList
  let mark := if has "z" os then '\x00' else '\n'
  let path := operands.headD ['-']
  match operands[1]? with
  | some target =>
    if target != ['-'] then
      match ← ask (.open (asName target) .truncate 0o666 0) with
      | .ok d =>
        let _ ← ask (.copy d 1)
      | .error e => fail (because (beforeColon target) e)
  | none => pure ()
  withInput path (fun e => fail (because (beforeColon path) e)) fun d => do
    let (row, feed) ← throughLines (fun (row : List Text) line _ =>
      match row with
      | [] => return some [line]
      | l :: _ => do
        if r.part l = r.part line then return some (line :: row)
        out (r.show_ mark row)
        return some [line]) mark Prog.fuel [] { descriptor := d }
    if let some e := feed.trouble then fail ("error reading ".toList ++ because (named path) e)
    if !row.isEmpty then out (r.show_ mark row)
    return 0

namespace Sorted

/-! ### Two files side by side -/

/-- Where a line is found. -/
inductive Side where
  | first
  | second
  | both
  deriving DecidableEq, Repr

/-- All lines of two files in order, each with where it is found. -/
def mergeLines : List Text → List Text → List (Side × Text)
  | [], bs => bs.map (Side.second, ·)
  | as, [] => as.map (Side.first, ·)
  | a :: as, b :: bs =>
    match Order.compareTexts a b with
    | .lt => (.first, a) :: mergeLines as (b :: bs)
    | .gt => (.second, b) :: mergeLines (a :: as) bs
    | .eq => (.both, a) :: mergeLines as bs
termination_by as bs => as.length + bs.length

/-- Whether two lines next to each other are out of order. -/
def isDisordered : List Text → Bool
  | a :: b :: rest => Order.compareTexts a b == .gt || isDisordered (b :: rest)
  | _ => false

def readLines (mark : Char) (path : Text) : Run (List Text) := do
  match ← contents path with
  | .ok cs => return linesBy mark cs
  | .error e => fail (because (beforeColon path) e)

/-- The two files that a program needs. -/
def twoFiles (operands : List Text) : Run (Text × Text) := do
  match operands with
  | [a, b] => return (a, b)
  | [] => misuse "missing operand".toList
  | [a] => misuse ("missing operand after ".toList ++ quoted a)
  | _ :: _ :: c :: _ => misuse ("extra operand ".toList ++ quoted c)

end Sorted

open Sorted in
def comm : Tool := do
  let (os, operands) ← readOptions <| .make "123z\x01\x02\x03:\x04"
    [("check-order", '\x01'), ("nocheck-order", '\x02'), ("output-delimiter", '\x03'),
      ("total", '\x04'), ("zero-terminated", 'z')]
  let (a, b) ← twoFiles operands
  let mark := if has "z" os then '\x00' else '\n'
  let as ← readLines mark a
  let bs ← readLines mark b
  let sep := (valueOf? '\x03' os).getD ['\t']
  let merged := mergeLines as bs
  let shows (c : String) : Bool := !has c os
  for (side, line) in merged do
    match side with
    | .first => if shows "1" then out (line ++ [mark])
    | .second => if shows "2" then out ((if shows "1" then sep else []) ++ line ++ [mark])
    | .both =>
      if shows "3" then
        out ((if shows "1" then sep else []) ++ (if shows "2" then sep else []) ++ line ++ [mark])
  if has "\x04" os then
    let count (s : Side) : Text := ofNat (merged.countP fun m => m.1 == s)
    out (count .first ++ sep ++ count .second ++ sep ++ count .both ++ sep ++
      "total".toList ++ [mark])
  if has "\x02" os then return 0
  let unpaired := merged.any fun m => m.1 != .both
  if (unpaired || has "\x01" os) && (isDisordered as || isDisordered bs) then
    if isDisordered as then complain "file 1 is not in sorted order".toList
    if isDisordered bs then complain "file 2 is not in sorted order".toList
    complain "input is not in sorted order".toList
    return 1
  return 0

namespace Sorted

/-! ### Joining -/

structure Joining where
  mark : Option Char
  folds : Bool
  first : Nat
  second : Nat
  filler : Text
  /-- the fields that are shown: a file, or none for the common field, and a number -/
  format : List (Nat × Nat)

def Joining.fields (j : Joining) (line : Text) : List Text :=
  match j.mark with
  | some m => Columns.split m line
  | none => (Columns.split ' ' (line.map fun c => if c = '\t' then ' ' else c)).filter (!·.isEmpty)

def Joining.keyOf (j : Joining) (n : Nat) (fields : List Text) : Text :=
  let k := fields.getD n []
  if j.folds then k.map Char.toUpper else k

/-- A joined line. -/
def Joining.line (j : Joining) (key : Text) (a b : Option (List Text)) : Text :=
  let sep := [j.mark.getD ' ']
  let orFiller (cs : Text) : Text := if cs.isEmpty then j.filler else cs
  let others (n : Nat) (fs : Option (List Text)) : List Text := (fs.getD []).eraseIdx n
  let cells := if j.format.isEmpty then key :: others j.first a ++ others j.second b
    else j.format.map fun (file, n) =>
      if file = 0 then key
      else if file = 1 then (a.getD []).getD n []
      else (b.getD []).getD n []
  List.intercalate sep (cells.map orFiller) ++ ['\n']

/-- The rows of two files in order, joined by their keys; `fuel` bounds their number. -/
def Joining.rows (j : Joining) : Nat → List (List Text) → List (List Text) →
    List (Side × Text)
  | 0, _, _ => []
  | _ + 1, as, [] => as.map fun a => (.first, j.line (a.getD j.first []) (some a) none)
  | _ + 1, [], bs => bs.map fun b => (.second, j.line (b.getD j.second []) none (some b))
  | fuel + 1, a :: as, b :: bs =>
    let x := j.keyOf j.first a
    let y := j.keyOf j.second b
    match Order.compareTexts x y with
    | .lt => (.first, j.line (a.getD j.first []) (some a) none) :: j.rows fuel as (b :: bs)
    | .gt => (.second, j.line (b.getD j.second []) none (some b)) :: j.rows fuel (a :: as) bs
    | .eq =>
      let same := (a :: as).takeWhile fun r => j.keyOf j.first r = x
      let twins := (b :: bs).takeWhile fun r => j.keyOf j.second r = x
      (same.flatMap fun r => twins.map fun t =>
        (Side.both, j.line (r.getD j.first []) (some r) (some t))) ++
        j.rows fuel ((a :: as).drop same.length) ((b :: bs).drop twins.length)

/-- A field of the output, such as `1.2`. -/
def cell? (cs : Text) : Option (Nat × Nat) :=
  match cs with
  | ['0'] => some (0, 0)
  | '1' :: '.' :: n => (natural? n).map fun n => (1, n - 1)
  | '2' :: '.' :: n => (natural? n).map fun n => (2, n - 1)
  | _ => none

end Sorted

open Sorted in
def join : Tool := do
  let (os, operands) ← readOptions <| .make "a:e:i1:2:j:o:t:v:z\x01\x02\x03"
    [("ignore-case", 'i'), ("check-order", '\x01'), ("nocheck-order", '\x02'),
      ("header", '\x03'), ("zero-terminated", 'z')]
  let (a, b) ← twoFiles operands
  let field (c : Char) : Run Nat := do
    match (valueOf? c os).or (valueOf? 'j' os) with
    | none => return 0
    | some v =>
      match natural? v with
      | some n => if n > 0 then return n - 1 else fail ("invalid field number: ".toList ++ quoted v)
      | none => fail ("invalid field number: ".toList ++ quoted v)
  let format ← match valueOf? 'o' os with
    | none => pure []
    | some v =>
      (Columns.items v).mapM fun item =>
        match cell? item with
        | some c => pure c
        | none => fail ("invalid field specifier: ".toList ++ quoted item)
  let j : Joining :=
    { mark := (valueOf? 't' os).bind (·.head?), folds := has "i" os, first := ← field '1'
      second := ← field '2', filler := (valueOf? 'e' os).getD [], format }
  let as ← readLines '\n' a
  let bs ← readLines '\n' b
  let rows := j.rows (as.length + bs.length + 1) (as.map j.fields) (bs.map j.fields)
  let wanted (s : Side) : Bool :=
    let file := if s == .first then ['1'] else ['2']
    os.any fun g => (g.1 = 'a' || g.1 = 'v') && g.2 = file
  for (side, line) in rows do
    if if side == .both then !has "v" os else wanted side then out line
  return 0

end CellRunner.Tool
