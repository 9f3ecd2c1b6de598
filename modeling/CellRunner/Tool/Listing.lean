import CellRunner.Tool.Moment
import CellRunner.Tool.Order
import CellRunner.Tool.Paths

/-!
# Listing directories
-/

set_option autoImplicit false

namespace CellRunner.Tool

open Machine (Prog FileInfo)
open Shell (Text ofString asName)

namespace Listing

structure Style where
  hidden : Bool
  /-- whether a directory itself and the one above are shown -/
  self : Bool
  backups : Bool
  long : Bool
  owner : Bool
  group : Bool
  inode : Bool
  blocks : Bool
  human : Bool
  marks : Char
  columns : Char
  deep : Bool
  quotes : Char
  order : Char
  backwards : Bool
  directoriesFirst : Bool
  follows : Bool
  isoTimes : Bool
  numeric : Bool

structure Entry where
  name : Text
  path : Text
  info : FileInfo
  target : Option Text

def entry (s : Style) (follows : Bool) (name path : Text) : Run (Except SystemError Entry) := do
  let r ← if follows || s.follows then infoOf path else ownInfoOf path
  let own ← ownInfoOf path
  let r := if r.isOk then r else if own.isOk then own else r
  match r with
  | .error e => return .error e
  | .ok info =>
    let target ← if info.kind == .link && s.long then
        pure ((← ask (.readLink (asName path))).toOption.map ofString)
      else pure none
    return .ok { name, path, info, target }

/-- Letters at the end of a file, which some orders look at first. -/
def ending (name : Text) : Text :=
  if name.contains '.' then (name.reverse.takeWhile (· != '.')).reverse else []

def order (s : Style) (a b : Entry) : Ordering :=
  let byName := Order.compareTexts a.name b.name
  let o := match s.order with
    | 't' => (compare b.info.changed a.info.changed).then byName
    | 'S' => (compare b.info.size a.info.size).then byName
    | 'X' => (Order.compareTexts (ending a.name) (ending b.name)).then byName
    | 'v' => (Order.versionOrder a.name b.name).then byName
    | 'U' => .eq
    | _ => byName
  let o := if s.backwards then o.swap else o
  if s.directoriesFirst then
    (compare (!a.info.isDirectory).toNat (!b.info.isDirectory).toNat).then o
  else o

def sorted (s : Style) (es : List Entry) : List Entry :=
  es.mergeSort fun a b => order s a b != .gt

def mark (s : Style) (i : FileInfo) : Text :=
  let isRun := i.mode &&& 0o111 != 0
  match s.marks, i.kind with
  | ' ', _ => []
  | _, .directory => ['/']
  | 'p', _ => []
  | _, .link => ['@']
  | _, .pipe => ['|']
  | 'F', .file => if isRun then ['*'] else []
  | _, _ => []

/-- A name with escapes for what cannot be seen. -/
def escapedName (cs : Text) : Text :=
  cs.flatMap fun c => if c = '\\' then "\\\\".toList else if c = ' ' then "\\ ".toList
    else if isPrintable c then [c] else escaped c

def shownName (s : Style) (cs : Text) : Text :=
  match s.quotes with
  | 'Q' =>
    '"' :: cs.flatMap (fun c => if c = '"' || c = '\\' then ['\\', c]
      else if isPrintable c then [c] else escaped c) ++ ['"']
  | 'b' => escapedName cs
  | 'q' => cs.map fun c => if isPrintable c then c else '?'
  | _ => cs

/-- How many blocks of 1024 bytes a file takes. -/
def blocksOf (i : FileInfo) : Nat :=
  match i.kind with
  | .file => (i.size + 4095) / 4096 * 4
  | .directory => 4
  | _ => 0

/-- A size in the greatest unit that leaves at least one; one place below ten. -/
def humanFrom (base : Nat) : Nat → Nat → List Char → Nat → Text
  | 0, n, _, _ => ofNat n
  | fuel + 1, n, units, scale =>
    let tenths := (n * 10 + scale - 1) / scale
    let ceiling := (n + scale - 1) / scale
    match units with
    | [] => ofNat ceiling
    | u :: rest =>
      if ceiling < base || rest.isEmpty then
        if scale = 1 then ofNat n
        else if tenths < 100 then ofNat (tenths / 10) ++ '.' :: ofNat (tenths % 10) ++ [u]
        else ofNat ceiling ++ [u]
      else humanFrom base fuel n rest (scale * base)

def human (n : Nat) : Text := humanFrom 1024 20 n " KMGTPE".toList 1

def sizeText (s : Style) (n : Nat) : Text := if s.human then human n else ofNat n

/-- The date in a long line: with the time of day if it is not far away. -/
def dateText (s : Style) (present : Moment) (i : FileInfo) : Text :=
  let m := Moment.ofCount i.changed
  let age := present.count - i.changed
  if s.isoTimes then m.text "%Y-%m-%d %H:%M".toList
  else if age > 15778476000000 || age < 0 then m.text "%b %e  %Y".toList
  else m.text "%b %e %H:%M".toList

/-- The owner in a long line; the group has the same name. -/
def Style.ownerText (s : Style) (i : FileInfo) : Text :=
  if s.numeric then ofNat (ownerNumber i) else ownerName i

def sizeColumn (s : Style) (i : FileInfo) : Text :=
  if i.kind == .device then "1, 3".toList else sizeText s i.size

/-- The lines of a list of entries. -/
def lines (s : Style) (es : List Entry) : Run (List Text) := do
  let present ← now
  let widest (f : Entry → Text) : Nat := es.foldl (fun n e => max n (f e).length) 0
  let blocks (e : Entry) : Text := if s.human then human (blocksOf e.info * 1024)
    else ofNat (blocksOf e.info)
  let blockWidth := widest blocks
  let inodeWidth := widest fun e => ofNat e.info.number
  let nameWidth := widest fun e => ofNat e.info.names
  let ownerWidth := widest fun e => s.ownerText e.info
  let owner (e : Entry) : Text := padRight ownerWidth (s.ownerText e.info) ++ [' ']
  let sizeWidth := widest fun e => sizeColumn s e.info
  return es.map fun e =>
    let front := (if s.inode then padLeft inodeWidth (ofNat e.info.number) ++ [' '] else []) ++
      if s.blocks then padLeft blockWidth (blocks e) ++ [' '] else []
    let name := shownName s e.name ++ (if s.long && e.target.isSome then [] else mark s e.info)
    if !s.long then front ++ name
    else
      front ++ Mode.kindLetter e.info.kind :: Mode.letters e.info.mode ++ ' ' ::
        padLeft nameWidth (ofNat e.info.names) ++ ' ' ::
        (if s.owner then owner e else []) ++ (if s.group then owner e else []) ++
        padLeft sizeWidth (sizeColumn s e.info) ++ ' ' :: dateText s present e.info ++ ' ' ::
        name ++ (match e.target with
          | some t => " -> ".toList ++ shownName s t
          | none => [])

/-- Names with commas between them, in lines of at most some width. -/
def commas (width : Nat) : Nat → List Text → Text → Text
  | _, [], out => out
  | column, [n], out =>
    if column > 0 && column + n.length + 1 > width then (out.dropLast ++ '\n' :: n)
    else out ++ n
  | column, n :: ns, out =>
    let piece := n ++ ", ".toList
    if column > 0 && column + n.length + 1 > width then
      commas width piece.length ns (out.dropLast ++ '\n' :: piece)
    else commas width (column + piece.length) ns (out ++ piece)

/-- Names in columns that are as few lines as fit into a width. -/
def inColumns (width : Nat) (across : Bool) (ns : List Text) : List Text :=
  let n := ns.length
  let layout (cols : Nat) : List (List Text) × Nat :=
    let rows := (n + cols - 1) / cols
    let at_ (r c : Nat) : Option Text := if across then ns[r * cols + c]? else ns[c * rows + r]?
    let table := (List.range rows).map fun r =>
      (List.range cols).filterMap fun c => if across && c ≥ cols then none else at_ r c
    let widths := (List.range cols).map fun c =>
      table.foldl (fun w row => max w ((row[c]?.map (·.length)).getD 0)) 0
    let total := widths.foldl (· + ·) 0 + 2 * (cols - 1)
    let used := if across then cols else (n + rows - 1) / max rows 1
    if used < cols && !across then ([], width + 1)
    else
      (table.map fun row =>
        (row.zip widths).zip (List.range row.length) |>.map fun ((cell, w), i) =>
          if i + 1 = row.length then cell else padRight (w + 2) cell, total)
  let fits := ((List.range (max n 1)).reverse.map (· + 1)).findSome? fun cols =>
    let (rows, total) := layout cols
    if total < width && !rows.isEmpty then some rows else none
  match fits with
  | some rows => rows.map List.flatten
  | none => ns

/-- Writes entries. -/
def show_ (s : Style) (es : List Entry) : Run Unit := do
  let ls ← lines s es
  match s.columns with
  | 'm' => if !ls.isEmpty then out (commas 80 0 ls [] ++ ['\n'])
  | 'C' => for l in inColumns 80 false ls do out (l ++ ['\n'])
  | 'x' => for l in inColumns 80 true ls do out (l ++ ['\n'])
  | _ => for l in ls do out (l ++ ['\n'])

def isHidden (name : Text) : Bool := name.head? = some '.'

def isBackup (name : Text) : Bool := name.getLast? = some '~'

/-- What is in a directory. -/
def inside (s : Style) (path : Text) : Run (Except SystemError (List Entry)) := do
  match ← ask (.list (asName path)) with
  | .error e => return .error e
  | .ok names =>
    let names := (if s.self then [['.'], ['.', '.']] else []) ++ names.map ofString
    let names := names.filter fun n => (s.hidden || !isHidden n) && !(s.backups && isBackup n)
    let found ← names.filterMapM fun n => do
      return (← entry s false n (within path n)).toOption
    return .ok (sorted s found)

/-- Lists directories, with a headline if there are several; `fuel` bounds their number. -/
def directories (s : Style) : Nat → Bool → Bool → List Text → Nat → Run Nat
  | 0, _, _, _, code => return code
  | _ + 1, _, _, [], code => return code
  | fuel + 1, headed, isFirst, path :: rest, code => do
    match ← inside s path with
    | .error e =>
      complain ("cannot open directory ".toList ++ because (named path) e)
      directories s fuel headed isFirst rest 2
    | .ok es =>
      if headed then out ((if isFirst then [] else ['\n']) ++ path ++ ":\n".toList)
      if s.long || s.blocks then
        let total := es.foldl (fun n e => n + blocksOf e.info) 0
        out ("total ".toList ++ (if s.human then human (total * 1024) else ofNat total) ++ ['\n'])
      show_ s es
      let deeper := if s.deep then
          (es.filter fun e =>
            e.info.isDirectory && e.name != ['.'] && e.name != ['.', '.']).map (·.path)
        else []
      directories s fuel headed false (deeper ++ rest) code

def spelling : Options :=
  .make "aAbBcCdfFgGhHiIklLmnNopqQrRsStTuUvw:xXZ1\x01\x02\x03::\x04:\x05:\x06::\x07"
    [("all", 'a'), ("almost-all", 'A'), ("escape", 'b'), ("ignore-backups", 'B'),
      ("directory", 'd'), ("classify", '\x06'), ("human-readable", 'h'), ("inode", 'i'),
      ("literal", 'N'), ("no-group", 'G'), ("quote-name", 'Q'), ("reverse", 'r'),
      ("recursive", 'R'), ("size", 's'), ("dereference", 'L'), ("group-directories-first", '\x01'),
      ("full-time", '\x02'), ("color", '\x03'), ("sort", '\x04'), ("time-style", '\x05'),
      ("width", 'w'), ("numeric-uid-gid", 'n'), ("hide-control-chars", 'q'),
      ("show-control-chars", '\x07')]

def styleOf (os : List Given) : Style :=
  let long := match lastOf? "lgonCx1m\x02" os with
    | some c => "lgon\x02".toList.contains c || (c = '1' && has "lgon\x02" os)
    | none => false
  let sortWord := (valueOf? '\x04' os).map String.ofList
  let order := match lastOf? "tSXvUf\x04" os with
    | some '\x04' => match sortWord with
      | some "time" => 't'
      | some "size" => 'S'
      | some "extension" => 'X'
      | some "version" => 'v'
      | some "none" => 'U'
      | _ => ' '
    | some 'f' => 'U'
    | some c => c
    | none => ' '
  { hidden := has "aAf" os, self := lastOf? "aAf" os != some 'A' && has "af" os
    backups := has "B" os, long, owner := !has "g" os, group := !has "oG" os, inode := has "i" os
    blocks := has "s" os, human := has "h" os
    marks := match lastOf? "Fp\x06" os with
      | some 'p' => 'p'
      | some _ => 'F'
      | none => ' '
    columns := (lastOf? "Cxm1" os).getD '1', deep := has "R" os
    quotes := (lastOf? "QbqN" os).getD 'N', order, backwards := has "r" os
    directoriesFirst := has "\x01" os, follows := has "L" os
    numeric := has "n" os, isoTimes := valueOf? '\x05' os == some "long-iso".toList }

end Listing

open Listing in
def ls : Tool := do
  modify fun d => { d with failure := 2 }
  let (os, operands) ← readOptions spelling
  let s := styleOf os
  let self := has "d" os
  let operands := if operands.isEmpty then [['.']] else operands
  let follows := !(s.long || self || s.marks = 'F') || has "HL" os
  let step (state : List Entry × Nat) (path : Text) : Run (List Entry × Nat) := do
    match ← entry s follows path path with
    | .ok e => return (e :: state.1, state.2)
    | .error e =>
      let _ ← cannot "cannot access" path e
      return (state.1, 2)
  let (found, code) ← operands.foldlM step ([], 0)
  let found := sorted s found.reverse
  let files := if self then found else found.filter (!·.info.isDirectory)
  let dirs := if self then [] else found.filter (·.info.isDirectory)
  show_ s files
  let headed := operands.length > 1 || s.deep
  directories s Prog.fuel headed files.isEmpty (dirs.map (·.path)) code

end CellRunner.Tool
