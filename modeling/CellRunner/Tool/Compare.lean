import CellRunner.Tool.Difference
import CellRunner.Tool.Moment
import CellRunner.Tool.Paths
import Std.Data.HashMap

/-!
# Comparing files
-/

set_option autoImplicit false

namespace CellRunner.Tool

open Machine (Prog Bytes FileInfo)
open Shell (Text ofBytes ofString asName)

namespace Compare

/-- Complains of the arguments, and points to the description of the program. -/
def misuse {α : Type} (message : Text) : Run α := do
  complain message
  let name := (← get).call.name
  complain ("Try '".toList ++ name ++ " --help' for more information.".toList)
  quit 2

def readOptions (o : Options) : Run (List Given × List Text) := do
  match o.read (← arguments) with
  | .ok r => return r
  | .error m => misuse m.text

/-- All of a file, or the end of the program. -/
def load (path : Text) : Run Text := do
  match ← contents path with
  | .ok cs => return cs
  | .error e => fail (because (beforeColon path) e)

/-! ### Byte by byte -/

/-- The first place where two texts differ, with the number of its line. -/
inductive Outcome where
  | same
  | differ (place line : Nat) (a b : Char)
  /-- one text ends first: the first or the second -/
  | ends (isFirst : Bool) (place line : Nat) (inLine : Bool)
  deriving DecidableEq, Repr

def compareFrom : Text → Text → Nat → Nat → Bool → Outcome
  | [], [], _, _, _ => .same
  | [], _ :: _, n, line, inLine => .ends true n line inLine
  | _ :: _, [], n, line, inLine => .ends false n line inLine
  | a :: as, b :: bs, n, line, _ =>
    if a = b then compareFrom as bs (n + 1) (if a = '\n' then line + 1 else line) (a != '\n')
    else .differ (n + 1) line a b

/-- All places where two texts differ, and whether one ends first. -/
def differences : Text → Text → Nat → List (Nat × Char × Char) → List (Nat × Char × Char) × Outcome
  | [], [], _, out => (out.reverse, .same)
  | [], _ :: _, n, out => (out.reverse, .ends true n 0 false)
  | _ :: _, [], n, out => (out.reverse, .ends false n 0 false)
  | a :: as, b :: bs, n, out =>
    differences as bs (n + 1) (if a = b then out else (n + 1, a, b) :: out)

def octal3 (c : Char) : Text := padLeft 3 (Nat.toDigits 8 c.toNat)

/-- A byte as it is shown. -/
def shown (c : Char) : Text :=
  let low (n : Nat) : Text :=
    if n < 32 then ['^', Char.ofNat (n + 64)] else if n = 127 then ['^', '?'] else [Char.ofNat n]
  if c.toNat < 128 then low c.toNat else 'M' :: '-' :: low (c.toNat - 128)

end Compare

open Compare in
def cmp : Tool := do
  modify fun d => { d with failure := 2 }
  let (os, operands) ← Compare.readOptions <| .make "bi:ln:s"
    [("print-bytes", 'b'), ("ignore-initial", 'i'), ("verbose", 'l'), ("bytes", 'n'),
      ("quiet", 's'), ("silent", 's')]
  match operands with
  | [] => Compare.misuse ("missing operand after ".toList ++ quoted (← get).call.name)
  | a :: rest => do
    if let some extra := rest[3]? then Compare.misuse ("extra operand ".toList ++ quoted extra)
    let b := rest.headD ['-']
    let number (v : Text) : Run Nat := do
      match sized? v with
      | some n => return n
      | none => Compare.misuse ("invalid --bytes value ".toList ++ quoted v)
    let skips := (String.ofList ((valueOf? 'i' os).getD ['0'])).splitOn ":"
    let skip1 ← number ((rest[1]?).getD (skips.headD "0").toList)
    let skip2 ← number ((rest[2]?).getD ((skips[1]?).getD (skips.headD "0")).toList)
    let limit ← match valueOf? 'n' os with
      | some v => do pure (some (← number v))
      | none => pure none
    let cut (cs : Text) : Text := match limit with
      | some n => cs.take n
      | none => cs
    let x := cut ((← load a).drop skip1)
    let y := cut ((← load b).drop skip2)
    let eof (isFirst : Bool) (n : Nat) (place : Text) : Run Unit := do
      let path := if isFirst then a else b
      if !has "s" os then
        complain ("EOF on ".toList ++ path ++
          if n = 0 then " which is empty".toList else " after byte ".toList ++ ofNat n ++ place)
    if has "l" os then
      let (found, rest) := differences x y 0 []
      let width := (ofNat (min x.length y.length)).length
      for (n, c, d) in found do
        out (padLeft width (ofNat n) ++ ' ' :: octal3 c ++
          (if has "b" os then ' ' :: padRight 4 (shown c) else []) ++ ' ' :: octal3 d ++
          (if has "b" os then ' ' :: shown d else []) ++ ['\n'])
      match rest with
      | .ends isFirst n _ _ => do
        flush
        eof isFirst n []
        return 1
      | _ => return if found.isEmpty then 0 else 1
    else
      match compareFrom x y 0 1 false with
      | .same => return 0
      | .differ n line c d => do
        if !has "s" os then
          out (a ++ ' ' :: b ++ " differ: ".toList ++
            (if has "b" os then "byte ".toList else "char ".toList) ++ ofNat n ++
            ", line ".toList ++ ofNat line ++
            (if has "b" os then
              " is ".toList ++ octal3 c ++ ' ' :: shown c ++ ' ' :: octal3 d ++ ' ' :: shown d
            else []) ++ ['\n'])
        return 1
      | .ends isFirst n line inLine => do
        eof isFirst n (if inLine then ", in line ".toList ++ ofNat line
          else ", line ".toList ++ ofNat (line - 1))
        return 1

namespace Compare

/-! ### Line by line -/

inductive Form where
  | normal
  | unified (context : Nat)
  | copied (context : Nat)
  | script
  | brief
  deriving DecidableEq, Repr

structure Style where
  form : Form
  folds : Bool
  /-- how blanks count: all of them, runs as one, not at all -/
  blanks : Nat
  atEnd : Bool
  emptyLines : Bool
  tellsSame : Bool
  recursive : Bool
  absentAsEmpty : Bool
  asText : Bool
  labels : List Text
  /-- the options as they were given, for headlines -/
  spelling : List Text

def isBlank (c : Char) : Bool := c = ' ' || ('\t' ≤ c && c ≤ '\r' && c != '\n')

/-- Runs of blanks as single ones; those at the end of the line count for nothing. -/
def squeezed : Text → Text
  | [] => []
  | c :: cs =>
    if isBlank c then
      match cs.dropWhile isBlank with
      | [] => []
      | d :: _ => if d = '\n' || isBlank (cs.headD 'x') then squeezed cs else ' ' :: squeezed cs
    else c :: squeezed cs

/-- What a line is compared by. -/
def Style.key (s : Style) (line : Text) : Text :=
  let line := if s.folds then line.map Char.toLower else line
  match s.blanks with
  | 2 => line.filter fun c => !isBlank c
  | 1 => squeezed line
  | _ =>
    if s.atEnd then
      let back := line.reverse
      let front := if back.head? = some '\n' then back.drop 1 else back
      (front.dropWhile isBlank).reverse ++ (if back.head? = some '\n' then ['\n'] else [])
    else line

/-- The lines of a text, each with the newline that ends it. -/
def fullLines (cs : Text) : List Text :=
  let ls := lines cs
  if cs.getLast? = some '\n' || cs.isEmpty then ls.map (· ++ ['\n'])
  else ls.dropLast.map (· ++ ['\n']) ++ [ls.getLastD []]

/-- Numbers for the lines of two texts: equal lines have equal numbers. -/
def numbered (s : Style) (as bs : List Text) : Array Nat × Array Nat :=
  let step (st : Std.HashMap String Nat × Array Nat) (line : Text) :
      Std.HashMap String Nat × Array Nat :=
    let k := String.ofList (s.key line)
    match st.1[k]? with
    | some n => (st.1, st.2.push n)
    | none => (st.1.insert k st.1.size, st.2.push st.1.size)
  let (m, xs) := as.foldl step (∅, #[])
  let (_, ys) := bs.foldl step (m, #[])
  (xs, ys)

def withMark (mark : String) (line : Text) : Text :=
  let line := mark.toList ++ line
  if line.getLast? = some '\n' then line
  else line ++ "\n\\ No newline at end of file\n".toList

def range (first count : Nat) : Text :=
  if count = 0 then ofNat first
  else if count = 1 then ofNat (first + 1)
  else ofNat (first + 1) ++ ',' :: ofNat (first + count)

def part (ls : Array Text) (first count : Nat) : List Text := (ls.extract first (first + count)).toList

open Difference (Change)

def letter (c : Change) : Char :=
  if c.dropped = 0 then 'a' else if c.added = 0 then 'd' else 'c'

def normalText (as bs : Array Text) (c : Change) : Text :=
  range c.first c.dropped ++ letter c :: range c.second c.added ++ '\n' ::
    (part as c.first c.dropped).flatMap (withMark "< ") ++
    (if c.dropped > 0 && c.added > 0 then "---\n".toList else []) ++
    (part bs c.second c.added).flatMap (withMark "> ")

/-- Changes that are shown together, as few lines stand between them. -/
def grouped (context : Nat) : List Change → List (List Change)
  | [] => []
  | c :: cs =>
    match grouped context cs with
    | (d :: ds) :: rest =>
      if d.first - (c.first + c.dropped) ≤ 2 * context then (c :: d :: ds) :: rest
      else [c] :: (d :: ds) :: rest
    | _ => [[c]]

/-- Where a group begins and ends in both rows. -/
structure Span where
  first : Nat
  firstStop : Nat
  second : Nat
  secondStop : Nat

def span (context : Nat) (as bs : Array Text) (g : List Change) : Span :=
  let c := g.headD ⟨0, 0, 0, 0⟩
  let d := g.getLastD ⟨0, 0, 0, 0⟩
  let before := min context c.first
  let ended := d.first + d.dropped
  let after := min context (as.size - ended)
  { first := c.first - before, firstStop := ended + after, second := c.second - before
    secondStop := min bs.size (d.second + d.added + after) }

def unifiedRange (start stop : Nat) : Text :=
  let n := stop - start
  if n = 1 then ofNat (start + 1)
  else if n = 0 then ofNat start ++ ",0".toList
  else ofNat (start + 1) ++ ',' :: ofNat n

def unifiedLines (as bs : Array Text) (stop : Nat) : Nat → List Change → Text
  | i, [] => (part as i (stop - i)).flatMap (withMark " ")
  | i, c :: cs =>
    (part as i (c.first - i)).flatMap (withMark " ") ++
      (part as c.first c.dropped).flatMap (withMark "-") ++
      (part bs c.second c.added).flatMap (withMark "+") ++
      unifiedLines as bs stop (c.first + c.dropped) cs

def unifiedText (context : Nat) (as bs : Array Text) (g : List Change) : Text :=
  let s := span context as bs g
  "@@ -".toList ++ unifiedRange s.first s.firstStop ++ " +".toList ++
    unifiedRange s.second s.secondStop ++ " @@\n".toList ++ unifiedLines as bs s.firstStop s.first g

def copiedRange (start stop : Nat) : Text :=
  if stop - start ≤ 1 then ofNat stop else ofNat (start + 1) ++ ',' :: ofNat stop

/-- One side of a group: which lines are changed, dropped or added. -/
def copiedSide (ls : Array Text) (place count : Change → Nat) (only : String) (stop : Nat) :
    Nat → List Change → Text
  | i, [] => (part ls i (stop - i)).flatMap (withMark "  ")
  | i, c :: cs =>
    let mark := if c.dropped > 0 && c.added > 0 then "! " else only
    (part ls i (place c - i)).flatMap (withMark "  ") ++
      (part ls (place c) (count c)).flatMap (withMark mark) ++
      copiedSide ls place count only stop (place c + count c) cs

def copiedText (context : Nat) (as bs : Array Text) (g : List Change) : Text :=
  let s := span context as bs g
  "***************\n*** ".toList ++ copiedRange s.first s.firstStop ++ " ****\n".toList ++
    (if g.any (·.dropped > 0) then
      copiedSide as (·.first) (·.dropped) "- " s.firstStop s.first g else []) ++
    "--- ".toList ++ copiedRange s.second s.secondStop ++ " ----\n".toList ++
    if g.any (·.added > 0) then
      copiedSide bs (·.second) (·.added) "+ " s.secondStop s.second g else []

/-- A command for an editor; they are given from the last one to the first. -/
def scriptText (bs : Array Text) (c : Change) : Text :=
  range c.first c.dropped ++ letter c :: '\n' ::
    if c.added = 0 then [] else (part bs c.second c.added).flatten ++ ".\n".toList

/-- A file to be compared. -/
structure Side where
  path : Text
  text : Text
  changed : Int

def headline (mark : String) (label : Option Text) (s : Side) : Text :=
  let m := Moment.ofCount s.changed
  mark.toList ++ ' ' :: (match label with
    | some l => l
    | none => s.path ++ '\t' :: m.text "%Y-%m-%d %H:%M:%S".toList ++ '.' ::
        Moment.zeros 9 (m.fraction * 1000) ++ " +0000".toList) ++ ['\n']

def isBinary (cs : Text) : Bool := (cs.take 32768).contains '\x00'

/-- What is written of two files, and whether they differ. -/
def report (s : Style) (a b : Side) (header : Text) : Text × Nat :=
  if !s.asText && (isBinary a.text || isBinary b.text) then
    if a.text = b.text then ([], 0)
    else
      ((if s.form = .brief then "Files ".toList else "Binary files ".toList) ++ a.path ++
        " and ".toList ++ b.path ++ " differ\n".toList, if s.form = .brief then 1 else 2)
  else
    let as := (fullLines a.text).toArray
    let bs := (fullLines b.text).toArray
    let (xs, ys) := numbered s as.toList bs.toList
    let found := Difference.changes (Difference.compare xs ys)
    let isBlankChange (c : Change) : Bool :=
      (part as c.first c.dropped ++ part bs c.second c.added).all (· = ['\n'])
    let found := if s.emptyLines then found.filter (!isBlankChange ·) else found
    if found.isEmpty then ([], 0)
    else
      let heads (x y : String) : Text := headline x s.labels[0]? a ++ headline y s.labels[1]? b
      (match s.form with
        | .brief =>
          "Files ".toList ++ a.path ++ " and ".toList ++ b.path ++ " differ\n".toList
        | .normal => header ++ found.flatMap (normalText as bs)
        | .script => header ++ found.reverse.flatMap (scriptText bs)
        | .unified n => header ++ heads "---" "+++" ++ (grouped n found).flatMap (unifiedText n as bs)
        | .copied n => header ++ heads "***" "---" ++ (grouped n found).flatMap (copiedText n as bs), 1)

def infoFor (path : Text) : Run (Except SystemError FileInfo) :=
  if path = ['-'] then ask (.statOpen 0) else infoOf path

/-- Compares two paths, and directories name by name; `fuel` bounds the depth. -/
def compare (s : Style) : Nat → Bool → Text → Text → Run Nat
  | 0, _, _, _ => return 2
  | fuel + 1, inside, a, b => do
    let x ← infoFor a
    let y ← infoFor b
    let absent (path : Text) (i : Except SystemError FileInfo) : Run Nat := do
      match i with
      | .error e =>
        if s.absentAsEmpty && e == .noEntry then return 0
        complain (because (path) e)
        return 2
      | .ok _ => return 0
    let bothGone := !x.isOk && !y.isOk
    let n := max (← absent a x) (← absent b y)
    if n > 0 || bothGone then return max n (if bothGone then 2 else 0)
    let isDir (i : Except SystemError FileInfo) : Bool := (i.toOption.map (·.isDirectory)).getD false
    match isDir x, isDir y with
    | true, true =>
      if inside && !s.recursive then
        out ("Common subdirectories: ".toList ++ a ++ " and ".toList ++ b ++ ['\n'])
        return 0
      else
        let listed (path : Text) : Run (List Text) := do
          match ← ask (.list (asName path)) with
          | .ok names => return names.map ofString
          | .error e =>
            complain (because path e)
            quit 2
        let as ← listed a
        let bs ← listed b
        let all := ((as ++ bs).eraseDups).mergeSort fun p q => asName p ≤ asName q
        forEach all fun name => do
          let here := within a name
          let there := within b name
          if as.contains name && bs.contains name then compare s fuel true here there
          else if s.absentAsEmpty && (s.recursive || !(← isDirectory here) && !(← isDirectory there)) then
            compare s fuel true here there
          else
            let dir := if as.contains name then a else b
            out ("Only in ".toList ++ dir ++ ": ".toList ++ name ++ ['\n'])
            return 1
    | true, false =>
      if inside then kinds a b
      else if b = ['-'] then fail ("cannot compare '-' to a directory".toList)
      else compare s fuel false (within a (Paths.lastName b)) b
    | false, true =>
      if inside then kinds a b
      else if a = ['-'] then fail ("cannot compare '-' to a directory".toList)
      else compare s fuel false a (within b (Paths.lastName a))
    | false, false =>
      let textOf (path : Text) (i : Except SystemError FileInfo) : Run Text :=
        if i.isOk then load path else return []
      let one := a = b || (match x, y with
        | .ok i, .ok j => i.number = j.number && i.kind == j.kind
        | _, _ => false)
      let here ← if one then pure [] else textOf a x
      let there ← if one then pure [] else textOf b y
      let p : Side := { path := a, text := here
                        changed := (x.toOption.map (·.changed)).getD 0 }
      let q : Side := { path := b, text := there
                        changed := (y.toOption.map (·.changed)).getD 0 }
      let header : Text := if inside then
          "diff".toList ++ s.spelling.flatMap (fun w => ' ' :: w) ++ ' ' :: a ++ ' ' :: b ++ ['\n']
        else []
      let (text, code) := report s p q header
      out text
      if code = 0 && s.tellsSame then
        out ("Files ".toList ++ a ++ " and ".toList ++ b ++ " are identical\n".toList)
      return code
where
  kinds (a b : Text) : Run Nat := do
    let name (path : Text) : Run Text := do
      return if ← isDirectory path then "directory".toList else "regular file".toList
    out ("File ".toList ++ a ++ " is a ".toList ++ (← name a) ++ " while file ".toList ++ b ++
      " is a ".toList ++ (← name b) ++ ['\n'])
    return 1

def isNumber (cs : Text) : Bool := !cs.isEmpty && cs.all Char.isDigit

end Compare

open Compare in
def diff : Tool := do
  modify fun d => { d with failure := 2 }
  let args ← arguments
  let (os, operands) ← Compare.readOptions <| .make "abBcC:dEeiI:L:nNqrstuU:wyZ\x01\x02\x03::\x04"
    [("text", 'a'), ("ignore-space-change", 'b'), ("ignore-blank-lines", 'B'), ("context", 'c'),
      ("minimal", 'd'), ("ed", 'e'), ("ignore-case", 'i'), ("label", 'L'), ("new-file", 'N'),
      ("brief", 'q'), ("recursive", 'r'), ("report-identical-files", 's'), ("unified", 'u'),
      ("ignore-all-space", 'w'), ("ignore-trailing-space", 'Z'), ("normal", '\x01'),
      ("strip-trailing-cr", '\x02'), ("color", '\x03'), ("no-ignore-file-name-case", '\x04')]
  let context (v : Option Text) : Nat := (v.bind natural?).getD 3
  let form : Form :=
    if has "q" os then .brief
    else match lastOf? "uUcCe\x01" os with
      | some 'u' => .unified 3
      | some 'U' => .unified (context (valueOf? 'U' os))
      | some 'c' => .copied 3
      | some 'C' => .copied (context (valueOf? 'C' os))
      | some 'e' => .script
      | _ => .normal
  let s : Style :=
    { form, folds := has "i" os, blanks := if has "w" os then 2 else if has "b" os then 1 else 0
      atEnd := has "Z" os, emptyLines := has "B" os, tellsSame := has "s" os
      recursive := has "r" os, absentAsEmpty := has "N" os, asText := has "a" os
      labels := (os.filter (·.1 = 'L')).map (·.2)
      spelling := args.filter fun a => a.head? = some '-' && a.length > 1 }
  match operands with
  | [a, b] => compare s greatestDepth false a b
  | [] => Compare.misuse ("missing operand after ".toList ++
      quoted ((args.getLast?).getD (← get).call.name))
  | [a] => Compare.misuse ("missing operand after ".toList ++ quoted a)
  | _ :: _ :: c :: _ => Compare.misuse ("extra operand ".toList ++ quoted c)

end CellRunner.Tool
