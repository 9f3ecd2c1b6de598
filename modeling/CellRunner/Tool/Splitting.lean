import CellRunner.Tool.Launch
import CellRunner.Tool.Lines
import CellRunner.Shell.Signal

/-!
# Files cut into pieces

A piece goes to a file of its own. Pieces have some length, hold some lines, or begin where lines
match.
-/

set_option autoImplicit false

namespace CellRunner.Tool

open Machine (Prog Bytes)
open Shell (Text toBytes ofBytes asName)

namespace Splitting

/-! ### Pieces -/

/-- Texts of some length. -/
def byLength (n : Nat) : Nat → Text → List Text
  | 0, _ => []
  | fuel + 1, cs =>
    if cs.isEmpty then [] else cs.take n :: byLength n fuel (cs.drop n)

/-- The lines of a text with their ends. -/
def wholeLines (mark : Char) (cs : Text) : List Text :=
  cs.foldr (fun c s =>
    if c = mark then [c] :: s
    else
      match s with
      | line :: rest => (c :: line) :: rest
      | [] => [[c]]) []

/-- Groups of some lines. -/
def byCount (n : Nat) : Nat → List Text → List Text
  | 0, _ => []
  | fuel + 1, ls =>
    if ls.isEmpty then [] else (ls.take n).flatten :: byCount n fuel (ls.drop n)

/-- As much of the front of `cs` as ends with a mark, and the rest. -/
def uptoLast (mark : Char) (cs : Text) : Text × Text :=
  let tail := (cs.reverse.takeWhile (· != mark)).reverse
  (cs.take (cs.length - tail.length), tail)

/-- Lines that fit together in some bytes; longer ones are cut. -/
def byFit (mark : Char) (n : Nat) : Nat → Text → List Text
  | 0, _ => []
  | fuel + 1, cs =>
    if cs.isEmpty then []
    else if cs.length < n then [cs]
    else
      let (front, tail) := uptoLast mark (cs.take n)
      let piece := if front.isEmpty then tail else front
      piece :: byFit mark n fuel (cs.drop piece.length)

/-- How long the pieces are when a text is cut into `n`; the first ones take what is left over. -/
def shares (size n : Nat) : List Nat :=
  (List.range n).map fun i => size / n + if i < size % n then 1 else 0

def byShares : List Nat → Text → List Text
  | [], _ => []
  | n :: ns, cs => cs.take n :: byShares ns (cs.drop n)

/-- `n` pieces that end where lines end, near where equal ones would. -/
def byLineShares (mark : Char) : List Nat → Nat → Nat → Text → List Text
  | [], _, _, _ => []
  | share :: shares, reached, stop, cs =>
    let stop := stop + share
    if cs.isEmpty || stop ≤ reached then [] :: byLineShares mark shares reached stop cs
    else
      let skip := stop - 1 - reached
      let rest := cs.drop skip
      let line := rest.takeWhile (· != mark)
      let taken := min cs.length (skip + line.length + 1)
      cs.take taken :: byLineShares mark shares (reached + taken) stop (cs.drop taken)

/-- Lines dealt out to `n` pieces in turn. -/
def dealt (n : Nat) (ls : List Text) : List Text :=
  let start : Array (List Text) := Array.replicate n []
  let (piles, _) := ls.foldl (fun (piles, i) l => (piles.modify (i % n) (l :: ·), i + 1)) (start, 0)
  piles.toList.map fun p => p.reverse.flatten

inductive Way where
  | lines (n : Nat)
  | bytes (n : Nat)
  | fitting (n : Nat)
  /-- some pieces, of which one is wanted if one is given -/
  | pieces (n : Nat) (one : Option Nat)
  | linePieces (n : Nat) (one : Option Nat)
  | turns (n : Nat) (one : Option Nat)

/-- How many pieces there will be, if that is known. -/
def Way.count? : Way → Option Nat
  | .pieces n _ => some n
  | .linePieces n _ => some n
  | .turns n _ => some n
  | _ => none

def Way.one? : Way → Option Nat
  | .pieces _ k => k
  | .linePieces _ k => k
  | .turns _ k => k
  | _ => none

def Way.cut (w : Way) (mark : Char) (cs : Text) : List Text :=
  let fuel := cs.length + 1
  match w with
  | .lines n => byCount n fuel (wholeLines mark cs)
  | .bytes n => byLength n fuel cs
  | .fitting n => byFit mark n fuel cs
  | .pieces n _ => byShares (shares cs.length n) cs
  | .linePieces n _ => byLineShares mark (shares cs.length n) 0 0 cs
  | .turns n _ => dealt n (wholeLines mark cs)

/-! ### Names -/

structure Naming where
  front : Text
  letters : Array Char
  length : Nat
  /-- whether names get longer when no more are left -/
  grows : Bool
  back : Text
  start : Nat

def Naming.digits (letters : Array Char) (width n : Nat) : Text :=
  (List.range width).map fun i =>
    letters.getD (n / Nat.pow letters.size (width - 1 - i) % letters.size) 'a'

/-- Names for numbers from zero on; one that is too great for its width takes a wider one, after
the last letter. -/
def Naming.growing (t : Naming) : Nat → Text → Nat → Nat → Text
  | 0, front, width, n => front ++ Naming.digits t.letters width n
  | fuel + 1, front, width, n =>
    let room := Nat.pow t.letters.size width - Nat.pow t.letters.size (width - 1)
    if n < room then front ++ Naming.digits t.letters width n
    else growing t fuel (front ++ [t.letters.getD (t.letters.size - 1) 'z']) (width + 1) (n - room)

def Naming.name? (t : Naming) (i : Nat) : Option Text :=
  let n := i + t.start
  if t.grows then some (t.front ++ t.growing (n + 1) [] t.length n ++ t.back)
  else if n < Nat.pow t.letters.size t.length then
    some (t.front ++ Naming.digits t.letters t.length n ++ t.back)
  else none

/-! ### Writing -/

structure Wish where
  way : Way
  mark : Char
  naming : Naming
  filter : Option Text
  elides : Bool
  tells : Bool
  /-- the file that is cut -/
  source : Option Nat

/-- Gives a piece to a command that knows the name of its file. -/
def filtered (command name piece : Text) : Run Nat := do
  let env ← environment
  let shell := ((env.lookup "SHELL").map ofBytes).getD "/bin/sh".toList
  let env := env.filter (·.1 != "FILE") ++ [("FILE", toBytes name)]
  let (r, w) ← ask .pipe
  let number ← Launch.startAside shell ["-c".toList, command] env
    (fun n => "failed to run command: \"".toList ++ n ++ " -c ".toList ++ command ++ ['"']) do
      close w
      let _ ← ask (.copy r 0)
      close r
  close r
  let _ ← run (Prog.put w (toBytes piece))
  close w
  match ← Launch.wait number with
  | some (.exited 0) => return 0
  | some (.exited n) =>
    complain ("with FILE=".toList ++ name ++ ", exit ".toList ++ ofNat n ++
      " from command: ".toList ++ command)
    quit n
  | some (.signaled n) =>
    if n = Machine.Signal.pipe then return 0
    complain ("with FILE=".toList ++ name ++ ", signal ".toList ++
      (Shell.Signal.name .extended n).toList ++ " from command: ".toList ++ command)
    quit (128 + n)
  | none => return 1

/-- Writes a piece to its file. -/
def Wish.store (w : Wish) (name piece : Text) : Run Nat := do
  match w.filter with
  | some command =>
    if w.tells then out ("executing with FILE=".toList ++ beforeColon name ++ ['\n'])
    filtered command name piece
  | none =>
    if w.tells then out ("creating file ".toList ++ named name ++ ['\n'])
    if let .ok info ← infoOf name then
      if w.source = some info.number then
        fail (named name ++ " would overwrite input; aborting".toList)
    match ← ask (.open (asName name) .truncate 0o666 3) with
    | .error e => fail (because (beforeColon name) e)
    | .ok d =>
      let r ← run (Prog.put d (toBytes piece))
      close d
      match r with
      | .ok () => return 0
      | .error e => fail (because (beforeColon name) e)

def Wish.storeAll (w : Wish) : Nat → List Text → Nat → Run Nat
  | _, [], code => return code
  | i, piece :: pieces, code => do
    if w.elides && piece.isEmpty then w.storeAll i pieces code
    else
      match w.naming.name? i with
      | none => fail "output file suffixes exhausted".toList
      | some name => w.storeAll (i + 1) pieces (max code (← w.store name piece))

/-! ### Arguments -/

/-- The least width in which the last of `n` names fits. -/
def widthFor (base : Nat) : Nat → Nat → Nat
  | 0, _ => 1
  | fuel + 1, last => if last < base then 1 else widthFor base fuel (last / base) + 1

def amount (what : String) (sized : Bool) (v : Text) : Run Nat := do
  match if sized then sized? v else natural? v with
  | some n =>
    if n = 0 then fail (what.toList ++ ": ".toList ++ quoted v) else return n
  | none => fail (what.toList ++ ": ".toList ++ quoted v)

/-- A number of pieces, and the one that is wanted. -/
def chunks (v : Text) : Run (Nat × Option Nat) := do
  let (front, rest) := v.span (· != '/')
  match natural? front, rest with
  | some k, _ :: n =>
    let n ← amount "invalid number of chunks" false n
    if k = 0 || n < k then fail ("invalid chunk number: ".toList ++ quoted front)
    return (n, some k)
  | _, _ => return (← amount "invalid number of chunks" false v, none)

def wayOf (c : Char) (v : Text) : Run Way := do
  match c with
  | 'b' => return .bytes (← amount "invalid number of bytes" true v)
  | 'C' => return .fitting (← amount "invalid number of lines" true v)
  | 'l' => return .lines (← amount "invalid number of lines" true v)
  | _ =>
    match v.dropWhile (· = ' ') with
    | 'r' :: '/' :: v => let (n, k) ← chunks v; return .turns n k
    | 'l' :: '/' :: v => let (n, k) ← chunks v; return .linePieces n k
    | v => let (n, k) ← chunks v; return .pieces n k

/-- Arguments in which a number after a dash stands as a number of lines. -/
def modern : List Text → List Text
  | [] => []
  | a :: rest =>
    match a with
    | ['-', '-'] => a :: rest
    | '-' :: c :: cs =>
      if c.isDigit && cs.all Char.isDigit then ('-' :: 'l' :: c :: cs) :: modern rest
      else if ['a', 'b', 'C', 'l', 'n', 't'].contains c && cs.isEmpty then
        match rest with
        | v :: rest => a :: v :: modern rest
        | [] => [a]
      else a :: modern rest
    | _ => a :: modern rest

def lower : Array Char := "abcdefghijklmnopqrstuvwxyz".toList.toArray

def decimalDigits : Array Char := "0123456789".toList.toArray

def hexDigits : Array Char := "0123456789abcdef".toList.toArray

def separator (v : Text) : Run Char := do
  match v with
  | [] => fail "empty record separator".toList
  | [c] => return c
  | ['\\', '0'] => return Char.ofNat 0
  | _ => fail ("multi-character separator ".toList ++ quoted v)

end Splitting

open Splitting in
def split : Tool := do
  modify fun d => { d with call := { d.call with args := modern d.call.args } }
  let (os, operands) ← readOptions <| .make "a:b:C:del:n:t:ux\x01:\x02::\x03::\x04:\x05"
    [("suffix-length", 'a'), ("additional-suffix", '\x01'), ("bytes", 'b'), ("line-bytes", 'C'),
      ("numeric-suffixes", '\x02'), ("hex-suffixes", '\x03'), ("elide-empty-files", 'e'),
      ("filter", '\x04'), ("lines", 'l'), ("number", 'n'), ("separator", 't'), ("unbuffered", 'u'),
      ("verbose", '\x05')]
  let given := os.filter fun o => "bCln".toList.contains o.1
  if given.length > 1 then misuse "cannot split in more than one way".toList
  let way ← match given.head? with
    | some (c, v) => wayOf c v
    | none => pure (.lines 1000)
  let marks ← (os.filter (·.1 == 't')).mapM fun o => separator o.2
  if !marks.all (some · == marks.head?) then
    fail "multiple separator characters specified".toList
  let length ← match valueOf? 'a' os with
    | none => pure 0
    | some v =>
      match natural? v with
      | some n => pure n
      | none => fail ("invalid suffix length: ".toList ++ quoted v)
  let back := (valueOf? '\x01' os).getD []
  if back.contains '/' then
    misuse ("invalid suffix ".toList ++ quoted back ++ ", contains directory separator".toList)
  let kinds := os.filter fun o => "dx\x02\x03".toList.contains o.1
  let (letters, start) ← match kinds.getLast? with
    | none => pure (lower, none)
    | some (c, v) => do
      let isHex := c = 'x' || c = '\x03'
      let letters := if isHex then hexDigits else decimalDigits
      if v.isEmpty then pure (letters, none)
      else
        match v.mapM letters.idxOf? with
        | none =>
          misuse (quoted v ++ (if isHex then ": invalid start value for hexadecimal suffix"
            else ": invalid start value for numerical suffix").toList)
        | some ds => pure (letters, some (ds.foldl (fun n d => n * letters.size + d) 0, v.length))
  atMost 2 operands
  let needed := match way.count? with
    | none => 0
    | some n =>
      let last := match start with
        | some (s, _) => if s < n then n - 1 + s else n - 1
        | none => n - 1
      widthFor letters.size (last + 1) last
  if length != 0 && length < needed then
    fail ("the suffix length needs to be at least ".toList ++ ofNat needed)
  let width := if length != 0 then length else max 2 needed
  if let some (_, n) := start then
    if width < n then
      misuse "numerical suffix start value is too large for the suffix length".toList
  if way.one?.isSome && has "\x04" os then
    misuse "--filter does not process a chunk extracted to stdout".toList
  let naming : Naming :=
    { front := operands.getD 1 ['x'], letters, length := width, back
      grows := length = 0 && needed = 0 && start.isNone
      start := (start.map (·.1)).getD 0 }
  let path := operands.headD ['-']
  let source ← do
    match ← (if path = ['-'] then ask (.statOpen 0) else infoOf path) with
    | .ok i => pure (if i.kind == .file then some i.number else none)
    | .error _ => pure none
  let wish : Wish :=
    { way, mark := marks.headD '\n', naming, filter := valueOf? '\x04' os, elides := has "e" os
      tells := has "\x05" os, source }
  withInput path
    (fun e => fail ("cannot open ".toList ++ named path ++ " for reading: ".toList ++
      Shell.ofString e.text))
    fun d => do
      match ← slurp d with
      | .error e => fail (because (beforeColon path) e)
      | .ok bytes =>
        let pieces := way.cut wish.mark (ofBytes bytes)
        match way.one? with
        | some k =>
          out (pieces.getD (k - 1) [])
          return 0
        | none => wish.storeAll 0 pieces 0

/-! ### Pieces by context -/

namespace Context

inductive Target where
  | line (n : Nat)
  | matching (r : Regex) (offset : Int) (skips : Bool)

structure Pattern where
  text : Text
  target : Target
  /-- how often it is used again; none for as often as possible -/
  repeats : Option Nat := some 0

/-- How far the cutting has come. -/
structure Place where
  /-- the lines that are left, with the number of the first one -/
  rest : List Text
  number : Nat := 1
  /-- the last line that was looked at -/
  seen : Nat := 0
  /-- how many files there are -/
  files : Nat := 0
  /-- what the present file holds, the last line first; none if no file is open -/
  piece : Option (List Text) := none

structure Wish where
  naming : Nat → Text
  quiet : Bool
  elides : Bool
  keeps : Bool
  suppresses : Bool

abbrev Cutting := StateT Place Run

def open_ : Cutting Unit := modify fun p => { p with piece := some [] }

def save (line : Text) : Cutting Unit :=
  modify fun p => { p with piece := p.piece.map (line :: ·) }

/-- Takes the first line that is left. -/
def take : Cutting (Option Text) := do
  let p ← get
  match p.rest with
  | [] => return none
  | line :: rest =>
    set { p with rest, number := p.number + 1, seen := max p.seen p.number }
    return some line

def line? (n : Nat) : Cutting (Option Text) := do
  let p ← get
  return if n < p.number then none else p.rest[n - p.number]?

/-- Ends the present file and tells its size, unless it is not told of. -/
def close_ (w : Wish) (tells : Bool := true) : Cutting Unit := do
  let p ← get
  match p.piece with
  | none => return ()
  | some lines =>
    let text := lines.reverse.flatten
    set { p with piece := none }
    if !(w.elides && text.isEmpty) then
      let name := w.naming p.files
      match ← (ask (.open (asName name) .truncate 0o666 3) : Run (Machine.Outcome Nat)) with
      | .error e => fail (because (beforeColon name) e)
      | .ok d =>
        let _ ← run (Prog.put d (toBytes text))
        Tool.close d
      modify fun p => { p with files := p.files + 1 }
      if tells && !w.quiet then (out (ofNat text.length ++ ['\n']) : Run Unit)

/-- Ends the program when there is no line left to look at. -/
def vanish (w : Wish) : Cutting Unit := do
  close_ w false
  (fail "input disappeared".toList : Run Unit)

/-- Gives up; files are removed unless they are to be kept. -/
def abandonAll (w : Wish) (message : Text) : Cutting Unit := do
  (complain message : Run Unit)
  close_ w
  if !w.keeps then
    for i in List.range (← get).files do
      let _ ← (ask (.unlink (asName (w.naming i))) : Run (Machine.Outcome Unit))
  (quit 1 : Run Unit)

def saveRest : Nat → Cutting Unit
  | 0 => return ()
  | fuel + 1 => do
    match ← take with
    | some l =>
      save l
      saveRest fuel
    | none => return ()

def again (n : Nat) : Text := if n = 0 then [] else " on repetition ".toList ++ ofNat n

/-- Moves lines before a number to the present file. -/
def moveUpto (stop : Nat) (saves : Bool) : Nat → Cutting Bool
  | 0 => return false
  | fuel + 1 => do
    if (← get).number ≥ stop then return true
    else
      match ← take with
      | none => return false
      | some l =>
        if saves then save l
        moveUpto stop saves fuel

def atEnd : Cutting Bool := do
  return (← line? ((← get).seen + 1)).isNone

def cutAtLine (w : Wish) (fuel n repetition : Nat) : Cutting Unit := do
  let fault : Cutting Unit :=
    abandonAll w (quoted (ofNat n) ++ ": line number out of range".toList ++ again repetition)
  open_
  if w.suppresses then
    if ← atEnd then fault
  if (← get).rest.isEmpty then vanish w
  if !(← moveUpto (n * (repetition + 1)) true fuel) then fault
  close_ w
  if w.suppresses then
    let _ ← take
  else
    if ← atEnd then fault

/-- Looks for the next line that matches; the value tells whether there is one. Lines before it
are moved if `moves`. -/
def seek (r : Regex) (moves saves : Bool) : Nat → Cutting Bool
  | 0 => return false
  | fuel + 1 => do
    modify fun p => { p with seen := p.seen + 1 }
    match ← line? (← get).seen with
    | none => return false
    | some l =>
      let bare := if l.getLast? = some '\n' then l.dropLast else l
      if Regex.isMatch {} r bare then return true
      else
        if moves then
          if let some first ← take then
            if saves then save first
        seek r moves saves fuel

/-- Ends the program when no line matches any more. -/
def finishAll (w : Wish) (fuel : Nat) (skips : Bool) : Cutting Unit := do
  if !skips then
    saveRest fuel
    close_ w

def cutAtMatch (w : Wish) (fuel : Nat) (p : Pattern) (r : Regex) (offset : Int) (skips : Bool)
    (repetition : Nat) : Cutting Unit := do
  if !skips then open_
  if !(← seek r (offset ≥ 0) (!skips) fuel) then
    if p.repeats.isNone then
      finishAll w fuel skips
      (quit 0 : Run Unit)
    else
      (complain (quoted p.text ++ ": match not found".toList ++ again repetition) : Run Unit)
      finishAll w fuel skips
      if !w.keeps then
        for i in List.range (← get).files do
          let _ ← (ask (.unlink (asName (w.naming i))) : Run (Machine.Outcome Unit))
      (quit 1 : Run Unit)
  let stop := ((← get).seen : Int) + offset
  let beyond : Cutting Unit :=
    abandonAll w (quoted p.text ++ ": line number out of range".toList)
  if (← get).rest.isEmpty then (fail "input disappeared".toList : Run Unit)
  if ((← get).number : Int) > stop then beyond
  if !(← moveUpto stop.toNat (!skips) fuel) then beyond
  if !skips then close_ w
  if w.suppresses then
    let _ ← take
  if offset > 0 then modify fun q => { q with seen := stop.toNat }

def usePattern (w : Wish) (fuel : Nat) (p : Pattern) (repetition : Nat) : Cutting Unit :=
  match p.target with
  | .line n => cutAtLine w fuel n repetition
  | .matching r offset skips => cutAtMatch w fuel p r offset skips repetition

/-- Uses a pattern as often as it is to be. -/
def usePatterns (w : Wish) (fuel : Nat) (p : Pattern) : Nat → Nat → Cutting Unit
  | 0, _ => return ()
  | left + 1, repetition => do
    usePattern w fuel p repetition
    match p.repeats with
    | some n => if repetition < n then usePatterns w fuel p left (repetition + 1)
    | none => usePatterns w fuel p left (repetition + 1)

/-! ### Patterns -/

def repeatCount (cs : Text) : Run (Option Nat) := do
  if cs.getLast? != some (Char.ofNat 0x7d) then
    fail (quoted cs ++ (": '" ++ "\x7d" ++ "' is required in repeat count").toList)
  let inner := (cs.drop 1).dropLast
  if inner = ['*'] then return none
  else
    match natural? inner with
    | some n => return some n
    | none =>
      fail (quoted cs.dropLast ++ ("\x7d: integer required between '" ++ "\x7b" ++ "' and '" ++ "\x7d" ++
        "'").toList)

def matching (cs : Text) : Run Target := do
  let mark := cs.headD '/'
  let inner := cs.drop 1
  if !inner.contains mark then
    fail (cs ++ ": closing delimiter '".toList ++ [mark] ++ "' missing".toList)
  let after := (inner.reverse.takeWhile (· != mark)).reverse
  let pattern := inner.take (inner.length - after.length - 1)
  match Regex.parse {} pattern with
  | .error e => fail (quoted cs ++ ": invalid regular expression: ".toList ++ e.text.toList)
  | .ok r =>
    if after.isEmpty then return .matching r 0 (mark = '%')
    else
      match Lines.integer? after with
      | some n => return .matching r n (mark = '%')
      | none => fail (quoted cs ++ ": integer expected after delimiter".toList)

def patterns : Nat → Nat → List Text → Run (List Pattern)
  | 0, _, _ => return []
  | _ + 1, _, [] => return []
  | fuel + 1, last, cs :: rest => do
    let (target, last) ← do
      if cs.head? = some '/' || cs.head? = some '%' then pure (← matching cs, last)
      else
        match natural? cs with
        | none => fail (quoted cs ++ ": invalid pattern".toList)
        | some n =>
          if n = 0 then fail (cs ++ ": line number must be greater than zero".toList)
          if n < last then
            fail ("line number ".toList ++ quoted cs ++
              " is smaller than preceding line number, ".toList ++ ofNat last)
          if n = last then
            complain ("warning: line number ".toList ++ quoted cs ++
              " is the same as preceding line number".toList)
          pure (Target.line n, n)
    match rest with
    | r :: others =>
      if r.head? = some (Char.ofNat 0x7b) then
        let repeats ← repeatCount r
        return { text := cs, target, repeats } :: (← patterns fuel last others)
      else return { text := cs, target } :: (← patterns fuel last rest)
    | [] => return [{ text := cs, target }]

end Context

open Splitting Context in
def csplit : Tool := do
  let (os, operands) ← readOptions <| .make "b:f:kn:sqz\x01"
    [("suffix-format", 'b'), ("prefix", 'f'), ("keep-files", 'k'), ("digits", 'n'), ("quiet", 's'),
      ("silent", 's'), ("elide-empty-files", 'z'), ("suppress-matched", '\x01')]
  let digits ← match valueOf? 'n' os with
    | none => pure 2
    | some v =>
      match natural? v with
      | some n => pure n
      | none => fail ("invalid number: ".toList ++ quoted v)
  let front := (valueOf? 'f' os).getD "xx".toList
  let format ← match valueOf? 'b' os with
    | none => pure none
    | some f =>
      let marks := (f.filter (· = '%')).length
      if marks = 0 then fail "missing % conversion specification in suffix".toList
      pure (some f)
  let naming (i : Nat) : Text :=
    match format with
    | none =>
      let ds := ofNat i
      front ++ List.replicate (digits - ds.length) '0' ++ ds
    | some f =>
      let before := f.takeWhile (· != '%')
      let rest := (f.dropWhile (· != '%')).drop 1
      let flags := rest.takeWhile fun c => "-+ #'0".toList.contains c
      let rest := rest.drop flags.length
      let width := rest.takeWhile Char.isDigit
      let rest := rest.drop width.length
      let precision := if rest.head? = some '.' then
          some ((rest.drop 1).takeWhile Char.isDigit) else none
      let rest := match precision with
        | some p => rest.drop (p.length + 1)
        | none => rest
      let c := rest.headD 'd'
      let base := if c = 'o' then 8 else if c = 'x' || c = 'X' then 16 else 10
      let ds := Nat.toDigits base i
      let ds := if c = 'X' then ds.map Char.toUpper else ds
      let ds := match precision with
        | some p => List.replicate ((natural? p).getD 0 - ds.length) '0' ++ ds
        | none => ds
      let ds := if flags.contains '#' && i != 0 then
          (if c = 'x' then "0x".toList else if c = 'X' then "0X".toList
            else if c = 'o' then ['0'] else []) ++ ds
        else ds
      let n := (natural? width).getD 0
      let padded := if flags.contains '-' then padRight n ds
        else if flags.contains '0' && precision.isNone then
          List.replicate (n - ds.length) '0' ++ ds
        else padLeft n ds
      front ++ before ++ padded ++ rest.drop 1
  let wish : Context.Wish :=
    { naming, quiet := has "sq" os, elides := has "z" os, keeps := has "k" os
      suppresses := has "\x01" os }
  match operands with
  | [] => misuse "missing operand".toList
  | [only] => misuse ("missing operand after ".toList ++ quoted only)
  | path :: specs =>
    withInput path
      (fun e => fail ("cannot open ".toList ++ named path ++ " for reading: ".toList ++
        Shell.ofString e.text))
      fun d => do
        let ps ← patterns (specs.length + 1) 0 specs
        match ← slurp d with
        | .error e => fail ("read error: ".toList ++ Shell.ofString e.text)
        | .ok bytes =>
          let lines := wholeLines '\n' (ofBytes bytes)
          let fuel := lines.length + 2
          let (_, _) ← (do
            for p in ps do usePatterns wish fuel p (fuel + 1) 0
            open_
            saveRest fuel
            close_ wish : Cutting Unit).run { rest := lines }
          return 0

end CellRunner.Tool
