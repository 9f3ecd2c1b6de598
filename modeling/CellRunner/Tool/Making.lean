import CellRunner.Tool.Moment
import CellRunner.Tool.Paths

/-!
# Making files and passing bytes on to them
-/

set_option autoImplicit false

namespace CellRunner.Tool

open Machine (Prog Bytes FileInfo)
open Shell (Text toBytes ofBytes ofString asName)

namespace Making

/-- When files are to be marked as changed. -/
def timeOf (os : List Given) : Run (Option Int) := do
  let present ← now
  match valueOf? 'd' os, valueOf? 't' os, valueOf? 'r' os with
  | some v, _, base => do
    let base ← match base with
      | some path => do
        match ← infoOf path with
        | .ok i => pure (Moment.ofCount i.changed)
        | .error e => fail ("failed to get attributes of ".toList ++ because (named path) e)
      | none => pure present
    match Moment.read? base v with
    | some m => return some m.count
    | none => fail ("invalid date format ".toList ++ quoted v)
  | none, some v, _ =>
    match Moment.ofStamp? present v with
    | some m => return some m.count
    | none => fail ("invalid date format ".toList ++ quoted v)
  | none, none, some path => do
    match ← infoOf path with
    | .ok i => return some i.changed
    | .error e => fail ("failed to get attributes of ".toList ++ because (named path) e)
  | none, none, none => return none

end Making

open Making in
def touch : Tool := do
  let (os, operands) ← readOptions <| .make "acd:fhmr:t:\x01:"
    [("no-create", 'c'), ("date", 'd'), ("no-dereference", 'h'), ("reference", 'r'),
      ("time", '\x01')]
  if operands.isEmpty then misuse "missing file operand".toList
  let time ← timeOf os
  forEach operands fun path => do
    if path = ['-'] then return 0
    let mark : Run Nat := do
      match ← ask (.setTime (asName path) time) with
      | .ok () => return 0
      | .error e =>
        if has "c" os then return 0
        else cannot (if e = .accessDenied then "cannot touch" else "setting times of") path e
    if (← infoOf path).isOk then mark
    else if has "c" os then return 0
    else
      match ← ask (.open (asName path) .write 0o666 0) with
      | .ok d =>
        close d
        if time.isSome then mark else return 0
      | .error e =>
        if e == .isDirectory then cannot "setting times of" path .noEntry
        else cannot "cannot touch" path e

def link : Tool := do
  let (_, operands) ← readOptions <| .make ""
  match operands with
  | [a, b] =>
    match ← ask (.addName (asName a) (asName b)) with
    | .ok () => return 0
    | .error e =>
      complain ("cannot create link ".toList ++ named b ++ " to ".toList ++ because (named a) e)
      return 1
  | [] => misuse "missing operand".toList
  | [a] => misuse ("missing operand after ".toList ++ quoted a)
  | _ :: _ :: c :: _ => misuse ("extra operand ".toList ++ quoted c)

def unlink : Tool := do
  let (_, operands) ← readOptions <| .make ""
  match operands with
  | [a] =>
    match ← ask (.unlink (asName a)) with
    | .ok () => return 0
    | .error e => cannot "cannot unlink" a e
  | [] => misuse "missing operand".toList
  | _ :: b :: _ => misuse ("extra operand ".toList ++ quoted b)

def mkfifo : Tool := do
  let (os, operands) ← readOptions <| .make "m:Z" [("mode", 'm')]
  if operands.isEmpty then misuse "missing operand".toList
  forEach operands fun path => do
    match ← ask (.makePipe (asName path) 0o666) with
    | .ok () =>
      if let some mode := valueOf? 'm' os then
        let bits ← modeOperand 0o666 false mode
        let _ ← ask (.setMode (asName path) bits)
      return 0
    | .error e => cannot "cannot create fifo" path e

/-- Makes a pipe with a name; other special files may not be made. -/
def mknod : Tool := do
  let (os, operands) ← readOptions <| .make "m:Z" [("mode", 'm'), ("context", 'Z')]
  let mode ← match valueOf? 'm' os with
    | none => pure none
    | some v =>
      match Mode.parse v with
      | none => fail "invalid mode".toList
      | some steps =>
        let bits := Mode.apply steps false (← maskNow) 0o666
        if bits > 0o777 then fail "mode must specify only file permission bits".toList
        pure (some bits)
  let missing {α : Type} (after : Text) (special : Bool) : Run α := do
    complain ("missing operand after ".toList ++ quoted after)
    if special then tell "Special files require major and minor device numbers.".toList
    advise
    quit 1
  match operands with
  | [] => misuse "missing operand".toList
  | [path] => missing path false
  | path :: kind :: numbers =>
    let isPipe := kind.head? = some 'p'
    if isPipe then
      match numbers with
      | extra :: more =>
        complain ("extra operand ".toList ++ quoted extra)
        if more.length = 1 then
          tell "Fifos do not have major and minor device numbers.".toList
        advise
        quit 1
      | [] =>
        match ← ask (.makePipe (asName path) 0o666) with
        | .error e => fail (because (beforeColon path) e)
        | .ok () =>
          if let some bits := mode then
            let _ ← ask (.setMode (asName path) bits)
          return 0
    else
      match numbers with
      | [] => missing kind true
      | [major] => missing major false
      | [major, minor] =>
        let isDevice := ['b', 'c', 'u'].contains (kind.headD ' ')
        if !isDevice then misuse ("invalid device type ".toList ++ quoted kind)
        for (what, n) in [("major", major), ("minor", minor)] do
          if (natural? n).isNone then
            fail ("invalid ".toList ++ what.toList ++ " device number ".toList ++ quoted n)
        match ← ownInfoOf path with
        | .ok _ => fail (because (beforeColon path) SystemError.exists)
        | .error _ => fail (because (beforeColon path) .notPermitted)
      | _ :: _ :: extra :: _ => misuse ("extra operand ".toList ++ quoted extra)

namespace Making

/-- A size in which a sign tells how it changes the one before. -/
def newSize (old : Nat) (v : Text) : Option Nat :=
  match v with
  | c :: cs =>
    if c = '+' then (sized? cs).map (old + ·)
    else if c = '-' then (sized? cs).map (old - ·)
    else if c = '<' then (sized? cs).map (min old)
    else if c = '>' then (sized? cs).map (max old)
    else if c = '/' then (sized? cs).map fun n => if n = 0 then 0 else old / n * n
    else if c = '%' then (sized? cs).map fun n => if n = 0 then 0 else (old + n - 1) / n * n
    else sized? v
  | [] => none

end Making

open Making in
def truncate : Tool := do
  let (os, operands) ← readOptions <| .make "cor:s:"
    [("no-create", 'c'), ("io-blocks", 'o'), ("reference", 'r'), ("size", 's')]
  let model ← match valueOf? 'r' os with
    | some path => do
      match ← infoOf path with
      | .ok i => pure (some i.size)
      | .error e => fail ("cannot stat ".toList ++ because (named path) e)
    | none => pure none
  if model.isNone && (valueOf? 's' os).isNone then
    misuse ("you must specify either ".toList ++ quoted "--size".toList ++ " or ".toList ++
      quoted "--reference".toList)
  if operands.isEmpty then misuse "missing file operand".toList
  if let some v := valueOf? 's' os then
    if (newSize 0 v).isNone then fail ("Invalid number: ".toList ++ quoted v)
  forEach operands fun path => do
    let how : Machine.Opening := if has "c" os then .present else .write
    match ← ask (.open (asName path) how 0o666 0) with
    | .error e =>
      if has "c" os && e == .noEntry then return 0
      complain ("cannot open ".toList ++ because (named path ++ " for writing".toList) e)
      return 1
    | .ok d =>
      let old := match ← ask (.statOpen d) with
        | .ok i => i.size
        | .error _ => 0
      let size := match valueOf? 's' os with
        | some v => (newSize (model.getD old) v).getD old
        | none => model.getD old
      let r ← ask (.resize d size)
      close d
      match r with
      | .ok () => return 0
      | .error e =>
        complain ("failed to truncate ".toList ++
          because (named path ++ " at ".toList ++ ofNat size ++ " bytes".toList) e)
        return 1

namespace Making

/-- Letters and digits that make a name different from others. -/
def distinct (n seed : Nat) : Text :=
  let signs := "abcdefghijklmnopqrstuvwxyzABCDEFGHIJKLMNOPQRSTUVWXYZ0123456789".toList
  (List.range n).map fun i => signs.getD ((seed * 7919 + 104729) / Nat.pow 62 i % 62) 'a'

/-- Makes a file or a directory with a name that is not taken. -/
def makeDistinct (front back : Text) (n : Nat) (directory dry : Bool) :
    Nat → Nat → Run (Except SystemError Text)
  | 0, _ => return .error .exists
  | fuel + 1, seed => do
    let path := front ++ distinct n seed ++ back
    if dry then return .ok path
    let r ← if directory then ask (.makeDirectory (asName path) 0o700) else do
      match ← ask (.open (asName path) .new 0o600 0) with
      | .ok d =>
        close d
        pure (.ok ())
      | .error e => pure (.error e)
    match r with
    | .ok () => return .ok path
    | .error .exists => makeDistinct front back n directory dry fuel (seed + 1)
    | .error e => return .error e

end Making

open Making in
def mktemp : Tool := do
  let (os, operands) ← readOptions <| .make "dqup:tV\x01:\x02::"
    [("directory", 'd'), ("quiet", 'q'), ("dry-run", 'u'), ("tmpdir", '\x02'), ("suffix", '\x01')]
  if operands.length > 1 then misuse "too many templates".toList
  let template := operands.headD "tmp.XXXXXXXXXX".toList
  let suffix := (valueOf? '\x01' os).getD []
  let back := (template.reverse.takeWhile (· != 'X')).reverse ++ suffix
  let front := (template.reverse.dropWhile (· != 'X'))
  let n := (front.takeWhile (· = 'X')).length
  if n < 3 then fail ("too few X's in template ".toList ++ quoted template)
  let dir ← match valueOf? 'p' os, valueOf? '\x02' os with
    | some d, _ => pure (some d)
    | none, some d => pure (some (if d.isEmpty then "/tmp".toList else d))
    | none, none => do
      let usual ← setting? "TMPDIR"
      pure (if operands.isEmpty || has "t" os then some (usual.getD "/tmp".toList) else none)
  let name := (front.drop n).reverse
  let whole := match dir with
    | some d => within d name
    | none => name
  let self : Nat ← ask .self
  match ← makeDistinct whole back n (has "d" os) (has "u" os) 1000 self with
  | .ok path =>
    out (path ++ ['\n'])
    return 0
  | .error e =>
    let shown := whole ++ List.replicate n 'X' ++ back
    if !has "q" os then
      complain ("failed to create ".toList ++ (if has "d" os then "directory" else "file").toList ++
        because (" via template ".toList ++ quoted shown) e)
    return 1

namespace Making

/-- Copies the standard input to all descriptors. -/
def spread (targets : List (Text × Nat)) : Nat → Run Nat
  | 0 => return 0
  | fuel + 1 => do
    match ← ask (.read 0 8192) with
    | .ok [] => return 0
    | .ok bytes =>
      write bytes
      let code ← targets.foldlM (fun code (path, d) => do
        match ← run (Prog.put d bytes) with
        | .ok () => return code
        | .error e =>
          complainOf path e
          return 1) 0
      return max code (← spread targets fuel)
    | .error e =>
      complain (because "read error".toList e)
      return 1

end Making

open Making in
def tee : Tool := do
  let (os, operands) ← readOptions <| .make "aip\x01:"
    [("append", 'a'), ("ignore-interrupts", 'i'), ("output-error", '\x01')]
  let how : Machine.Opening := if has "a" os then .append else .truncate
  let step (s : List (Text × Nat) × Nat) (path : Text) : Run (List (Text × Nat) × Nat) := do
    match ← ask (.open (asName path) how 0o666 0) with
    | .ok d => return ((path, d) :: s.1, s.2)
    | .error e =>
      complainOf path e
      return (s.1, 1)
  let (targets, code) ← operands.foldlM step ([], 0)
  return max code (← spread targets.reverse Prog.fuel)

namespace Making

/-! ### Copying by blocks -/

structure Blocks where
  inSize : Nat := 512
  outSize : Nat := 512
  count : Option Nat := none
  skip : Nat := 0
  seek : Nat := 0
  keeps : Bool := false
  appends : Bool := false
  new : Bool := false
  present : Bool := false
  counts : Bool := true
  whole : Bool := false
  upper : Bool := false
  lower : Bool := false
  padded : Bool := false
  swaps : Bool := false

def Blocks.convert (b : Blocks) (bytes : Bytes) : Bytes :=
  let bytes := if b.padded then bytes ++ List.replicate (b.inSize - bytes.length) 0 else bytes
  let cs := ofBytes bytes
  toBytes (if b.upper then cs.map Char.toUpper else if b.lower then cs.map Char.toLower else cs)

/-- Reads blocks and writes them; the value is the number of whole and of partial blocks read and
the number of bytes written. -/
def Blocks.copy (b : Blocks) (source target : Nat) : Nat → Nat → Nat × Nat × Nat →
    Run (Nat × Nat × Nat)
  | 0, _, n => return n
  | fuel + 1, left, (whole, partly, total) => do
    if left = 0 then return (whole, partly, total)
    match ← ask (.read source b.inSize) with
    | .ok [] => return (whole, partly, total)
    | .error _ => return (whole, partly, total)
    | .ok bytes =>
      let isWhole := bytes.length = b.inSize
      let made := b.convert bytes
      let n := (if isWhole then whole + 1 else whole, if isWhole then partly else partly + 1,
        total + made.length)
      match ← run (Prog.put target made) with
      | .ok () => b.copy source target fuel (left - 1) n
      | .error e =>
        complain (because "error writing 'standard output'".toList e)
        return n

/-- Reads blocks and drops them. -/
def skipBlocks (source size : Nat) : Nat → Run Unit
  | 0 => return ()
  | n + 1 => do
    let _ ← ask (.read source size)
    skipBlocks source size n

def conversions (b : Blocks) (v : Text) : Blocks :=
  let words := (String.ofList v).splitOn ","
  { b with
    upper := words.contains "ucase", lower := words.contains "lcase"
    keeps := b.keeps || words.contains "notrunc", padded := words.contains "sync"
    new := words.contains "excl", present := words.contains "nocreat" }

def blockOperand (b : Blocks) (name : String) (v : Text) : Run Blocks := do
  let number : Run Nat := do
    match sized? v with
    | some n => return n
    | none => fail ("invalid number: ".toList ++ quoted v)
  match name with
  | "bs" => do
    let n ← number
    if n = 0 then fail ("invalid number: ".toList ++ quoted v)
    return { b with inSize := n, outSize := n }
  | "ibs" => return { b with inSize := ← number }
  | "obs" => return { b with outSize := ← number }
  | "count" => return { b with count := some (← number) }
  | "skip" => return { b with skip := ← number }
  | "iseek" => return { b with skip := ← number }
  | "seek" => return { b with seek := ← number }
  | "oseek" => return { b with seek := ← number }
  | "status" => return { b with counts := v != "none".toList }
  | "conv" => return conversions b v
  | "iflag" => return b
  | "oflag" => return { b with appends := v = "append".toList }
  | _ => return b

end Making

open Making in
def dd : Tool := do
  let (_, operands) ← readOptions <| .make ""
  let known := ["if", "of", "bs", "ibs", "obs", "count", "skip", "iseek", "seek", "oseek", "status",
    "conv", "iflag", "oflag", "cbs"]
  let split (a : Text) : String × Text :=
    (asName (a.takeWhile (· != '=')), (a.dropWhile (· != '=')).drop 1)
  for a in operands do
    if !a.contains '=' || !known.contains (split a).1 then
      misuse ("unrecognized operand ".toList ++ quoted a)
  let b ← operands.foldlM (fun b a => blockOperand b (split a).1 (split a).2) ({} : Blocks)
  let file (name : String) : Option Text :=
    ((operands.filter fun a => (split a).1 = name).getLast?).map fun a => (split a).2
  let source ← match file "if" with
    | none => pure 0
    | some path => do
      match ← ask (.open (asName path) .read 0 0) with
      | .ok d => pure d
      | .error e => fail ("failed to open ".toList ++ because (named path) e)
  let target ← match file "of" with
    | none => pure 1
    | some path => do
      let how : Machine.Opening := if b.appends then .append else if b.new then .new
        else if b.present then .present else if b.keeps || b.seek > 0 then .both else .truncate
      match ← ask (.open (asName path) how 0o666 0) with
      | .ok d => do
        if b.seek > 0 then
          let old := match ← ask (.statOpen d) with
            | .ok i => i.size
            | .error _ => 0
          let start := b.seek * b.outSize
          if !b.keeps || old < start then
            let _ ← ask (.resize d start)
        pure d
      | .error e => fail ("failed to open ".toList ++ because (named path) e)
  if target != 1 then skipBlocks target b.outSize b.seek
  skipBlocks source b.inSize b.skip
  let (whole, partly, total) ← b.copy source target Prog.fuel (b.count.getD Prog.fuel) (0, 0, 0)
  if b.counts then
    let outWhole := total / b.outSize
    let outPartly := if total % b.outSize > 0 then 1 else 0
    tell (ofNat whole ++ '+' :: ofNat partly ++ " records in".toList)
    tell (ofNat outWhole ++ '+' :: ofNat outPartly ++ " records out".toList)
    tell (ofNat total ++ (if total = 1 then " byte" else " bytes").toList ++
      " copied, 0.0001 s, 1.0 MB/s".toList)
  return 0

end CellRunner.Tool
