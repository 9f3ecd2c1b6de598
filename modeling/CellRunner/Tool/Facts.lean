import CellRunner.Tool.Listing

/-!
# Facts about files and about the machine
-/

set_option autoImplicit false

namespace CellRunner.Tool

open Machine (Prog FileInfo)
open Shell (Text ofString asName)

namespace Facts

def kindName (i : FileInfo) : String :=
  match i.kind with
  | .file => if i.size = 0 then "regular empty file" else "regular file"
  | .directory => "directory"
  | .link => "symbolic link"
  | .pipe => "fifo"
  | .device => "character special file"

/-- The bits that tell the kind of a file. -/
def kindBits (i : FileInfo) : Nat :=
  match i.kind with
  | .file => 0o100000
  | .directory => 0o040000
  | .link => 0o120000
  | .pipe => 0o010000
  | .device => 0o020000

def hexadecimal (n : Nat) : Text := Nat.toDigits 16 n

def timeText (n : Int) : Text :=
  let m := Moment.ofCount n
  m.text "%Y-%m-%d %H:%M:%S".toList ++ '.' :: Moment.zeros 9 (m.fraction * 1000) ++ " +0000".toList

/-- What a letter after a percent sign stands for. -/
def field (path : Text) (i : FileInfo) (link : Option Text) (c : Char) : Option Text :=
  match c with
  | 'a' => some (Mode.octal 1 i.mode)
  | 'A' => some (Mode.kindLetter i.kind :: Mode.letters i.mode)
  | 'b' => some (ofNat (2 * Listing.blocksOf i))
  | 'B' => some "512".toList
  | 'd' => some "2049".toList
  | 'D' => some "801".toList
  | 'f' => some (hexadecimal (kindBits i + i.mode))
  | 'F' => some (kindName i).toList
  | 'g' => some (ofNat (ownerNumber i))
  | 'G' => some (ownerName i)
  | 'h' => some (ofNat i.names)
  | 'i' => some (ofNat i.number)
  | 'm' => some ['/']
  | 'n' => some path
  | 'N' => some (match link with
    | some t => named path ++ " -> ".toList ++ named t
    | none => named path)
  | 'o' => some "4096".toList
  | 's' => some (ofNat i.size)
  | 't' => some (if i.kind == .device then ['1'] else ['0'])
  | 'T' => some (if i.kind == .device then ['3'] else ['0'])
  | 'u' => some (ofNat (ownerNumber i))
  | 'U' => some (ownerName i)
  | 'x' => some (timeText i.changed)
  | 'y' => some (timeText i.changed)
  | 'z' => some (timeText i.changed)
  | 'w' => some ['-']
  | 'X' => some (ofInt (i.changed.fdiv 1000000))
  | 'Y' => some (ofInt (i.changed.fdiv 1000000))
  | 'Z' => some (ofInt (i.changed.fdiv 1000000))
  | 'W' => some ['0']
  | _ => none

/-- Fills a format; escapes are carried out if `escapes`. -/
def fill (escapes : Bool) (f : Char → Option Text) : Nat → Text → Text
  | 0, _ => []
  | _ + 1, [] => []
  | fuel + 1, c :: cs =>
    if c = '\\' && escapes then
      let (made, rest) := Shell.Format.richEscape cs
      made ++ fill escapes f fuel rest
    else if c = '%' then
      let flags := cs.takeWhile "-+ #0".toList.contains
      let digits := (cs.drop flags.length).takeWhile Char.isDigit
      let rest := cs.drop (flags.length + digits.length)
      let (places, rest) := match rest with
        | '.' :: more =>
          let ds := more.takeWhile Char.isDigit
          (some (Shell.Format.decimal ds), more.drop ds.length)
        | _ => (none, rest)
      match rest with
      | '%' :: rest => '%' :: fill escapes f fuel rest
      | letter :: rest =>
        let text := (f letter).getD ['?']
        let text := match places with
          | some n => if text.all Char.isDigit then
              List.replicate (n - text.length) '0' ++ text else text.take n
          | none => text
        let width := Shell.Format.decimal digits
        let text := if flags.contains '-' then padRight width text
          else if flags.contains '0' then List.replicate (width - text.length) '0' ++ text
          else padLeft width text
        text ++ fill escapes f fuel rest
      | [] => ['%']
    else c :: fill escapes f fuel cs

/-- The whole of what is known of a file. -/
def report (path : Text) (i : FileInfo) (link : Option Text) : Text :=
  let f (c : Char) : Text := (field path i link c).getD []
  let owner := padLeft 5 (f 'u') ++ '/' :: padLeft 8 (f 'U')
  let name := match link with
    | some t => path ++ " -> ".toList ++ t
    | none => path
  "  File: ".toList ++ name ++ "\n  Size: ".toList ++ padRight 10 (f 's') ++ "\tBlocks: ".toList ++
    padRight 10 (f 'b') ++ " IO Block: ".toList ++ padRight 6 (f 'o') ++ ' ' :: f 'F' ++
    "\nDevice: 8,1\tInode: ".toList ++ padRight 10 (f 'i') ++ "  Links: ".toList ++ f 'h' ++
    "\nAccess: (".toList ++ Mode.octal 4 i.mode ++ '/' :: f 'A' ++
    ")  Uid: (".toList ++ owner ++ ")   Gid: (".toList ++ owner ++ ")\nAccess: ".toList ++ f 'x' ++
    "\nModify: ".toList ++ f 'y' ++ "\nChange: ".toList ++ f 'z' ++ "\n Birth: -\n".toList

end Facts

open Facts in
def stat : Tool := do
  let (os, operands) ← readOptions <| .make "c:fLt\x01:"
    [("format", 'c'), ("dereference", 'L'), ("file-system", 'f'), ("terse", 't'), ("printf", '\x01')]
  if operands.isEmpty then misuse "missing operand".toList
  let format := (os.filter fun g => g.1 = 'c' || g.1 = '\x01').getLast?
  forEach operands fun path => do
    let found ← if path = ['-'] then ask (.statOpen 0)
      else if has "L" os then infoOf path else ownInfoOf path
    match found with
    | .error e => cannot "cannot statx" path e
    | .ok i =>
      let link ← if i.kind == .link then
          pure ((← ask (.readLink (asName path))).toOption.map ofString)
        else pure none
      out <| match format with
        | some ('c', v) => fill false (field path i link) (v.length + 1) v ++ ['\n']
        | some (_, v) => fill true (field path i link) (v.length + 1) v
        | none => report path i link
      return 0

namespace Facts

/-! ### Sizes of trees -/

structure Measuring where
  apparent : Bool
  all : Bool
  totals : Bool
  summary : Bool
  human : Bool
  unit : Nat
  deepest : Option Nat

def Measuring.sizeOf (m : Measuring) (i : FileInfo) : Nat :=
  if m.apparent then i.size else Listing.blocksOf i * 1024

def Measuring.text (m : Measuring) (n : Nat) : Text :=
  if m.human then Listing.human n else ofNat ((n + m.unit - 1) / m.unit)

def Measuring.line (m : Measuring) (n : Nat) (path : Text) : Run Unit :=
  out (m.text n ++ '\t' :: path ++ ['\n'])

/-- The size of a tree, whose parts are shown on the way; `fuel` bounds the depth. -/
def measure (m : Measuring) : Nat → Nat → Text → Run (Nat × Nat)
  | 0, _, _ => return (0, 1)
  | fuel + 1, depth, path => do
    match ← ownInfoOf path with
    | .error e =>
      let _ ← cannot "cannot access" path e
      return (0, 1)
    | .ok i =>
      let shown := !m.deepest.any (depth > ·) && (depth = 0 || !m.summary)
      if i.isDirectory then
        let step (s : Nat × Nat) (n : Text) : Run (Nat × Nat) := do
          let (size, code) ← measure m fuel (depth + 1) (within path n)
          return (s.1 + size, max s.2 code)
        let (names, start) ← match ← ask (.list (asName path)) with
          | .ok names => pure (names, 0)
          | .error e => do pure ([], ← cannot "cannot read directory" path e)
        let (inner, code) ← (names.map ofString).foldlM step (0, start)
        let total := m.sizeOf i + inner
        if shown then m.line total path
        return (total, code)
      else
        if shown && (depth = 0 || m.all) then m.line (m.sizeOf i) path
        return (m.sizeOf i, 0)

end Facts

open Facts in
def du : Tool := do
  let (os, operands) ← readOptions <| .make "abchkmsd:lLPDSx0B:\x01"
    [("all", 'a'), ("bytes", 'b'), ("total", 'c'), ("human-readable", 'h'), ("summarize", 's'),
      ("max-depth", 'd'), ("apparent-size", '\x01'), ("block-size", 'B')]
  let unit := match lastOf? "bkmB" os with
    | some 'b' => 1
    | some 'm' => 1024 * 1024
    | some 'B' => ((valueOf? 'B' os).bind sized?).getD 1024
    | _ => 1024
  let m : Measuring :=
    { apparent := has "b\x01" os, all := has "a" os, totals := has "c" os, summary := has "s" os
      human := has "h" os, unit, deepest := (valueOf? 'd' os).bind natural? }
  let step (s : Nat × Nat) (path : Text) : Run (Nat × Nat) := do
    let (size, code) ← measure m greatestDepth 0 path
    return (s.1 + size, max s.2 code)
  let (total, code) ← (if operands.isEmpty then [['.']] else operands).foldlM step (0, 0)
  if m.totals then m.line total "total".toList
  return code

namespace Facts

/-! ### The machine -/

/-- What is known of the system, by letter. -/
def systemFact (c : Char) : String :=
  match c with
  | 's' => "Linux"
  | 'n' => "localhost"
  | 'r' => "6.1.0"
  | 'v' => "#1 SMP"
  | 'm' => "x86_64"
  | 'p' => "x86_64"
  | 'i' => "x86_64"
  | _ => "GNU/Linux"

end Facts

open Facts in
def uname : Tool := do
  let (os, operands) ← readOptions <| .make "asnrvmpio"
    [("all", 'a'), ("kernel-name", 's'), ("nodename", 'n'), ("kernel-release", 'r'),
      ("kernel-version", 'v'), ("machine", 'm'), ("processor", 'p'), ("hardware-platform", 'i'),
      ("operating-system", 'o')]
  atMost 0 operands
  let wanted := if has "a" os then "snrvmpio".toList
    else if os.isEmpty then ['s']
    else "snrvmpio".toList.filter fun c => os.any (·.1 == c)
  out (List.intercalate [' '] (wanted.map fun c => (systemFact c).toList) ++ ['\n'])
  return 0

/-- A program that writes one line and takes no operands. -/
def telling (text : String) : Tool := do
  let (_, operands) ← readOptions <| .make ""
  atMost 0 operands
  out (text.toList ++ ['\n'])
  return 0

def arch : Tool := telling (Facts.systemFact 'm')

def hostname : Tool := telling (Facts.systemFact 'n')

/-- Tells who has logged in; nobody has. -/
def visitors : Tool := do
  let (_, operands) ← readOptions <| .make "abdlmpqrstuwHT"
  atMost 2 operands
  return 0

def whoami : Tool := telling (String.ofList userName)

def nproc : Tool := do
  let (_, operands) ← readOptions <| .make "\x01\x02:" [("all", '\x01'), ("ignore", '\x02')]
  atMost 0 operands
  out ['4', '\n']
  return 0

def tty : Tool := do
  let (os, _) ← readOptions <| .make "s" [("silent", 's'), ("quiet", 's')]
  if !has "s" os then out "not a tty\n".toList
  return 1

namespace Facts

/-- A number with the name that belongs to it. -/
def account (label : String) (number : Nat) (name : Text) : Text :=
  label.toList ++ '=' :: ofNat number ++ '(' :: name ++ [')']

end Facts

def identity : Tool := do
  let (os, operands) ← readOptions <| .make "agGnruzZ"
    [("group", 'g'), ("groups", 'G'), ("name", 'n'), ("real", 'r'), ("user", 'u'), ("zero", 'z')]
  let kinds := ["g", "G", "u"].filter fun k => has k os
  if kinds.length > 1 then fail "cannot print \"only\" of more than one choice".toList
  if has "Z" os then fail "--context (-Z) works only on an SELinux-enabled kernel".toList
  if kinds.isEmpty && has "nr" os then
    fail "printing only names or real IDs requires -u, -g, or -G".toList
  if kinds.isEmpty && has "z" os then
    fail "option --zero not permitted in default format".toList
  let mark := if has "z" os then '\x00' else '\n'
  let show_ (number : Nat) (name : Text) : Run Unit :=
    if has "gGu" os then out ((if has "n" os then name else ofNat number) ++ [mark])
    else out (Facts.account "uid" number name ++ ' ' :: Facts.account "gid" number name ++ ' ' ::
      Facts.account "groups" number name ++ ['\n'])
  if operands.isEmpty then show_ userNumber userName
  forEach operands fun u => do
    match accountNumber? u with
    | some n =>
      show_ n (if n = userNumber then userName else if n = 0 then "root".toList else u)
      return 0
    | none =>
      complain (quoted u ++ ": no such user".toList)
      return 1

def groups : Tool := do
  let (_, operands) ← readOptions <| .make ""
  if operands.isEmpty then out (userName ++ ['\n'])
  forEach operands fun u => do
    match accountNumber? u with
    | some _ =>
      out (u ++ " : ".toList ++ u ++ ['\n'])
      return 0
    | none =>
      complain (quoted u ++ ": no such user".toList)
      return 1

/-- The name that the user logged in by; nobody did. -/
def logname : Tool := do
  let (_, operands) ← readOptions <| .make ""
  atMost 0 operands
  fail "no login name".toList

def pwd : Tool := do
  let (os, _) ← readOptions <| .make "LP" [("logical", 'L'), ("physical", 'P')]
  let logical ← setting? "PWD"
  match has "L" os && lastOf? "LP" os = some 'L', logical with
  | true, some p =>
    match ← infoOf p, ← infoOf ['.'] with
    | .ok a, .ok b =>
      if p.head? = some '/' && a.number = b.number then
        out (p ++ ['\n'])
        return 0
    | _, _ => pure ()
  | _, _ => pure ()
  match ← ask (.fullPath ".") with
  | .ok path =>
    out (ofString path ++ ['\n'])
    return 0
  | .error _ => fail "couldn't find directory entry in '..' with matching i-node".toList

namespace Facts

/-- The formats that a precision stands for. -/
def isoFormat? (cs : Text) : Option Text :=
  match String.ofList cs with
  | "" => some "%Y-%m-%d".toList
  | "date" => some "%Y-%m-%d".toList
  | "hours" => some "%Y-%m-%dT%H+00:00".toList
  | "minutes" => some "%Y-%m-%dT%H:%M+00:00".toList
  | "seconds" => some "%Y-%m-%dT%H:%M:%S+00:00".toList
  | "ns" => some "%Y-%m-%dT%H:%M:%S,%N+00:00".toList
  | _ => none

end Facts

open Facts in
def date : Tool := do
  let (os, operands) ← readOptions <| .make "d:f:I::r:Rs:u\x01:"
    [("date", 'd'), ("file", 'f'), ("iso-8601", 'I'), ("reference", 'r'), ("rfc-email", 'R'),
      ("set", 's'), ("utc", 'u'), ("universal", 'u'), ("rfc-3339", '\x01')]
  let present ← now
  let moment ← match valueOf? 'd' os, valueOf? 'r' os with
    | some v, _ =>
      match Moment.read? present v with
      | some m => pure m
      | none => fail ("invalid date ".toList ++ quoted v)
    | none, some path => do
      match ← infoOf path with
      | .ok i => pure (Moment.ofCount i.changed)
      | .error e => fail (because (beforeColon path) e)
    | none, none => pure present
  let format ← match operands with
    | [] => pure (match valueOf? 'I' os, valueOf? '\x01' os with
      | some v, _ => (isoFormat? v).getD "%Y-%m-%d".toList
      | none, some v => if v = "date".toList then "%Y-%m-%d".toList
          else "%Y-%m-%d %H:%M:%S+00:00".toList
      | none, none => if has "R" os then "%a, %d %b %Y %H:%M:%S %z".toList
          else "%a %b %e %H:%M:%S %Z %Y".toList)
    | ('+' :: f) :: rest => do
      if let some extra := rest.head? then misuse ("extra operand ".toList ++ quoted extra)
      pure f
    | a :: _ => fail ("invalid date ".toList ++ quoted a)
  out (moment.text format ++ ['\n'])
  return 0

end CellRunner.Tool
