import CellRunner.Tool.Launch
import CellRunner.Tool.Moment
import CellRunner.Tool.Records.Parse
import CellRunner.Tool.Records.Value

/-!
# Running programs for records

The main input is cut into records, and each record into fields. What a program prints, and
what it reads besides, goes through streams, which stay open under their names.
-/

set_option autoImplicit false

namespace CellRunner.Tool

open Machine (Prog Bytes Status)
open Shell (Text toBytes ofBytes ofString asName)

namespace Records

/-- A file or a command that is written or read. -/
structure Stream where
  name : Text
  isCommand : Bool
  descriptor : Nat
  process : Option Nat := none
  /-- what is not written yet, the last part first, and its length -/
  held : List Bytes := []
  size : Nat := 0
  feed : Feed := { descriptor := 0 }

/-- What a name in a function stands for. -/
inductive Binding where
  | value (v : Value)
  | array (id : Nat)

structure State where
  functions : Std.HashMap String Function
  globals : Std.HashMap String Value := {}
  /-- the tables that names outside of functions stand for -/
  arrays : Std.HashMap String Nat := {}
  tables : Std.HashMap Nat (Table Value) := {}
  fresh : Nat := 0
  frame : List (String × Binding) := []
  record : Text := []
  /-- the fields of the record, if they were asked for -/
  fields : Option (Array Value) := none
  /-- whether the record has to be put together from its fields -/
  isStale : Bool := false
  outputs : List Stream := []
  inputs : List Stream := []
  main : Option Feed := none
  /-- the number of the next argument that may name a file -/
  argument : Nat := 1
  /-- whether an argument named a file -/
  hadFile : Bool := false
  isOver : Bool := false
  patterns : Std.HashMap String Regex := {}
  /-- ranges of records that have begun, by the number of the rule -/
  begun : List Nat := []
  seed : Float := 0
  noise : Nat := 1
  /-- counts steps of loops -/
  steps : Nat := 0

/-- How statements end before their time. -/
inductive Halt where
  | next
  | nextFile
  | leaveLoop
  | nextRound
  | exit (code : Option Nat)
  | result (v : Value)

abbrev Action := ExceptT Halt (StateT State Run)

/-! ### Variables -/

def global (name : String) : Action Value := return (← get).globals.getD name .unset

def setGlobal (name : String) (v : Value) : Action Unit :=
  modify fun s => { s with globals := s.globals.insert name v }

def numberFormat : Action Text := do
  match ← global "CONVFMT" with
  | .text cs => return cs
  | v => return v.toText "%.6g".toList

def textOf (v : Value) : Action Text := do
  match v with
  | .number _ => return v.toText (← numberFormat)
  | v => return v.toText []

def globalText (name : String) : Action Text := do textOf (← global name)

/-! ### Messages -/

def liftRun {α : Type} (x : Run α) : Action α := ExceptT.lift (StateT.lift x)

/-- Writes what a stream holds back. -/
def flushStream (k : Stream) : Run Stream := do
  if k.size = 0 then return k
  match ← run (Prog.put k.descriptor (toBytes [] ++ k.held.reverse.flatten)) with
  | .ok () => return { k with held := [], size := 0 }
  | .error _ => return { k with held := [], size := 0 }

def flushAll : Action Unit := do
  liftRun flush
  let outputs ← (← get).outputs.mapM fun k => liftRun (flushStream k)
  modify fun s => { s with outputs }

/-- The exit code of a process as programs see it. -/
def codeOf : Option Status → Int
  | some (.exited code) => code
  | some (.signaled n) => 256 + n
  | none => -1

/-- Ends a stream; the value is the exit code of its command. -/
def closeStream (k : Stream) : Run Int := do
  let k ← flushStream k
  if k.descriptor > 2 then close k.descriptor
  match k.process with
  | some p => return codeOf (← Launch.wait p)
  | none => return 0

/-- Ends all streams and the program. -/
def leave {α : Type} (code : Nat) : Action α := do
  let s ← get
  -- commands come to their end before the standard output is written
  for k in s.outputs do
    if k.isCommand then
      let _ ← liftRun (closeStream k)
  for k in s.outputs do
    if !k.isCommand then
      let _ ← liftRun (closeStream k)
  for k in s.inputs do
    if k.descriptor > 2 then liftRun (close k.descriptor)
  liftRun (quit code)

def give {α : Type} (message : Text) : Action α := do
  liftRun (complain message)
  leave 2

/-- Ends the program with a message that tells the present record. -/
def runTimeError {α : Type} (message : Text) : Action α := do
  let show_ (name : String) : Action Text := do
    return name.toList ++ '=' :: (← globalText name)
  let place := "\tFILENAME=\"".toList ++ (← globalText "FILENAME") ++ "\" ".toList ++
    (← show_ "FNR") ++ ' ' :: (← show_ "NR")
  give ("run time error: ".toList ++ message ++ '\n' :: place)

def compiled (source : Text) : Action Regex := do
  let name := String.ofList source
  match (← get).patterns[name]? with
  | some r => return r
  | none =>
    match compile source with
    | .ok r =>
      modify fun s => { s with patterns := s.patterns.insert name r }
      return r
    | .error m => runTimeError m

/-! ### Records and fields -/

def separatorOf (cs : Text) : Action Separator := do
  match cs with
  | [' '] => return .blanks
  | [] => return .each
  | [c] => return .char c
  | cs => return .pattern (← compiled cs)

/-- The fields of the record. -/
def fields : Action (Array Value) := do
  let s ← get
  match s.fields with
  | some fs => return fs
  | none =>
    let separator ← separatorOf (← globalText "FS")
    let fs := ((parts separator s.record).map Value.input).toArray
    modify fun s => { s with fields := some fs }
    return fs

/-- The record, put together again if a field was changed. -/
def record : Action Text := do
  let s ← get
  if !s.isStale then return s.record
  match s.fields with
  | none => return s.record
  | some fs =>
    let format ← numberFormat
    let separator ← globalText "OFS"
    let text := List.intercalate separator (fs.toList.map (·.toText format))
    modify fun s => { s with record := text, isStale := false }
    return text

def setRecord (cs : Text) : Action Unit :=
  modify fun s => { s with record := cs, fields := none, isStale := false }

def badField {α : Type} (i : Int) : Action α :=
  runTimeError ("negative field index $".toList ++ Order.spell i)

def field (i : Int) : Action Value := do
  if i < 0 then badField i
  else if i = 0 then return .input (← record)
  else return (← fields).getD (i.toNat - 1) .unset

def resized (fs : Array Value) (n : Nat) : Array Value :=
  if fs.size ≥ n then fs.extract 0 n
  else fs ++ Array.replicate (n - fs.size) (.text [])

def setField (i : Int) (v : Value) : Action Unit := do
  if i < 0 then badField i
  else if i = 0 then setRecord (← textOf v)
  else
    let fs ← fields
    let n := i.toNat
    let fs := if fs.size < n then resized fs n else fs
    modify fun s => { s with fields := some (fs.setIfInBounds (n - 1) v), isStale := true }

def setCount (n : Int) : Action Unit := do
  if n < 0 then badField n
  let fs ← fields
  modify fun s => { s with fields := some (resized fs n.toNat), isStale := true }

/-! ### Names and tables -/

def readName (name : String) : Action Value := do
  match (← get).frame.lookup name with
  | some (.value v) => return v
  | some (.array _) => return .unset
  | none => if name = "NF" then return .number (Float.ofNat (← fields).size) else global name

def writeName (name : String) (v : Value) : Action Unit := do
  let s ← get
  if s.frame.any (·.1 == name) then
    let put (b : String × Binding) : String × Binding :=
      if b.1 == name then (name, .value v) else b
    set { s with frame := s.frame.map put }
  else if name = "NF" then setCount (place v.toNumber)
  else setGlobal name v

/-- The number of the table that a name stands for. -/
def tableOf (name : String) : Action Nat := do
  let s ← get
  match s.frame.lookup name with
  | some (.array id) => return id
  | _ =>
    match s.arrays[name]? with
    | some id => return id
    | none =>
      set { s with
        fresh := s.fresh + 1
        arrays := s.arrays.insert name s.fresh
        tables := s.tables.insert s.fresh {} }
      return s.fresh

def table (id : Nat) : Action (Table Value) := return (← get).tables.getD id {}

def setTable (id : Nat) (t : Table Value) : Action Unit :=
  modify fun s => { s with tables := s.tables.insert id t }

/-- Changes a table and tells something of it. -/
def onTable {α : Type} (id : Nat) (f : Table Value → α × Table Value) : Action α := do
  let s ← get
  let t := s.tables.getD id {}
  -- the table is taken out so that it can be changed in place
  set { s with tables := s.tables.insert id {} }
  let (a, t) := f t
  modify fun s => { s with tables := s.tables.insert id t }
  return a

def keyOf (vs : List Value) : Action Key := do
  let format ← numberFormat
  match vs with
  | [v] => return v.key format
  | vs =>
    let separator ← globalText "SUBSEP"
    return .text (List.intercalate separator (vs.map (·.toText format)))

/-! ### Input -/

def chunk : Nat := 4096

/-- Reads all that is left. -/
def loadAll : Nat → Feed → Run Feed
  | 0, f => return f
  | fuel + 1, f => do
    if f.isOver then return f
    match ← ask (.read f.descriptor 65536) with
    | .error e => return { f with isOver := true, trouble := some e }
    | .ok [] => return { f with isOver := true }
    | .ok bytes => loadAll fuel { f with rest := f.rest ++ ofBytes bytes }

/-- Lines up to an empty one, backwards. -/
def paragraph : Nat → List Text → Feed → Run (List Text × Feed)
  | 0, ls, f => return (ls, f)
  | fuel + 1, ls, f => do
    match ← f.next '\n' with
    | (none, f) => return (ls, f)
    | (some ([], _), f) => if ls.isEmpty then paragraph fuel ls f else return (ls, f)
    | (some (l, _), f) => paragraph fuel (l :: ls) f

/-- The next record from a feed. -/
def recordFrom (f : Feed) : Action (Option Text × Feed) := do
  match ← globalText "RS" with
  | [c] =>
    let (line, f) ← liftRun (f.next c)
    return (line.map (·.1), f)
  | [] =>
    let (ls, f) ← liftRun (paragraph Prog.fuel [] f)
    if ls.isEmpty then return (none, f)
    return (some (List.intercalate ['\n'] ls.reverse), f)
  | source =>
    let r ← compiled source
    let f ← liftRun (loadAll Prog.fuel f)
    if f.rest.isEmpty then return (none, f)
    match Regex.find? {} r f.rest 0 with
    | some m =>
      if m.start = m.stop then return (some f.rest, { f with rest := [] })
      else return (some (f.rest.take m.start), { f with rest := f.rest.drop m.stop })
    | none => return (some f.rest, { f with rest := [] })

def checkFeed (f : Feed) : Action Unit := do
  match f.trouble with
  | some e => give ("read error (".toList ++ ofString e.text ++ [')'])
  | none => return ()

/-- Text with the escapes of strings carried out. -/
def unescaped (cs : Text) : Text :=
  -- a quote must not end the text
  let cs := cs.flatMap fun c => if c = '"' then ['\\', '"'] else if c = '\n' then "\\n".toList
    else [c]
  ((stringIn (cs.length + 2) [] (cs ++ ['"'])).map (·.1)).getD cs

/-- The name and the value of an assignment. -/
def assignmentIn (cs : Text) : Option (String × Text) :=
  let (name, rest) := cs.span isNamePart
  match rest with
  | '=' :: v => if name.head?.any isNameStart then some (String.ofList name, v) else none
  | _ => none

def assignText (name : String) (cs : Text) : Action Unit := writeName name (.input (unescaped cs))

/-- Opens the file that the next argument names; false if there is none. `fuel` bounds the
number of arguments. -/
def openNext : Nat → Action Bool
  | 0 => return false
  | fuel + 1 => do
    let s ← get
    let count := place (← global "ARGC").toNumber
    if (s.argument : Int) ≥ count then
      if s.hadFile then return false
      set { s with hadFile := true, main := some { descriptor := 0, chunk } }
      return true
    set { s with argument := s.argument + 1 }
    let id ← tableOf "ARGV"
    let key : Key := .number s.argument
    let (there, _) := (← table id).has key
    if !there then openNext fuel
    else
      let path ← textOf ((← table id).get key .unset).1
      if path.isEmpty then openNext fuel
      else
        match assignmentIn path with
        | some (name, v) =>
          assignText name v
          openNext fuel
        | none =>
          setGlobal "FILENAME" (.text path)
          setGlobal "FNR" (.number 0)
          if path = ['-'] then
            modify fun s => { s with hadFile := true, main := some { descriptor := 0, chunk } }
            return true
          match ← liftRun (ask (.open (asName path) .read 0 3)) with
          | .ok d =>
            modify fun s => { s with hadFile := true, main := some { descriptor := d, chunk } }
            return true
          | .error e =>
            give ("cannot open \"".toList ++ path ++ "\" (".toList ++ ofString e.text ++ [')'])

def closeMain : Action Unit := do
  match (← get).main with
  | some f =>
    if f.descriptor > 2 then liftRun (close f.descriptor)
    modify fun s => { s with main := none }
  | none => return ()

/-- The next record of the main input; `fuel` bounds the number of files. -/
def nextRecord : Nat → Action (Option Text)
  | 0 => return none
  | fuel + 1 => do
    let s ← get
    if s.isOver then return none
    match s.main with
    | none =>
      if ← openNext 100000 then nextRecord fuel
      else
        modify fun s => { s with isOver := true }
        return none
    | some f =>
      let (line, f) ← recordFrom f
      modify fun s => { s with main := some f }
      match line with
      | some cs =>
        setGlobal "NR" (.number ((← global "NR").toNumber + 1))
        setGlobal "FNR" (.number ((← global "FNR").toNumber + 1))
        return some cs
      | none =>
        checkFeed f
        closeMain
        nextRecord fuel

/-! ### Streams -/

/-- Starts a command with one end of a pipe. -/
def startCommand (command : Text) (reads : Bool) : Action Stream := do
  flushAll
  liftRun do
    let (input, output) ← ask .pipe
    let (mine, other, target) := if reads then (output, input, 0) else (input, output, 1)
    let process ← Launch.start "/bin/sh".toList ["-c".toList, command] (← environment) id do
      let _ ← ask (.copy other target)
      close other
      close mine
    close other
    return { name := command, isCommand := true, descriptor := mine, process := some process
             feed := { descriptor := mine, chunk } }

/-- Where output goes. -/
inductive Sink where
  | main
  | file (path : Text) (append : Bool)
  | command (text : Text)

def openOutput (k : Sink) : Action Stream := do
  match k with
  | .main => return { name := [], isCommand := false, descriptor := 1 }
  | .command cs => startCommand cs true
  | .file path append =>
    if path = "/dev/stderr".toList then
      return { name := path, isCommand := false, descriptor := 2 }
    match ← liftRun (ask (.open (asName path) (if append then .append else .truncate) 0o666 3)) with
    | .ok d => return { name := path, isCommand := false, descriptor := d }
    | .error e =>
      give ("cannot open \"".toList ++ path ++ "\" for output (".toList ++ ofString e.text ++ [')'])

def write (k : Sink) (cs : Text) : Action Unit := do
  let toMain : Bool := match k with
    | .main => true
    | .file path _ => path = "/dev/stdout".toList || path = ['-']
    | .command _ => false
  if toMain then liftRun (out cs)
  else
    let (name, isCommand) := match k with
      | .main => ([], false)
      | .file path _ => (path, false)
      | .command cs => (cs, true)
    let isIt (x : Stream) : Bool := x.name == name && x.isCommand == isCommand
    let s ← get
    let stream ← match s.outputs.find? isIt with
      | some x => pure x
      | none => openOutput k
    let bytes := toBytes cs
    let stream : Stream :=
      { stream with held := bytes :: stream.held, size := stream.size + bytes.length }
    let stream ← if stream.size > chunk || stream.descriptor = 2 then liftRun (flushStream stream)
      else pure stream
    modify fun s => { s with outputs := stream :: s.outputs.filter fun x => !isIt x }

/-- The stream that a file or a command is read through; none if it cannot be opened. -/
def openInput (name : Text) (isCommand : Bool) : Action (Option Stream) := do
  match (← get).inputs.find? fun x => x.name == name && x.isCommand == isCommand with
  | some x => return some x
  | none =>
    if isCommand then return some (← startCommand name false)
    else if name = ['-'] || name = "/dev/stdin".toList then
      return some { name, isCommand, descriptor := 0, feed := { descriptor := 0, chunk } }
    else
      match ← liftRun (ask (.open (asName name) .read 0 3)) with
      | .ok d => return some { name, isCommand, descriptor := d, feed := { descriptor := d, chunk } }
      | .error _ => return none

/-- The next record from a file or a command; an error if it cannot be opened. -/
def readFrom (name : Text) (isCommand : Bool) : Action (Except Unit (Option Text)) := do
  match ← openInput name isCommand with
  | none => return .error ()
  | some x =>
    let (line, feed) ← recordFrom x.feed
    checkFeed feed
    modify fun s => { s with
      inputs := { x with feed } ::
        s.inputs.filter fun y => !(y.name == name && y.isCommand == isCommand) }
    return .ok line

def closeNamed (name : Text) : Action Int := do
  let s ← get
  let (outs, outputs) := s.outputs.partition (·.name == name)
  let (ins, inputs) := s.inputs.partition (·.name == name)
  set { s with outputs, inputs }
  if outs.any (·.isCommand) then liftRun flush
  (outs ++ ins).foldlM (fun _ k => liftRun (closeStream k)) (-1)

/-! ### Functions of the language -/

/-- The value of a format with values put into it. -/
def formatted (name : String) (vs : List Value) : Action (Text × Option Text) := do
  match vs with
  | [] => return ([], none)
  | f :: vs =>
    let format ← textOf f
    let number ← numberFormat
    let (pieces, fault) := formatFrom (·.toText number) (format.length + 2) 0 format vs []
    let shown := name.toList ++ "(\"".toList ++ format ++ "\")".toList
    let message := fault.map fun
      | .tooFew => "not enough arguments passed to ".toList ++ shown
      | .improper n =>
        "improper conversion(number ".toList ++ ofNat n ++ ") in ".toList ++ shown
    return (pieces.reverse.flatten, message)

/-- The expression that a value spells, or that stands there as such. -/
def patternOf (e : Expr) (v : Value) : Action Regex := do
  match e with
  | .regex r => return r
  | _ => compiled (← textOf v)

/-- Lets other processes run from time to time. -/
def step : Action Unit := do
  let s ← get
  set { s with steps := s.steps + 1 }
  if s.steps % 64 = 63 then liftRun (ask .yield)

/-- A number between zero and one. -/
def random : Action Float := do
  let s ← get
  let noise := (s.noise * 6364136223846793005 + 1442695040888963407) % Nat.pow 2 64
  set { s with noise }
  return Float.ofNat (noise / Nat.pow 2 33) / 2147483648.0

/-- Functions whose arguments are plain values. -/
def applyBuiltin (b : Builtin) (vs : List Value) : Action Value := do
  let number (f : Float → Float) : Action Value :=
    return .number (f ((vs.head?.map Value.toNumber).getD 0))
  let text (i : Nat) : Action Text := textOf (vs.getD i .unset)
  match b with
  | .length =>
    let cs ← if vs.isEmpty then record else text 0
    return .number (Float.ofNat cs.length)
  | .substr =>
    return .text (substring (← text 0) (vs.getD 1 .unset).toNumber (vs[2]?.map Value.toNumber))
  | .index => return .number (Float.ofNat (indexOf (← text 1) 1 (← text 0)))
  | .sprintf =>
    let (cs, fault) ← formatted "sprintf" vs
    match fault with
    | some m => runTimeError m
    | none => return .text cs
  | .sin => number Float.sin
  | .cos => number Float.cos
  | .atan2 => return .number (Float.atan2 (vs.getD 0 .unset).toNumber (vs.getD 1 .unset).toNumber)
  | .exp => number Float.exp
  | .log => number Float.log
  | .sqrt => number Float.sqrt
  | .int => number fun x => if x < 0 then x.ceil else x.floor
  | .rand => return .number (← random)
  | .srand =>
    let s ← get
    let next ← match vs with
      | v :: _ => pure v.toNumber
      | [] => do
        let now : Nat ← liftRun (ask .clock)
        pure (Float.ofNat (now / 1000000))
    set { s with seed := next, noise := (whole next).natAbs + 1 }
    return .number s.seed
  | .toLower => return .text ((← text 0).map Char.toLower)
  | .toUpper => return .text ((← text 0).map Char.toUpper)
  | .system =>
    let command ← text 0
    flushAll
    liftRun do
      let status ← Launch.command "/bin/sh".toList ["-c".toList, command] (← environment) id (pure ())
      return .number (Records.ofInt (codeOf status))
  | .close => return .number (Records.ofInt (← closeNamed (← text 0)))
  | .flush =>
    if vs.isEmpty then
      flushAll
      return .number 0
    else
      let name ← text 0
      if (← get).outputs.any (·.name == name) then
        flushAll
        return .number 0
      else return .number (-1)
  | .systime =>
    let now : Nat ← liftRun (ask .clock)
    return .number (Float.ofNat (now / 1000000))
  | .formatTime =>
    let now : Nat ← liftRun (ask .clock)
    let format ← if vs.isEmpty then pure "%c".toList else text 0
    let seconds := match vs[1]? with
      | some v => whole v.toNumber
      | none => (now / 1000000 : Nat)
    return .text ((Moment.ofCount (seconds * 1000000)).text format)
  | _ => return .unset

/-! ### Expressions and statements -/

/-- What can be assigned to. -/
inductive Slot where
  | name (v : String)
  | field (i : Int)
  | item (table : Nat) (k : Key)

def Slot.read : Slot → Action Value
  | .name v => readName v
  | .field i => Records.field i
  | .item id k => onTable id fun t => t.get k .unset

def Slot.write (v : Value) : Slot → Action Unit
  | .name n => writeName n v
  | .field i => setField i v
  | .item id k => onTable id fun t => ((), t.set k v)

def truth (b : Bool) : Value := .number (if b then 1 else 0)

/-- Names in a function that stand for arrays of their own. -/
def ownArrays (f : Function) (given : Nat) : List String := (f.params.drop given).filter f.arrays.contains

mutual

/-- Where a value is put; `fuel` bounds the depth. -/
def slotOf : Nat → Expr → Action Slot
  | 0, _ => throw (.exit none)
  | fuel + 1, e => do
    match e with
    | .name v => return .name v
    | .field e => return .field (place (← eval fuel e).toNumber)
    | .item array index =>
      let k ← keyOf (← evalAll fuel index)
      let id ← tableOf array
      let _ ← onTable id fun t => t.get k .unset
      return .item id k
    | _ => return .field 0

def evalAll : Nat → List Expr → Action (List Value)
  | 0, _ => throw (.exit none)
  | _ + 1, [] => return []
  | fuel + 1, e :: es => do
    let v ← eval fuel e
    return v :: (← evalAll fuel es)

def eval : Nat → Expr → Action Value
  | 0, _ => throw (.exit none)
  | fuel + 1, e => do
    match e with
    | .number x => return .number x
    | .text cs => return .text cs
    | .regex r => return truth (Regex.isMatch {} r (← record))
    | .name v => readName v
    | .field e => field (place (← eval fuel e).toNumber)
    | .item array index =>
      let k ← keyOf (← evalAll fuel index)
      let id ← tableOf array
      onTable id fun t => t.get k .unset
    | .assign target value =>
      let slot ← slotOf fuel target
      let v ← eval fuel value
      slot.write v
      return v
    | .update op target value =>
      let slot ← slotOf fuel target
      let y ← eval fuel value
      let v : Value := .number (op.apply (← slot.read).toNumber y.toNumber)
      slot.write v
      return v
    | .step amount after target =>
      let slot ← slotOf fuel target
      let x := (← slot.read).toNumber
      slot.write (.number (x + amount))
      return .number (if after then x else x + amount)
    | .arithmetic op a b =>
      let x ← eval fuel a
      let y ← eval fuel b
      return .number (op.apply x.toNumber y.toNumber)
    | .relation op a b =>
      let x ← eval fuel a
      let y ← eval fuel b
      return truth (compareValues (← numberFormat) op x y)
    | .join a b =>
      let x ← textOf (← eval fuel a)
      let y ← textOf (← eval fuel b)
      return .text (x ++ y)
    | .describes text pattern =>
      let cs ← textOf (← eval fuel text)
      let r ← match pattern with
        | .regex r => pure r
        | p => do patternOf p (← eval fuel p)
      return truth (Regex.isMatch {} r cs)
    | .not_ e => return truth !(← eval fuel e).holds
    | .minus e => return .number (0 - (← eval fuel e).toNumber)
    | .plus e => return .number (← eval fuel e).toNumber
    | .both a b =>
      if (← eval fuel a).holds then return truth (← eval fuel b).holds else return truth false
    | .either a b =>
      if (← eval fuel a).holds then return truth true else return truth (← eval fuel b).holds
    | .choice test yes no =>
      if (← eval fuel test).holds then eval fuel yes else eval fuel no
    | .isIn index array =>
      let k ← keyOf (← evalAll fuel index)
      let id ← tableOf array
      return truth (← onTable id fun t => t.has k)
    | .list es =>
      let k ← keyOf (← evalAll fuel es)
      return .text k.spelling
    | .call name args => call fuel name args
    | .builtin b args =>
      match b, args with
      | .split, text :: .name array :: more => do
        let cs ← textOf (← eval fuel text)
        let separator ← match more with
          | [.regex r] => pure (Separator.pattern r)
          | e :: _ => do separatorOf (← textOf (← eval fuel e))
          | [] => do separatorOf (← globalText "FS")
        let ps := parts separator cs
        setTable (← tableOf array) (Table.ofList (ps.map Value.input))
        return .number (Float.ofNat ps.length)
      | .sub, p :: target :: more => substitute fuel false p target more.head?
      | .gsub, p :: target :: more => substitute fuel true p target more.head?
      | .matchPlace, [text, p] => do
        let cs ← textOf (← eval fuel text)
        let r ← match p with
          | .regex r => pure r
          | p => do patternOf p (← eval fuel p)
        let (start, length) : Float × Float := match Regex.find? {} r cs 0 with
          | some m => (Float.ofNat (m.start + 1), Float.ofNat (m.stop - m.start))
          | none => (0, -1)
        setGlobal "RSTART" (.number start)
        setGlobal "RLENGTH" (.number length)
        return .number start
      | .length, [.name v] => do
        let s ← get
        let isArray := match s.frame.lookup v with
          | some (.array _) => true
          | some (.value _) => false
          | none => s.arrays.contains v && !s.globals.contains v
        if isArray then
          return .number (Float.ofNat (← table (← tableOf v)).size)
        else applyBuiltin .length [← readName v]
      | b, args => do applyBuiltin b (← evalAll fuel args)
    | .readMain target =>
      match ← nextRecord 100000 with
      | none => return .number 0
      | some cs =>
        match target with
        | none => setRecord cs
        | some t => (← slotOf fuel t).write (.input cs)
        return .number 1
    | .readFile path target =>
      let name ← textOf (← eval fuel path)
      received fuel target (← readFrom name false)
    | .readCommand command target =>
      let name ← textOf (← eval fuel command)
      received fuel target (← readFrom name true)

/-- Puts what was read where it belongs. -/
def received : Nat → Option Expr → Except Unit (Option Text) → Action Value
  | 0, _, _ => throw (.exit none)
  | fuel + 1, target, line => do
    match line with
    | .error () => return .number (-1)
    | .ok none => return .number 0
    | .ok (some cs) =>
      match target with
      | none => setRecord cs
      | some t => (← slotOf fuel t).write (.input cs)
      return .number 1

def substitute : Nat → Bool → Expr → Expr → Option Expr → Action Value
  | 0, _, _, _, _ => throw (.exit none)
  | fuel + 1, all, pattern, target, place => do
    let r ← match pattern with
      | .regex r => pure r
      | p => do patternOf p (← eval fuel p)
    let by_ ← textOf (← eval fuel target)
    let slot ← match place with
      | some e => slotOf fuel e
      | none => pure (.field 0)
    let cs ← textOf (← slot.read)
    let (result, count) := substituteFrom r all by_ cs (cs.length + 2) 0 none [] 0
    if count > 0 then slot.write (.text result)
    return .number (Float.ofNat count)

def call : Nat → String → List Expr → Action Value
  | 0, _, _ => throw (.exit none)
  | fuel + 1, name, args => do
    step
    match (← get).functions[name]? with
    | none => return .unset
    | some f =>
      let given ← bindings fuel f f.params args
      let own := ownArrays f args.length
      let mut frame := given
      for p in own do
        let s ← get
        set { s with fresh := s.fresh + 1, tables := s.tables.insert s.fresh {} }
        frame := (p, .array s.fresh) :: frame
      for p in f.params.drop args.length do
        if !f.arrays.contains p then frame := (p, .value .unset) :: frame
      let before := (← get).frame
      modify fun s => { s with frame }
      let v ← tryCatch (do
        exec fuel f.body
        return Value.unset) fun
        | .result v => return v
        | h => throw h
      let s ← get
      let tables := own.foldl (fun (ts : Std.HashMap Nat (Table Value)) p =>
        match frame.lookup p with
        | some (.array id) => ts.erase id
        | _ => ts) s.tables
      set { s with frame := before, tables }
      return v

/-- What the parameters of a function stand for in a call. -/
def bindings : Nat → Function → List String → List Expr → Action (List (String × Binding))
  | 0, _, _, _ => throw (.exit none)
  | fuel + 1, f, p :: ps, e :: es => do
    let b ← match f.arrays.contains p, e with
      | true, .name v => do pure (Binding.array (← tableOf v))
      | _, e => do pure (Binding.value (← eval fuel e))
    return (p, b) :: (← bindings fuel f ps es)
  | _ + 1, _, _, _ => return []

def sinkOf : Nat → Redirect → Action Sink
  | 0, _ => throw (.exit none)
  | fuel + 1, r => do
    match r with
    | .main => return .main
    | .file e => return .file (← textOf (← eval fuel e)) false
    | .append e => return .file (← textOf (← eval fuel e)) true
    | .command e => return .command (← textOf (← eval fuel e))

def exec : Nat → Stmt → Action Unit
  | 0, _ => throw (.exit none)
  | fuel + 1, s => do
    match s with
    | .expr e =>
      let _ ← eval fuel e
    | .print args target =>
      let cs ← match args with
        | [] => record
        | args => do
          let vs ← evalAll fuel args
          let format ← globalText "OFMT"
          let separator ← globalText "OFS"
          pure (List.intercalate separator (vs.map (·.toText format)))
      let sink ← sinkOf fuel target
      write sink (cs ++ (← globalText "ORS"))
    | .printf args target =>
      let vs ← evalAll fuel args
      let sink ← sinkOf fuel target
      let (cs, fault) ← formatted "printf" vs
      write sink cs
      match fault with
      | some m => runTimeError m
      | none => return ()
    | .block body => execAll fuel body
    | .choice test yes no => if (← eval fuel test).holds then exec fuel yes else exec fuel no
    | .loop test after body => loop fuel test after body
    | .loopOnce body test =>
      if ← round fuel body then
        if (← eval fuel test).holds then exec fuel (.loopOnce body test)
    | .forKeys v array body =>
      let id ← tableOf array
      let ks ← onTable id fun t => t.keys
      overKeys fuel v ks body
    | .next => throw .next
    | .nextFile => throw .nextFile
    | .leaveLoop => throw .leaveLoop
    | .nextRound => throw .nextRound
    | .exit code =>
      match code with
      | none => throw (.exit none)
      | some e =>
        let n := place (← eval fuel e).toNumber
        throw (.exit (some (n % 256).toNat))
    | .result e =>
      match e with
      | none => throw (.result .unset)
      | some e => throw (.result (← eval fuel e))
    | .delete array index =>
      let k ← keyOf (← evalAll fuel index)
      let id ← tableOf array
      onTable id fun t => ((), t.remove k)
    | .clear array => setTable (← tableOf array) {}

def execAll : Nat → List Stmt → Action Unit
  | 0, _ => throw (.exit none)
  | _ + 1, [] => return ()
  | fuel + 1, s :: ss => do
    exec fuel s
    execAll fuel ss

/-- Carries out the body of a loop; false if the loop is left. -/
def round : Nat → Stmt → Action Bool
  | 0, _ => throw (.exit none)
  | fuel + 1, body => do
    step
    tryCatch (do
      exec fuel body
      return true) fun
      | .leaveLoop => return false
      | .nextRound => return true
      | h => throw h

def loop : Nat → Expr → Stmt → Stmt → Action Unit
  | 0, _, _, _ => throw (.exit none)
  | fuel + 1, test, after, body => do
    if (← eval fuel test).holds then
      if ← round fuel body then
        exec fuel after
        loop fuel test after body

def overKeys : Nat → String → List Text → Stmt → Action Unit
  | 0, _, _, _ => throw (.exit none)
  | _ + 1, _, [], _ => return ()
  | fuel + 1, v, k :: ks, body => do
    writeName v (.text k)
    if ← round fuel body then overKeys fuel v ks body

end

/-! ### Rules -/

/-- A bound on the depth and the rounds of a program. -/
def depth : Nat := 1000000000

/-- Whether a rule is for the present record. -/
def chooses (number : Nat) (p : Pattern) : Action Bool := do
  match p with
  | .always => return true
  | .when_ e => return (← eval depth e).holds
  | .between first last =>
    let inside := (← get).begun.contains number
    if inside || (← eval depth first).holds then
      let ends := (← eval depth last).holds
      modify fun s => { s with
        begun := if ends then s.begun.filter (· != number)
          else if inside then s.begun else number :: s.begun }
      return true
    else return false
  | _ => return false

def applyRules (rules : List (Rule × Nat)) : Action Unit := do
  for (r, number) in rules do
    if ← chooses number r.pattern then exec depth r.body

/-- Goes through the records of the main input; `fuel` bounds their number. -/
def overRecords (rules : List (Rule × Nat)) : Nat → Action Unit
  | 0 => return ()
  | fuel + 1 => do
    match ← nextRecord 100000 with
    | none => return ()
    | some cs =>
      setRecord cs
      let skip ← tryCatch (do
        applyRules rules
        return false) fun
        | .next => return false
        | .nextFile => return true
        | h => throw h
      if skip then closeMain
      overRecords rules fuel

/-- Runs a part of a program; the value tells whether it came to its end, and the exit code. -/
def part (x : Action Unit) : Action (Bool × Option Nat) :=
  tryCatch (do
    x
    return (true, none)) fun
    | .exit code => return (false, code)
    | _ => return (true, none)

def runProgram (p : Program) : Action Unit := do
  let isBegin (r : Rule) : Bool := r.pattern matches .begin_
  let isEnd (r : Rule) : Bool := r.pattern matches .end_
  let rules := (p.rules.filter fun r => !isBegin r && !isEnd r).zipIdx
  let bodies (rs : List Rule) : Action Unit := do
    for r in rs do exec depth r.body
  let (goesOn, code) ← part (bodies (p.rules.filter isBegin))
  let ends := p.rules.filter isEnd
  let (_, code') ← if goesOn && !(rules.isEmpty && ends.isEmpty) then part (overRecords rules depth)
    else pure (false, none)
  let code := code'.orElse fun _ => code
  let (_, code'') ← part (bodies ends)
  leave ((code''.orElse fun _ => code).getD 0)

/-! ### Starting -/

def usage : List String :=
  ["Usage: mawk [Options] [Program] [file ...]", "", "Program:",
    "    The -f option value is the name of a file containing program text.",
    "    If no -f option is given, a \"--\" ends option processing; the following",
    "    parameters are the program text.", "", "Options:",
    "    -f program-file  Program  text is read from file instead of from the",
    "                     command-line.  Multiple -f options are accepted.",
    "    -F value         sets the field separator, FS, to value.",
    "    -v var=value     assigns value to program variable var.",
    "    --               unambiguous end of options.", "",
    "    Implementation-specific options are prefixed with \"-W\".  They can be",
    "    abbreviated:", "",
    "    -W version       show version information and exit.",
    "    -W compat        pre-POSIX 2001.",
    "    -W dump          show assembler-like listing of program and exit.",
    "    -W help          show this message and exit.",
    "    -W interactive   set unbuffered output, line-buffered input.",
    "    -W exec file     use file as program as well as last option.",
    "    -W posix         stricter POSIX checking.",
    "    -W random=number set initial random seed.",
    "    -W sprintf=number adjust size of sprintf buffer.",
    "    -W usage         show this message and exit."]

/-- What the arguments before the operands tell. -/
structure Invocation where
  separator : Option Text := none
  assignments : List Text := []
  files : List Text := []

/-- Reads options; an option may have its value in the same argument or in the next one. -/
def invocation : List Text → Invocation → Except Text (Invocation × List Text)
  | [], i => .ok (i, [])
  | a :: args, i =>
    let valued (c : Char) (v : Text) (args : List Text) : Except Text (Invocation × List Text) :=
      match c with
      | 'F' => .ok ({ i with separator := some v }, args)
      | 'v' => .ok ({ i with assignments := i.assignments ++ [v] }, args)
      | _ => .ok ({ i with files := i.files ++ [v] }, args)
    match a with
    | ['-', '-'] => .ok (i, args)
    | '-' :: c :: v =>
      if c = 'F' || c = 'v' || c = 'f' then
        match v, args with
        | [], w :: args =>
          match valued c w args with
          | .ok (i, _) => invocation args i
          | .error e => .error e
        | [], [] => .error ("option -".toList ++ c :: " lacks argument".toList)
        | v, args =>
          match valued c v args with
          | .ok (i, _) => invocation args i
          | .error e => .error e
      else if c = 'W' then
        match v, args with
        | [], _ :: args => invocation args i
        | _, args => invocation args i
      else .error ("not an option: ".toList ++ a)
    | _ => .ok (i, a :: args)
termination_by args => args.length

def usual : List (String × Value) :=
  [("FS", .text [' ']), ("OFS", .text [' ']), ("ORS", .text ['\n']), ("RS", .text ['\n']),
    ("NR", .number 0), ("FNR", .number 0), ("CONVFMT", .text "%.6g".toList),
    ("OFMT", .text "%.6g".toList), ("SUBSEP", .text ['\x1c']), ("RSTART", .number 0),
    ("RLENGTH", .number (-1)), ("FILENAME", .text [])]

def startUp (i : Invocation) (operands : List Text) : Action Unit := do
  let name := (← liftRun (get : Run Desk)).call.name
  for (v, x) in usual do setGlobal v x
  let args := name :: operands
  setGlobal "ARGC" (.number (Float.ofNat args.length))
  let id ← tableOf "ARGV"
  for (a, n) in args.zipIdx do
    onTable id fun t => ((), t.set (.number n) (.input a))
  let id ← tableOf "ENVIRON"
  for (v, bytes) in (← liftRun environment) do
    onTable id fun t => ((), t.set (.text v.toList) (.input (ofBytes bytes)))
  if let some f := i.separator then
    setGlobal "FS" (.text (unescaped f))
  for a in i.assignments do
    match assignmentIn a with
    | some (v, cs) => assignText v cs
    | none => give ("improper assignment: -v ".toList ++ a)

end Records

open Records in
/-- Carries out a program for the records of files. -/
def records : Tool := do
  modify fun d => { d with failure := 2 }
  match invocation (← arguments) {} with
  | .error m => fail m
  | .ok (i, operands) =>
    let (source, operands) ← match i.files, operands with
      | [], [] => do
        for l in usage do tell l.toList
        quit 0
      | [], p :: rest => pure (p, rest)
      | files, rest => do
        let all ← files.mapM fun path => do
          match ← contents path with
          | .ok cs => return cs
          | .error e =>
            fail ("cannot open \"".toList ++ path ++ "\" (".toList ++ ofString e.text ++ [')'])
        pure (List.intercalate ['\n'] all, rest)
    match parse source with
    | .error lines => do
      let from_ := match i.files.getLast? with
        | some path => path ++ ": ".toList
        | none => []
      for l in lines do complain ((if "line ".toList.isPrefixOf l then from_ else []) ++ l)
      return 2
    | .ok program =>
      let functions := program.functions.foldl
        (fun (m : Std.HashMap String Function) f => m.insert f.name f) {}
      let start : Action Unit := do
        startUp i operands
        runProgram program
      let _ ← (start.run.run { functions })
      return 0

end CellRunner.Tool
