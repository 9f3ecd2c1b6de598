import CellRunner.Machine.Signal
import CellRunner.Machine.Task
import CellRunner.Text.Utf8

/-!
# The kernel

Processes run one request at a time until each has ended or waits for another. A pipe holds
a bounded number of bytes; reading it waits while it is empty and somebody may still write,
and writing it waits while it is full and somebody may still read.
-/

set_option autoImplicit false

namespace CellRunner.Machine

/-- What an open descriptor leads to. -/
inductive Endpoint where
  | node (number : Nat)
  | readEnd (pipe : Nat)
  | writeEnd (pipe : Nat)
  deriving DecidableEq, Repr

structure Opened where
  endpoint : Endpoint
  offset : Nat := 0
  reads : Bool := true
  writes : Bool := true
  appends : Bool := false

/-- Bytes in `front` come before those in `back`, whose last part comes first. -/
structure Pipe where
  front : Bytes := []
  back : List Bytes := []
  size : Nat := 0

namespace Pipe

def capacity : Nat := 65536

def push (p : Pipe) (bytes : Bytes) : Pipe :=
  { p with back := bytes :: p.back, size := p.size + bytes.length }

/-- All bytes, oldest first. -/
def contents (p : Pipe) : Bytes := p.front ++ p.back.reverse.flatten

/-- Takes at most `n` of the oldest bytes. -/
def pop (p : Pipe) (n : Nat) : Bytes × Pipe :=
  let front := if p.front.length < n then p.contents else p.front
  let back := if p.front.length < n then [] else p.back
  let taken := front.take n
  (taken, { front := front.drop n, back, size := p.size - taken.length })

end Pipe

structure Process where
  number : Nat
  parent : Nat
  /-- the number of the first process of the group that signals are sent to -/
  group : Nat := 1
  task : Task
  /-- descriptors and the open files they stand for -/
  descriptors : List (Nat × Nat)
  /-- descriptors that another program in its place does not get -/
  own : List Nat := []
  cwd : Nat
  /-- the file of the program that runs -/
  image : Option Nat := none
  /-- the arguments of the program -/
  call : List Bytes := []
  /-- the last part of the path that was asked to run -/
  name : String := ""
  /-- permission bits that new files do not get -/
  mask : Nat := 0o022
  /-- signals that the process takes -/
  taken : List Nat := []
  ignored : List Nat := []
  /-- signals that were taken and not asked for yet -/
  arrived : List Nat := []
  /-- the signal that has stopped the process -/
  stopped : Option Nat := none
  /-- signals that came while the process was stopped -/
  postponed : List Nat := []
  ended : Option Status := none

/-- What a program of the system does, given its arguments and its environment. -/
abbrev Programs := String → Option (List Bytes → List (String × Bytes) → Task)

structure Kernel where
  files : Files := {}
  opened : Array Opened := #[]
  pipes : Array Pipe := #[]
  processes : List Process := []
  /-- open files in use outside all processes -/
  held : List Nat := []
  nextNumber : Nat := 100
  /-- microseconds -/
  clock : Nat := 0

namespace Kernel

def now (k : Kernel) : Int := epoch + k.clock

def endpoint? (k : Kernel) (index : Nat) : Option Endpoint := k.opened[index]?.map (·.endpoint)

/-- Whether an open file of this kind is in use anywhere. -/
def isUsed (k : Kernel) (e : Endpoint) : Bool :=
  let leads (index : Nat) : Bool := k.endpoint? index == some e
  k.held.any leads ||
    k.processes.any fun p => p.ended.isNone && p.descriptors.any fun d => leads d.2

def process? (k : Kernel) (number : Nat) : Option Process :=
  k.processes.find? (·.number == number)

def update (k : Kernel) (p : Process) : Kernel :=
  { k with processes := k.processes.map fun q => if q.number = p.number then p else q }

def finish (k : Kernel) (p : Process) (status : Status) : Kernel :=
  k.update { p with ended := some status, descriptors := [], task := .exit 0 }

/-- The lowest descriptor from `least` on that is not in use. -/
def freeDescriptor (p : Process) (least : Nat) : Nat :=
  let used := p.descriptors.map (·.1)
  ((List.range (used.length + 1)).map (· + least)).find? (!used.contains ·) |>.getD least

def without (d : Nat) (ds : List (Nat × Nat)) : List (Nat × Nat) := ds.filter (·.1 != d)

/-- From this descriptor on, new ones are for the process alone. -/
def firstOwn : Nat := 10

/-- A process with a new descriptor, chosen from `least` on. -/
def add (p : Process) (d index least : Nat) : Process :=
  { p with
    descriptors := (d, index) :: without d p.descriptors
    own := if least ≥ firstOwn then d :: p.own else p.own.filter (· != d) }

def openAs (k : Kernel) (o : Opened) : Kernel × Nat :=
  ({ k with opened := k.opened.push o }, k.opened.size)

/-- Gives a process a new descriptor. -/
def give (k : Kernel) (p : Process) (o : Opened) (least : Nat) : Kernel × Process × Nat :=
  let (k, index) := k.openAs o
  let d := freeDescriptor p least
  let p := add p d index least
  (k.update p, p, d)

def newPipe (k : Kernel) : Kernel × Nat := ({ k with pipes := k.pipes.push {} }, k.pipes.size)

def pipe (k : Kernel) (n : Nat) : Pipe := k.pipes.getD n {}

def setPipe (k : Kernel) (n : Nat) (p : Pipe) : Kernel :=
  { k with pipes := k.pipes.setIfInBounds n p }

/-- What comes of a request. -/
inductive Attempt (α : Type) where
  | done (reply : α) (k : Kernel)
  /-- it has to be made again when something has changed -/
  | blocked
  /-- the process has ended or goes on as another program -/
  | replaced (k : Kernel)

/-! ### Programs -/

def greatestArgument : Nat := 131071

def greatestArguments : Nat := 2097152

def isTooLong (args : List Bytes) : Bool :=
  args.any (fun a => a.length > greatestArgument) ||
    (args.foldl (fun n a => n + a.length + 9) 0) > greatestArguments

/-- Whether a file is open for writing anywhere. -/
def isWritten (k : Kernel) (n : Nat) : Bool :=
  let leads (index : Nat) : Bool :=
    match k.opened[index]? with
    | some o => o.writes && o.endpoint == .node n
    | none => false
  k.held.any leads || k.processes.any fun p => p.ended.isNone && p.descriptors.any fun d => leads d.2

/-- Whether a process runs the program in a file. -/
def isRun (k : Kernel) (n : Nat) : Bool :=
  k.processes.any fun p => p.ended.isNone && p.image == some n

/-- The first bytes of a file that holds a program. -/
def programMark : ByteArray :=
  ⟨#[0x7f, 0x45, 0x4c, 0x46, 2, 1, 1, 0, 0, 0, 0, 0, 0, 0, 0, 0]⟩

/-- The file of a program. -/
def imageOf (name : String) : ByteArray := programMark ++ name.toUTF8 ++ ⟨#[0]⟩

/-- The program that a file holds. -/
def programIn? (data : ByteArray) : Option String :=
  let size := programMark.size
  if data.extract 0 size == programMark then
    some (Utf8.lossy ((data.extract size (size + 256)).toList.takeWhile (· != 0)))
  else none

/-- How many bytes of a script are looked at for its interpreter. -/
def lookedAt : Nat := 256

def isSpace (b : UInt8) : Bool := b = 32 || b = 9

def endsWord (b : UInt8) : Bool := isSpace b || b = 0

/-- The places from `i` to `j`, both included. -/
def places (i j : Nat) : List Nat := (List.range (j + 1 - i)).map (i + ·)

/-- Interpreter and argument in the first line of a script. A line that does not end among the
bytes that are looked at has at least to end its first word there; the rest is cut off. -/
def interpreter? (data : ByteArray) : Option (String × Option Bytes) := do
  let bytes := (data.extract 0 lookedAt).toList
  let buffer := (bytes ++ List.replicate (lookedAt - bytes.length) 0).toArray
  let at_ (i : Nat) : UInt8 := buffer.getD i 0
  if !(at_ 0 = 35 && at_ 1 = 33) then none
  let last := lookedAt - 1
  let limit ← match bytes.idxOf? 10 with
    | some i => some i
    | none => do
      let start ← (places 2 last).find? fun i => !isSpace (at_ i)
      let _ ← (places start last).find? fun i => endsWord (at_ i)
      some last
  let limit := limit - (((places 2 (limit - 1)).reverse.takeWhile fun i => isSpace (at_ i)).length)
  let name ← (places 2 limit).find? fun i => !isSpace (at_ i)
  if name = limit then none
  let upTo (i j : Nat) : Bytes := ((places i (j - 1)).map at_).takeWhile (· != 0)
  let stop := ((places name limit).find? fun i => endsWord (at_ i)).filter fun i => at_ i != 0
  let arg := stop.bind fun i => (places i limit).find? fun i => !isSpace (at_ i)
  some (Utf8.lossy (upTo name (stop.getD limit)), arg.map fun i => upTo i limit)

/-- How many interpreters may be scripts themselves. -/
def deepest : Nat := 5

/-- A program that is ready to run. -/
structure Loaded where
  task : Task
  /-- the file that holds the program -/
  image : Nat
  call : List Bytes

/-- The program of a file; `depth` bounds the chain of interpreters. -/
def load (programs : Programs) (k : Kernel) (cwd : Nat) :
    Nat → String → List Bytes → List (String × Bytes) → Outcome Loaded
  | depth, path, args, env => do
    let n ← k.files.resolve cwd path
    k.files.demand n Files.searching
    let .file data := k.files.content n
      | .error .accessDenied
    if k.isWritten n then .error .textBusy
    if isTooLong args then .error .tooManyArguments
    match programIn? data, interpreter? data, depth with
    | some name, _, _ =>
      match programs name with
      | some program => .ok ⟨program args env, n, args⟩
      | none => .error .notExecutable
    | none, some _, 0 => .error .tooManyLinks
    | none, some (interpreter, arg), depth + 1 =>
      load programs k cwd depth interpreter
        (interpreter.toUTF8.toList :: arg.toList ++ path.toUTF8.toList :: args.tail) env
    | none, none, _ => .error .notExecutable

/-- The last part of a path. -/
def lastName (path : String) : String := (Files.names path).getLastD ""

/-- A process that goes on as another program. -/
def replace (p : Process) (l : Loaded) (path : String) : Process :=
  { p with
    task := l.task, image := some l.image, call := l.call, name := lastName path
    descriptors := p.descriptors.filter fun d => !p.own.contains d.1
    own := [], taken := [], arrived := [] }

/-! ### Signals -/

/-- Sends a signal to a process that has not ended. -/
def deliver (k : Kernel) (p : Process) (signal : Nat) : Kernel :=
  if signal = 0 then k
  else if signal = Signal.kill then k.finish p (.signaled signal)
  else if p.stopped.isSome && signal != Signal.continue_ then
    k.update { p with postponed := p.postponed ++ [signal] }
  else if signal = Signal.stop then k.update { p with stopped := some signal }
  else if p.ignored.contains signal then k
  else if p.taken.contains signal then k.update { p with arrived := p.arrived ++ [signal] }
  else if Signal.stops signal then k.update { p with stopped := some signal }
  else if Signal.isDeadly signal then k.finish p (.signaled signal)
  else k

/-- The process that all others come from. -/
def firstProcess : Nat := 1

/-- The process that starts the others and watches them. -/
def owner : Nat := 90

/-- Sends a signal to a process by number; one that goes on again gets what was postponed. -/
def signal (k : Kernel) (number signal : Nat) : Outcome Kernel :=
  match k.process? number with
  | none =>
    if number = firstProcess then .error .notPermitted
    else if number = owner then .ok k
    else .error .noProcess
  | some p =>
    if p.ended.isSome then .ok k
    else if signal = Signal.continue_ && p.stopped.isSome then
      let postponed := p.postponed
      let k := k.update { p with stopped := none, postponed := [] }
      .ok <| (signal :: postponed).foldl (fun k s =>
        match k.process? number with
        | some q => if q.ended.isSome then k else k.deliver q s
        | none => k) k
    else .ok (k.deliver p signal)

/-- Sends a signal to the processes of a group, the one that sends it last. -/
def signalGroup (k : Kernel) (sender group signal : Nat) : Outcome Kernel :=
  let members := k.processes.filter fun p => p.group = group && p.number != sender
  let self := k.processes.filter fun p => p.group = group && p.number = sender
  if members.isEmpty && self.isEmpty then .error .noProcess
  else .ok <| (members ++ self).foldl (fun k p => (k.signal p.number signal).toOption.getD k) k

/-- Moves a process to another group. -/
def join (k : Kernel) (p : Process) (number : Nat) (group : Option Nat) : Outcome Kernel :=
  match k.process? number with
  | none => .error .noProcess
  | some q =>
    if q.number != p.number && q.parent != p.number then .error .noProcess
    else
      match group with
      | none => .ok (k.update { q with group := number })
      | some g =>
        if k.processes.any (·.group == g) then .ok (k.update { q with group := g })
        else .error .notPermitted

/-! ### Files -/

def typeOf : Content → FileType
  | .file _ => .file
  | .directory _ _ => .directory
  | .link _ => .link
  | .pipe _ => .pipe
  | .device _ => .device
  | .descriptor _ => .link
  | .fact .image => .link
  | .fact .directory => .link
  | .fact _ => .file

def sizeOf : Content → Nat
  | .file data => data.size
  | .link target => target.utf8ByteSize
  | .directory _ _ => 4096
  | _ => 0

/-- How many names lead to a node; a directory is named by itself and by those inside it. -/
def namesOf (fs : Files) (n : Nat) : Nat :=
  match fs.content n with
  | .directory _ es =>
    if (fs.node n).names = 0 then 0 else 2 + (es.filter fun e => fs.isDirectory e.2).length
  | _ => (fs.node n).names

def nodeInfo (fs : Files) (n : Nat) : FileInfo :=
  let node := fs.node n
  { kind := typeOf node.content, mode := node.mode, size := sizeOf node.content, number := n
    names := namesOf fs n, changed := node.changed, rights := fs.rights n
    owned := !node.system }

/-- What is known of an open file; the numbers of pipes stand apart from those of nodes. -/
def openedInfo (k : Kernel) (o : Opened) : FileInfo :=
  let ofPipe (n : Nat) : FileInfo :=
    { kind := .pipe, mode := 0o600, size := 0, number := 1000000 + n, names := 1, changed := k.now
      rights := 6, owned := true }
  match o.endpoint with
  | .node n => nodeInfo k.files n
  | .readEnd n => ofPipe n
  | .writeEnd n => ofPipe n

def statOpen (k : Kernel) (p : Process) (d : Nat) : Outcome FileInfo :=
  match (p.descriptors.lookup d).bind (k.opened[·]?) with
  | some o => .ok (k.openedInfo o)
  | none => .error .badDescriptor

def stat (k : Kernel) (p : Process) (path : String) (follows : Bool) : Outcome FileInfo := do
  let n ← k.files.lookup follows p.cwd path
  match k.files.content n with
  | .descriptor d => do
    let info ← (k.statOpen p d).mapError fun _ => .noEntry
    .ok (if follows then info else nodeInfo k.files n)
  | .fact .image => .ok (nodeInfo k.files (if follows then p.image.getD n else n))
  | .fact .directory => .ok (nodeInfo k.files (if follows then p.cwd else n))
  | _ => .ok (nodeInfo k.files n)

/-- Runs a change of the tree of files. -/
def onFiles (k : Kernel) (r : Files.Result Files) : Attempt (Outcome Unit) :=
  match r with
  | .ok files => .done (.ok ()) { k with files }
  | .error e => .done (.error e) k

def readFrom (k : Kernel) (index count : Nat) : Attempt (Outcome Bytes) :=
  match k.opened[index]? with
  | none => .done (.error .badDescriptor) k
  | some o =>
    if !o.reads then .done (.error .badDescriptor) k
    else
      match o.endpoint with
      | .writeEnd _ => .done (.error .badDescriptor) k
      | .readEnd n =>
        let p := k.pipe n
        if p.size = 0 then
          if k.isUsed (.writeEnd n) then .blocked else .done (.ok []) k
        else
          let (bytes, p) := p.pop count
          .done (.ok bytes) (k.setPipe n p)
      | .node n =>
        match k.files.content n with
        | .file data =>
          let bytes := (data.extract o.offset (o.offset + count)).toList
          let o := { o with offset := o.offset + bytes.length }
          .done (.ok bytes) { k with opened := k.opened.setIfInBounds index o }
        | .device .zeros => .done (.ok (List.replicate count 0)) k
        | .device .full => .done (.ok (List.replicate count 0)) k
        | .device .noise => .done (.ok ((List.range count).map fun i => (i * i * 7 + 3).toUInt8)) k
        | .directory _ _ => .done (.error .isDirectory) k
        | _ => .done (.ok []) k

/-- Writing to a pipe that nobody reads ends a process, unless it ignores that or takes it. -/
def writeToNobody (k : Kernel) (p : Process) : Attempt (Outcome Nat) :=
  if p.ignored.contains Signal.pipe then .done (.error .brokenPipe) k
  else if p.taken.contains Signal.pipe then
    .done (.error .brokenPipe) (k.deliver p Signal.pipe)
  else .replaced (k.finish p (.signaled Signal.pipe))

def writeTo (k : Kernel) (p : Process) (index : Nat) (bytes : Bytes) : Attempt (Outcome Nat) :=
  match k.opened[index]? with
  | none => .done (.error .badDescriptor) k
  | some o =>
    if !o.writes then .done (.error .badDescriptor) k
    else
      match o.endpoint with
      | .readEnd _ => .done (.error .badDescriptor) k
      | .writeEnd n =>
        if !k.isUsed (.readEnd n) then k.writeToNobody p
        else
          let room := Pipe.capacity - (k.pipe n).size
          if room = 0 then .blocked
          else
            let bytes := bytes.take room
            .done (.ok bytes.length) (k.setPipe n ((k.pipe n).push bytes))
      | .node n =>
        match k.files.content n with
        | .file data =>
          let offset := if o.appends then data.size else o.offset
          let added : ByteArray := ⟨bytes.toArray⟩
          let data := if offset = data.size then data ++ added
            else Files.overwrite data offset added
          let o := { o with offset := offset + bytes.length }
          .done (.ok bytes.length)
            { k with
              files := k.files.setData k.now n data
              opened := k.opened.setIfInBounds index o }
        | .device .full => .done (.error .noSpace) k
        | _ => .done (.ok bytes.length) k

/-- Whether another process waits for the other end of a named pipe. -/
def isAwaited (k : Kernel) (p : Process) (n : Nat) (reads : Bool) : Bool :=
  k.processes.any fun q =>
    q.number != p.number && q.ended.isNone &&
      match q.task with
      | .ask (.open path how _ _) _ =>
        how.reads == reads && (k.files.resolve q.cwd path).toOption == some n
      | _ => false

/-- The text of a fact about a process. -/
def factText (k : Kernel) (p : Process) : Fact → Bytes
  | .status =>
    ("Name:\t" ++ p.name ++ "\nState:\tR (running)\nPid:\t" ++ toString p.number ++ "\nPPid:\t" ++
      toString p.parent ++ "\n").toUTF8.toList
  | .call => p.call.flatMap (· ++ [0])
  | .name => (p.name ++ "\n").toUTF8.toList
  | .image => (k.files.pathOfFile (p.image.getD 0)).toUTF8.toList
  | .directory => (k.files.pathOf k.files.nodes.size p.cwd []).toUTF8.toList

def openNode (k : Kernel) (p : Process) (n : Nat) (how : Opening) (least : Nat) :
    Attempt (Outcome Nat) :=
  let opened (e : Endpoint) : Opened :=
    { endpoint := e, reads := how.reads, writes := how.writes, appends := how == .append }
  let give (k : Kernel) (e : Endpoint) : Attempt (Outcome Nat) :=
    let (k, _, d) := k.give p (opened e) least
    .done (.ok d) k
  match k.files.content n with
  | .pipe q =>
    if how == .both then give k (.node n)
    else
      let other : Endpoint := if how.reads then .writeEnd q else .readEnd q
      if k.isUsed other || k.isAwaited p n (!how.reads) then
        give k (if how.reads then .readEnd q else .writeEnd q)
      else .blocked
  | .descriptor d =>
    match (p.descriptors.lookup d).bind k.endpoint? with
    | none => .done (.error .noEntry) k
    | some (.node m) =>
      let k := match how, k.files.content m with
        | .truncate, .file _ => { k with files := k.files.setData k.now m .empty }
        | _, _ => k
      give k (.node m)
    | some (.readEnd q) => give k (if how.reads then .readEnd q else .writeEnd q)
    | some (.writeEnd q) => give k (if how.reads then .readEnd q else .writeEnd q)
  | .file _ =>
    let k := if how == .truncate then { k with files := k.files.setData k.now n .empty } else k
    give k (.node n)
  | .device .terminal => .done (.error .noDevice) k
  | .fact .image => give k (.node (p.image.getD n))
  | .fact .directory => give k (.node p.cwd)
  | .fact f =>
    let content : Content := .file ⟨(k.factText p f).toArray⟩
    let nodes := k.files.nodes.push { content, mode := 0o444, names := 0 }
    give { k with files := ⟨nodes⟩ } (.node (nodes.size - 1))
  | _ => give k (.node n)

def openFile (k : Kernel) (p : Process) (path : String) (how : Opening) (mode least : Nat) :
    Attempt (Outcome Nat) :=
  let permitted := mode &&& (0o7777 ^^^ p.mask)
  let made : Files.Result (Files × Nat) :=
    match how with
    | .read => do
      let n ← k.files.resolve p.cwd path
      k.files.demand n Files.reading
      .ok (k.files, n)
    | .present => do
      let n ← k.files.resolve p.cwd path
      if k.files.isDirectory n then .error .isDirectory
      k.files.demand n Files.writing
      .ok (k.files, n)
    | .new => do
      match k.files.lookup false p.cwd path with
      | .ok _ => .error .exists
      | .error _ => k.files.newFile k.now p.cwd path permitted
    | _ => do
      let (files, n) ← k.files.forWriting k.now permitted Files.longestChain p.cwd path
      if how == .both && n < k.files.nodes.size then k.files.demand n Files.reading
      .ok (files, n)
  match made with
  | .ok (files, n) =>
    if how.writes && k.isRun n then .done (.error .textBusy) k
    else openNode { k with files } p n how least
  | .error e => .done (.error e) k

/-- Where a file is read or written next; pipes and devices have no such place. -/
def moveBack (k : Kernel) (index count : Nat) : Attempt (Outcome Unit) :=
  match k.opened[index]? with
  | some o =>
    match o.endpoint with
    | .node n =>
      match k.files.content n with
      | .file _ =>
        let o := { o with offset := o.offset - count }
        .done (.ok ()) { k with opened := k.opened.setIfInBounds index o }
      | _ => .done (.error .illegalSeek) k
    | _ => .done (.error .illegalSeek) k
  | none => .done (.error .badDescriptor) k

def resize (k : Kernel) (index size : Nat) : Attempt (Outcome Unit) :=
  match k.endpoint? index with
  | some (.node n) =>
    match k.files.content n with
    | .file data =>
      .done (.ok ()) { k with files := k.files.setData k.now n (Files.resized data size) }
    | _ => .done (.error .invalid) k
  | _ => .done (.error .invalid) k

def readLink (k : Kernel) (p : Process) (path : String) : Outcome String := do
  let n ← k.files.lookup false p.cwd path
  match k.files.content n with
  | .link target => .ok target
  | .fact f =>
    if f == .image || f == .directory then .ok (Utf8.lossy (k.factText p f)) else .error .invalid
  | .descriptor d =>
    match (p.descriptors.lookup d).bind k.endpoint? with
    | some (.node n) =>
      .ok (if k.files.isDirectory n then k.files.pathOf k.files.nodes.size n []
        else k.files.pathOfFile n)
    | some (.readEnd q) => .ok ("pipe:[" ++ toString (1000000 + q) ++ "]")
    | some (.writeEnd q) => .ok ("pipe:[" ++ toString (1000000 + q) ++ "]")
    | none => .error .noEntry
  | _ => .error .invalid

/-- The names that a process finds in a directory. -/
def namesFor (k : Kernel) (p : Process) (n : Nat) : List String :=
  (k.files.listing n).filter fun name =>
    match (k.files.child n name).toOption.map k.files.content with
    | some (.descriptor d) => (p.descriptors.lookup d).isSome
    | _ => true

def makePipe (k : Kernel) (p : Process) (path : String) (mode : Nat) : Attempt (Outcome Unit) :=
  let (k', n) := k.newPipe
  let made := k.files.create p.cwd path fun _ =>
    { content := .pipe n, mode := mode &&& (0o7777 ^^^ p.mask), changed := k.now }
  match made with
  | .ok (files, _) => .done (.ok ()) { k' with files }
  | .error e => .done (.error e) k

def setTime (k : Kernel) (p : Process) (path : String) (time : Option Int) :
    Files.Result Files := do
  let n ← k.files.resolve p.cwd path
  let node := k.files.node n
  if node.system then
    if time.isSome then .error .notPermitted else k.files.demand n Files.writing
  .ok (k.files.setNode n { node with changed := time.getD k.now })

/-! ### Processes -/

def waitFor (k : Kernel) (p : Process) (which : Option Nat) (interruptible : Bool) :
    Attempt (Outcome (Nat × Status)) :=
  let children := k.processes.filter fun q =>
    q.parent = p.number && (which.isNone || which = some q.number)
  if children.isEmpty then .done (.error .noChild) k
  else if interruptible && !p.arrived.isEmpty then .done (.error .interrupted) k
  else
    match children.findSome? fun q => q.ended.map (q.number, ·) with
    | some (number, status) =>
      .done (.ok (number, status))
        { k with processes := k.processes.filter (·.number != number) }
    | none => .blocked

/-- Waits until a child has ended or is stopped; no status tells that it is stopped. -/
def waitChange (k : Kernel) (p : Process) (number : Nat) : Attempt (Outcome (Option Status)) :=
  match k.waitFor p (some number) false with
  | .done (.ok (_, status)) k => .done (.ok (some status)) k
  | .done (.error e) k => .done (.error e) k
  | .replaced k => .replaced k
  | .blocked =>
    if ((k.process? number).bind (·.stopped)).isSome then .done (.ok none) k else .blocked

/-- Makes a request of a process. -/
def perform (programs : Programs) (k : Kernel) (p : Process) :
    (r : Request) → Attempt r.Reply
  | .yield => .done () k
  | .read d count =>
    match p.descriptors.lookup d with
    | none => .done (.error .badDescriptor) k
    | some index => k.readFrom index count
  | .write d bytes =>
    match p.descriptors.lookup d with
    | none => .done (.error .badDescriptor) k
    | some index => k.writeTo p index bytes
  | .open path how mode least => k.openFile p path how mode least
  | .close d =>
    match p.descriptors.lookup d with
    | none => .done (.error .badDescriptor) k
    | some _ => .done (.ok ()) (k.update { p with descriptors := without d p.descriptors })
  | .copy source target =>
    match p.descriptors.lookup source with
    | none => .done (.error .badDescriptor) k
    | some index => .done (.ok ()) (k.update (add p target index 0))
  | .copyFrom source least =>
    match p.descriptors.lookup source with
    | none => .done (.error .badDescriptor) k
    | some index =>
      let d := freeDescriptor p least
      .done (.ok d) (k.update (add p d index least))
  | .pipe =>
    let (k, n) := k.newPipe
    let (k, p, r) := k.give p { endpoint := .readEnd n, writes := false } 0
    let (k, _, w) := k.give p { endpoint := .writeEnd n, reads := false } 0
    .done (r, w) k
  | .back d count =>
    match p.descriptors.lookup d with
    | none => .done (.error .badDescriptor) k
    | some index => k.moveBack index count
  | .resize d size =>
    match p.descriptors.lookup d with
    | none => .done (.error .badDescriptor) k
    | some index => k.resize index size
  | .descriptors => .done (p.descriptors.map (·.1)) k
  | .exec path args env =>
    match load programs k p.cwd deepest path args env with
    | .ok loaded => .replaced (k.update (replace p loaded path))
    | .error e => .done e k
  | .wait which interruptible => k.waitFor p which interruptible
  | .waitChange number => k.waitChange p number
  | .ended number => .done ((k.process? number).bind (·.ended)) k
  | .stopOf number => .done ((k.process? number).bind (·.stopped)) k
  | .kill number signal =>
    match k.signal number signal with
    | .error e => .done (.error e) k
    | .ok k =>
      match (k.process? p.number).bind (·.ended) with
      | some _ => .replaced k
      | none => .done (.ok ()) k
  | .killGroup group signal =>
    match k.signalGroup p.number (group.getD p.group) signal with
    | .error e => .done (.error e) k
    | .ok k =>
      match (k.process? p.number).bind (·.ended) with
      | some _ => .replaced k
      | none => .done (.ok ()) k
  | .join number group =>
    match k.join p number group with
    | .error e => .done (.error e) k
    | .ok k => .done (.ok ()) k
  | .handle taken ignored => .done () (k.update { p with taken, ignored })
  | .ignored => .done p.ignored k
  | .pending =>
    match p.arrived with
    | [] => .done none k
    | s :: ss => .done (some s) (k.update { p with arrived := ss })
  | .clock => .done k.clock k
  | .sleepUntil time => if k.clock < time then .blocked else .done () k
  | .self => .done p.number k
  | .parent => .done p.parent k
  | .mask next => .done p.mask (k.update { p with mask := next.getD p.mask })
  | .stat path follows => .done (k.stat p path follows) k
  | .statOpen d => .done (k.statOpen p d) k
  | .makeDirectory path mode =>
    k.onFiles (k.files.makeDirectory k.now p.cwd path (mode &&& (0o7777 ^^^ p.mask)))
  | .removeDirectory path => k.onFiles (k.files.removeDirectory p.cwd path)
  | .makeLink target path => k.onFiles (k.files.makeLink k.now p.cwd target path)
  | .readLink path => .done (k.readLink p path) k
  | .addName source path => k.onFiles (k.files.addName p.cwd source path)
  | .makePipe path mode => k.makePipe p path mode
  | .unlink path => k.onFiles (k.files.unlink p.cwd path)
  | .move source target => k.onFiles (k.files.move p.cwd source target)
  | .setMode path mode => k.onFiles (k.files.setMode p.cwd path mode)
  | .setTime path time => k.onFiles (k.setTime p path time)
  | .enter path =>
    match k.files.resolve p.cwd path with
    | .ok n =>
      if !k.files.isDirectory n then .done (.error .notDirectory) k
      else if !k.files.allows n Files.searching then .done (.error .accessDenied) k
      else .done (.ok ()) (k.update { p with cwd := n })
    | .error e => .done (.error e) k
  | .fullPath path =>
    .done (do
      let n ← k.files.resolve p.cwd path
      if (k.files.node n).names = 0 then .error .noEntry
      .ok (k.files.pathOf k.files.nodes.size n [])) k
  | .list path =>
    .done (do
      let n ← k.files.resolve p.cwd path
      if !k.files.isDirectory n then .error .notDirectory
      k.files.demand n Files.reading
      .ok (k.namesFor p n)) k

/-- A process with a new number that runs a program. -/
def start (k : Kernel) (parent : Nat) (loaded : Loaded) (path : String)
    (descriptors : List (Nat × Nat)) (cwd : Nat) : Kernel × Nat :=
  let number := k.nextNumber
  let p : Process := { number, parent, task := loaded.task, descriptors, cwd }
  ({ k with processes := k.processes ++ [replace p loaded path], nextNumber := number + 1 }, number)

/-- A copy of a process with a task of its own; signals that the process takes have no effect
on the copy until it says so. -/
def fork (k : Kernel) (p : Process) (task : Task) : Kernel × Nat :=
  let number := k.nextNumber
  let copy := { p with number, parent := p.number, task, arrived := [] }
  ({ k with processes := k.processes ++ [copy], nextNumber := number + 1 }, number)

/-- One step of a process; none if it has to wait. -/
def stepProcess (programs : Programs) (k : Kernel) (p : Process) : Option Kernel :=
  if p.ended.isSome || p.stopped.isSome then none
  else
    match p.task with
    | .exit code => some (k.finish p (.exited (code % 256)))
    | .fork child next =>
      let (k, number) := k.fork p child
      some (k.update { p with task := next number })
    | .ask r next =>
      match k.perform programs p r with
      | .blocked => none
      | .replaced k => some k
      | .done reply k =>
        match k.process? p.number with
        | none => some k
        | some q => some (k.update { q with task := next reply })

/-- Runs one process until it has to wait; `fuel` bounds the steps. -/
def runProcess (programs : Programs) (number : Nat) : Nat → Kernel → Bool → Kernel × Bool
  | 0, k, moved => (k, moved)
  | fuel + 1, k, moved =>
    match (k.process? number).bind (k.stepProcess programs) with
    | none => (k, moved)
    | some k => runProcess programs number fuel k true

/-- Gives each process a turn. -/
def round (programs : Programs) (k : Kernel) : Kernel × Bool :=
  (k.processes.map (·.number)).foldl
    (fun (k, moved) number => runProcess programs number 100000 k moved) (k, false)

/-- Runs all processes until none can go on; `fuel` bounds the rounds. -/
def settle (programs : Programs) : Nat → Kernel → Kernel
  | 0, k => k
  | fuel + 1, k =>
    match k.round programs with
    | (k, true) => settle programs fuel k
    | (k, false) => k

/-- When a sleeping process wakes next. -/
def nextWaking (k : Kernel) : Option Nat :=
  let times := k.processes.filterMap fun p =>
    match p.ended, p.stopped, p.task with
    | none, none, .ask (.sleepUntil t) _ => some t
    | _, _, _ => none
  times.foldl (fun least t => some (match least with | some l => min l t | none => t)) none

end Kernel

end CellRunner.Machine
