import CellRunner.Machine.Schedule
import CellRunner.World

/-!
# A world made of a kernel
-/

set_option autoImplicit false

namespace CellRunner.Machine

structure System where
  kernel : Kernel := {}
  /-- what the standard input of the owner still holds -/
  input : Bytes := []
  /-- the supervised processes -/
  ends : List Ends := []
  /-- the number of temporary files made so far -/
  made : Nat := 0
  /-- the directory that relative paths start in -/
  cwd : Nat := 0
  cwdPath : String := "/"

namespace System

def tempDir : String := "/tmp"

/-- Where programs without a slash in their name are looked for. -/
def searchPath : List String :=
  ["/usr/local/sbin", "/usr/local/bin", "/usr/sbin", "/usr/bin", "/sbin", "/bin"]

def hasNul (s : String) : Bool := s.contains (Char.ofNat 0)

def files (s : System) : Files := s.kernel.files

def setFiles (s : System) (fs : Files) : System :=
  { s with kernel := { s.kernel with files := fs } }

def lookup (s : System) (path : String) : Except SystemError FileKind :=
  if hasNul path then .error .invalid
  else
    (s.files.resolve s.cwd path).map fun n => if s.files.isDirectory n then .directory else .other

def read (s : System) (path : String) : Except IoFault Bytes :=
  if hasNul path then .error .nulInName
  else
    match s.files.readAll s.cwd path with
    | .ok data => .ok data.toList
    | .error e => .error (.system e)

/-- A name in a directory. -/
def join (dir name : String) : String :=
  if dir.isEmpty || dir.endsWith "/" then dir ++ name else dir ++ "/" ++ name

def absolute (s : System) (path : String) : String :=
  if path.startsWith "/" then path else join s.cwdPath path

/-! ### A machine before a program starts on it -/

/-- Goes on with a changed tree of files, or with the one before if the change is refused. -/
def change (s : System) (r : Files.Result Files) : System :=
  match r with
  | .ok fs => s.setFiles fs
  | .error _ => s

def makeDirectory (s : System) (path : String) (mode : Nat) : System :=
  s.change (s.files.makeDirectory s.kernel.now s.cwd path mode)

/-- The directories that a path leads through, outermost first. -/
def parents (path : String) : List String :=
  let front := if path.startsWith "/" then "/" else ""
  let names := (Files.names path).dropLast
  (List.range names.length).map fun n => front ++ String.intercalate "/" (names.take (n + 1))

/-- Makes the directories that a path leads through, as far as they are missing. -/
def makeParents (s : System) (path : String) : System :=
  (parents path).foldl (fun s dir => s.makeDirectory dir 0o755) s

/-- A file with contents and permission bits. -/
def makeFile (s : System) (path : String) (data : ByteArray) (mode : Nat) : System :=
  s.change <| do
    let (fs, n) ← s.files.forWriting s.kernel.now mode Files.longestChain s.cwd path
    .ok ((fs.setData s.kernel.now n data).setNode n
      { content := .file data, mode, changed := s.kernel.now })

/-- A node that is no file and no directory. -/
def makeSpecial (s : System) (path : String) (content : Content) (mode : Nat) : System :=
  s.change ((s.files.create s.cwd path fun _ => { content, mode }).map (·.1))

/-- Relative paths start in a directory from now on. -/
def enter (s : System) (path : String) : System :=
  match s.files.resolve s.cwd path with
  | .ok n => { s with cwd := n, cwdPath := s.absolute path }
  | .error _ => s

/-! ### Looking at files -/

def isThere (s : System) (path : String) : Bool := (s.files.resolve s.cwd path).toOption.isSome

def mode? (s : System) (path : String) : Option Nat :=
  (s.files.resolve s.cwd path).toOption.map fun n => (s.files.node n).mode

/-- The names in a directory, sorted; none if it is not there. -/
def names (s : System) (path : String) : List String :=
  match s.files.resolve s.cwd path with
  | .ok n => s.files.listing n
  | .error _ => []

/-- Removes a file; tells whether there was one. -/
def unlink (s : System) (path : String) : Bool × System :=
  match s.files.unlink s.cwd path with
  | .ok fs => (true, s.setFiles fs)
  | .error _ => (false, s)

/-! ### Requests -/

def readInput (s : System) : Except IoFault Bytes × System := (.ok s.input, { s with input := [] })

/-- Six letters or digits that tell files apart. -/
def distinct (n : Nat) : String :=
  let digits := "ABCDEFGHIJKLMNOPQRSTUVWXYZabcdefghijklmnopqrstuvwxyz0123456789".toList
  String.ofList ((List.range 6).map fun i => digits.getD (n / Nat.pow 62 i % 62) 'A')

def onPath {α : Type} (path : String) (r : Files.Result α) : Except IoFault α :=
  match r with
  | .ok a => .ok a
  | .error e => .error (.atPath (.system e) path)

def create (s : System) (dir suffix : String) : Except IoFault String × System :=
  let path := s.absolute (join dir ("ckernel-" ++ distinct s.made ++ suffix))
  let s := { s with made := s.made + 1 }
  if hasNul path then (.error (.atPath .nulInName path), s)
  else
    match onPath path (s.files.newFile s.kernel.now s.cwd path 0o600) with
    | .ok (fs, _) => (.ok path, s.setFiles fs)
    | .error e => (.error e, s)

def fill (s : System) (path : String) (bytes : Bytes) : Except IoFault Unit × System :=
  match s.files.resolve s.cwd path with
  | .ok n => (.ok (), s.setFiles (s.files.setData s.kernel.now n ⟨bytes.toArray⟩))
  | .error e => (.error (.system e), s)

def remove (s : System) (path : String) : Except IoFault Unit × System :=
  match onPath path (s.files.unlink s.cwd path) with
  | .ok fs => (.ok (), s.setFiles fs)
  | .error e => (.error e, s)

def setMode (s : System) (path : String) (mode : Nat) : Except IoFault Unit × System :=
  if hasNul path then (.error .nulInName, s)
  else
    match s.files.setMode s.cwd path (mode &&& 0o7777) with
    | .ok fs => (.ok (), s.setFiles fs)
    | .error e => (.error (.system e), s)

/-- The environment that programs are started in. -/
def environment (s : System) : List (String × Bytes) :=
  [("PATH", (String.intercalate ":" searchPath).toUTF8.toList), ("LC_ALL", "C".toUTF8.toList),
    ("PWD", s.cwdPath.toUTF8.toList)]

/-- Tries the directories of the search path in turn; a program that may not be run is
reported only when no other is found. -/
def search {α : Type} (load : String → Outcome α) (name : String) :
    Option SystemError → List String → Outcome α
  | refused, [] => .error (refused.getD .noEntry)
  | refused, dir :: dirs =>
    match load (join dir name) with
    | .ok task => .ok task
    | .error .accessDenied => search load name (some .accessDenied) dirs
    | .error .noEntry => search load name refused dirs
    | .error .notDirectory => search load name refused dirs
    | .error e => .error e

/-- The task of a program, which is looked for if its name has no slash. -/
def find (programs : Programs) (s : System) (program : String) (args : List Bytes) :
    Outcome Kernel.Loaded :=
  let load (path : String) : Outcome Kernel.Loaded :=
    Kernel.load programs s.kernel s.cwd Kernel.deepest path args s.environment
  if program.isEmpty then .error .noEntry
  else if program.contains '/' then load program
  else if program.utf8ByteSize > Files.longestName then .error .nameTooLong
  else search load program none searchPath

def spawn (programs : Programs) (s : System) (program : String) (args : List String) :
    Except IoFault Nat × System :=
  if hasNul program || args.any hasNul then (.error .nulInData, s)
  else
    match find programs s program ((program :: args).map (·.toUTF8.toList)) with
    | .error e => (.error (.system e), s)
    | .ok loaded =>
      let (k, p0) := s.kernel.newPipe
      let (k, p1) := k.newPipe
      let (k, p2) := k.newPipe
      let (k, i0) := k.openAs { endpoint := .readEnd p0, writes := false }
      let (k, o0) := k.openAs { endpoint := .writeEnd p0 }
      let (k, i1) := k.openAs { endpoint := .writeEnd p1, reads := false }
      let (k, o1) := k.openAs { endpoint := .readEnd p1 }
      let (k, i2) := k.openAs { endpoint := .writeEnd p2, reads := false }
      let (k, o2) := k.openAs { endpoint := .readEnd p2 }
      let (k, number) := k.start Kernel.owner loaded program [(0, i0), (1, i1), (2, i2)] s.cwd
      let k := { k with held := [o0, o1, o2] ++ k.held }
      let ends : Ends := { process := number, input := o0, inputPipe := p0, stdoutPipe := p1,
                           stderrPipe := p2, stdoutRead := o1, stderrRead := o2 }
      (.ok number, { s with kernel := k, ends := ends :: s.ends })

def endsOf (s : System) (number : Nat) : Option Ends := s.ends.find? (·.process == number)

/-- A bound on the moves of one call. -/
def patience : Nat := 10000000

def during (programs : Programs) (s : System) (number : Nat) (state : Supervisor) :
    List Supervisor.Move × System :=
  match s.endsOf number with
  | none => ([], s)
  | some e =>
    let w := Watch.untilAnswered programs e patience { kernel := s.kernel, state }
    (w.moves.reverse, { s with kernel := w.kernel })

def elapse (programs : Programs) (s : System) (number : Nat) (state : Supervisor) (ms : Nat) :
    List Supervisor.Move × System :=
  match s.endsOf number with
  | none => ([], s)
  | some e =>
    let limit := s.kernel.clock + 1000 * ms
    let w := Watch.untilTime programs e limit patience { kernel := s.kernel, state }
    (w.moves.reverse, { s with kernel := w.kernel })

/-- Kills a process and closes the owner's ends of its pipes. -/
def release (s : System) (number : Nat) : System :=
  match s.endsOf number with
  | none => s
  | some e =>
    let k := match s.kernel.process? number with
      | some p => if p.ended.isSome then s.kernel else s.kernel.deliver p Signal.kill
      | none => s.kernel
    let held := k.held.filter fun i => i != e.input && i != e.stdoutRead && i != e.stderrRead
    { s with
      kernel := { k with held, processes := k.processes.filter (·.number != number) }
      ends := s.ends.filter (·.process != number) }

/-- Runs the processes until the clock shows `limit`; `fuel` bounds the wakings. -/
def passUntil (programs : Programs) (limit : Nat) : Nat → Kernel → Kernel
  | 0, k => k
  | fuel + 1, k =>
    let k := k.settle programs 100000
    if limit ≤ k.clock then k
    else
      match k.nextWaking with
      | some t => passUntil programs limit fuel { k with clock := max k.clock (min t limit) }
      | none => { k with clock := limit }

def pass (programs : Programs) (s : System) (ms : Nat) : System :=
  { s with kernel := passUntil programs (s.kernel.clock + 1000 * ms) patience s.kernel }

def world (programs : Programs) : World System where
  tempDir := tempDir
  lookup := lookup
  read := read
  readInput := readInput
  create := create
  fill := fill
  remove := remove
  setMode := setMode
  spawn := spawn programs
  during := during programs
  elapse := elapse programs
  release := release
  pass := pass programs

end System

end CellRunner.Machine
