import CellRunner.Fault.System

/-!
# A tree of files

Files are numbered nodes; a directory gives names to nodes, and a node without a name lives
on for those who still use it. There is one user, who owns all that does not belong to the
system. The permission bits of the owner, or else those of all others, tell what the user
may do.
-/

set_option autoImplicit false

namespace CellRunner.Machine

inductive Device where
  /-- takes everything and holds nothing -/
  | void
  /-- an endless row of zero bytes -/
  | zeros
  /-- an endless row of zero bytes that has no room for more -/
  | full
  /-- an endless row of bytes -/
  | noise
  /-- the terminal, which there is not -/
  | terminal
  deriving DecidableEq, Repr

/-- What a process may learn of itself from a file. -/
inductive Fact where
  | status
  /-- its arguments -/
  | call
  | name
  /-- the program it runs -/
  | image
  | directory
  deriving DecidableEq, Repr

inductive Content where
  | file (data : ByteArray)
  | directory (parent : Nat) (entries : List (String × Nat))
  /-- stands for another path -/
  | link (target : String)
  | device (device : Device)
  /-- a pipe with a name -/
  | pipe (number : Nat)
  /-- what a descriptor of the process itself leads to -/
  | descriptor (number : Nat)
  /-- a fact about the process itself -/
  | fact (fact : Fact)

structure Node where
  content : Content
  mode : Nat
  /-- when the contents changed, in microseconds -/
  changed : Int := 0
  /-- how many names lead here; none lead to what was removed -/
  names : Nat := 1
  /-- belongs to the system and not to the user -/
  system : Bool := false

/-- The nodes by number; the root directory has number zero. -/
structure Files where
  nodes : Array Node := #[{ content := .directory 0 [], mode := 0o755 }]

namespace Files

abbrev Result (α : Type) := Except SystemError α

def root : Nat := 0

def node (fs : Files) (n : Nat) : Node := fs.nodes.getD n { content := .device .void, mode := 0 }

def content (fs : Files) (n : Nat) : Content := (fs.node n).content

def isDirectory (fs : Files) (n : Nat) : Bool :=
  match fs.content n with
  | .directory _ _ => true
  | _ => false

def link? (fs : Files) (n : Nat) : Option String :=
  match fs.content n with
  | .link target => some target
  | _ => none

/-- How a file is used; the bits of a permission. -/
def reading : Nat := 4

def writing : Nat := 2

/-- running a file, or looking for a name in a directory -/
def searching : Nat := 1

/-- What the user may do with a node, as bits. -/
def rights (fs : Files) (n : Nat) : Nat :=
  let node := fs.node n
  if node.system then node.mode % 8 else node.mode / 64 % 8

def allows (fs : Files) (n use : Nat) : Bool := fs.rights n &&& use = use

/-- Refuses a use that the permission bits do not allow. -/
def demand (fs : Files) (n use : Nat) : Result Unit :=
  if fs.allows n use then .ok () else .error .accessDenied

def longestName : Nat := 255

/-- The node that a name has in a directory. -/
def child (fs : Files) (dir : Nat) (name : String) : Result Nat :=
  match fs.content dir with
  | .directory parent entries =>
    if !fs.allows dir searching then .error .accessDenied
    else if name = "." then .ok dir
    else if name = ".." then .ok parent
    else if name.utf8ByteSize > longestName then .error .nameTooLong
    else
      match entries.lookup name with
      | some n => .ok n
      | none => .error .noEntry
  | _ => .error .notDirectory

/-- The names in a path, from left to right. -/
def names (path : String) : List String := (path.splitOn "/").filter (!·.isEmpty)

/-- Where a path starts. -/
def origin (cwd : Nat) (path : String) : Nat := if path.startsWith "/" then root else cwd

def longestPath : Nat := 4095

/-- How many links one path may lead through. -/
def longestChain : Nat := 40

/-- A path that can lead somewhere. -/
def checked (path : String) : Result Unit :=
  if path.isEmpty then .error .noEntry
  else if path.utf8ByteSize > longestPath then .error .nameTooLong
  else .ok ()

/-- The node that names lead to from a directory, through at most `room` links; a link that
the last name leads to is followed only if `follows`. -/
def walk (fs : Files) (follows : Bool) (room dir : Nat) : List String → Result Nat
  | [] => .ok dir
  | name :: rest =>
    match fs.child dir name with
    | .error e => .error e
    | .ok n =>
      match fs.link? n with
      | none => fs.walk follows room n rest
      | some target =>
        if rest.isEmpty && !follows then .ok n
        else if _h : room = 0 then .error .tooManyLinks
        else fs.walk follows (room - 1) (origin dir target) (Files.names target ++ rest)
termination_by ns => (room, ns.length)
decreasing_by
  · exact Prod.Lex.right _ (by simp)
  · exact Prod.Lex.left _ _ (by omega)

/-- The node that a path leads to; a path that ends in a slash leads to a directory only. -/
def lookup (fs : Files) (follows : Bool) (cwd : Nat) (path : String) : Result Nat := do
  checked path
  let slash := path.endsWith "/"
  let n ← fs.walk (follows || slash) longestChain (origin cwd path) (names path)
  if slash && !fs.isDirectory n then .error .notDirectory else .ok n

def resolve (fs : Files) (cwd : Nat) (path : String) : Result Nat := fs.lookup true cwd path

/-- The directory that a path's last name stands in, and that name. -/
def place (fs : Files) (cwd : Nat) (path : String) : Result (Nat × String) := do
  checked path
  let ns := names path
  let dir ← fs.walk true longestChain (origin cwd path) ns.dropLast
  match ns.getLast? with
  | none => .error .exists
  | some name =>
    if !fs.isDirectory dir then .error .notDirectory
    else if name.utf8ByteSize > longestName then .error .nameTooLong
    else .ok (dir, name)

def setNode (fs : Files) (n : Nat) (x : Node) : Files := ⟨fs.nodes.setIfInBounds n x⟩

def setContent (fs : Files) (n : Nat) (c : Content) : Files :=
  fs.setNode n { fs.node n with content := c }

/-- Changes the contents of a file at some time. -/
def setData (fs : Files) (now : Int) (n : Nat) (data : ByteArray) : Files :=
  fs.setNode n { fs.node n with content := .file data, changed := now }

def data (fs : Files) (n : Nat) : ByteArray :=
  match fs.content n with
  | .file d => d
  | _ => .empty

/-- Changes the names in a directory. -/
def rename (fs : Files) (dir : Nat) (change : List (String × Nat) → List (String × Nat)) : Files :=
  match fs.content dir with
  | .directory parent entries => fs.setContent dir (.directory parent (change entries))
  | _ => fs

def add (fs : Files) (dir : Nat) (name : String) (x : Node) : Files × Nat :=
  let n := fs.nodes.size
  (Files.rename ⟨fs.nodes.push x⟩ dir ((name, n) :: ·), n)

def withoutName (name : String) (entries : List (String × Nat)) : List (String × Nat) :=
  entries.filter (·.1 != name)

/-- Whether a name may be added to a directory. -/
def mayAdd (fs : Files) (dir : Nat) (name : String) : Result Unit :=
  match fs.child dir name with
  | .ok _ => .error .exists
  | .error .accessDenied => .error .accessDenied
  | .error _ =>
    if (fs.node dir).names = 0 then .error .noEntry else fs.demand dir (writing + searching)

/-- The mark of a directory in which everybody may remove only what is their own. -/
def sticky : Nat := 0o1000

/-- Whether the name of a node may be taken from a directory. -/
def mayTake (fs : Files) (dir n : Nat) : Result Unit := do
  fs.demand dir (writing + searching)
  let d := fs.node dir
  if d.system && d.mode &&& sticky != 0 && (fs.node n).system then .error .notPermitted else .ok ()

/-- A new node under a name that is not taken; only a directory's path may end in a slash. -/
def create (fs : Files) (cwd : Nat) (path : String) (x : Nat → Node) : Result (Files × Nat) := do
  let (dir, name) ← fs.place cwd path
  fs.mayAdd dir name
  .ok (fs.add dir name (x dir))

def emptyFile (now : Int) (mode : Nat) : Node :=
  { content := .file .empty, mode, changed := now }

def newFile (fs : Files) (now : Int) (cwd : Nat) (path : String) (mode : Nat) :
    Result (Files × Nat) := do
  let (dir, name) ← fs.place cwd path
  if path.endsWith "/" then .error .isDirectory
  fs.mayAdd dir name
  .ok (fs.add dir name (emptyFile now mode))

def makeDirectory (fs : Files) (now : Int) (cwd : Nat) (path : String) (mode : Nat) :
    Result Files :=
  (fs.create cwd path fun dir => { content := .directory dir [], mode, changed := now }).map (·.1)

def makeLink (fs : Files) (now : Int) (cwd : Nat) (target path : String) : Result Files :=
  if target.isEmpty then .error .noEntry
  else (fs.create cwd path fun _ =>
    { content := .link target, mode := 0o777, changed := now }).map (·.1)

/-- The node of a file to be written; it is made if its name is not taken. `room` bounds the
links that lead to a missing file. -/
def forWriting (fs : Files) (now : Int) (mode : Nat) :
    Nat → Nat → String → Result (Files × Nat)
  | 0, _, _ => .error .tooManyLinks
  | room + 1, cwd, path =>
    match fs.resolve cwd path with
    | .ok n =>
      if fs.isDirectory n then .error .isDirectory
      else do
        fs.demand n writing
        .ok (fs, n)
    | .error .noEntry => do
      let (dir, name) ← fs.place cwd path
      match (fs.child dir name).toOption.bind fs.link? with
      | some target => forWriting fs now mode room dir target
      | none => fs.newFile now cwd path mode
    | .error e => .error e

/-- One name less leads to a node. -/
def lessOne (fs : Files) (n : Nat) : Files :=
  fs.setNode n { fs.node n with names := (fs.node n).names - 1 }

def unlink (fs : Files) (cwd : Nat) (path : String) : Result Files := do
  let n ← fs.lookup false cwd path
  let isDirectory := fs.isDirectory n
  match fs.place cwd path with
  | .error e => .error (if isDirectory then .isDirectory else e)
  | .ok (dir, name) =>
    fs.mayTake dir n
    if isDirectory then .error .isDirectory
    else .ok ((fs.rename dir (withoutName name)).lessOne n)

/-- Another name for a node. -/
def addName (fs : Files) (cwd : Nat) (source path : String) : Result Files := do
  let n ← fs.lookup false cwd source
  let (dir, name) ← fs.place cwd path
  if (fs.child dir name).toOption.isSome then .error .exists
  if (fs.node n).system then .error .notPermitted
  fs.mayAdd dir name
  if fs.isDirectory n then .error .notPermitted
  let fs := fs.rename dir ((name, n) :: ·)
  .ok (fs.setNode n { fs.node n with names := (fs.node n).names + 1 })

def entries (fs : Files) (n : Nat) : List (String × Nat) :=
  match fs.content n with
  | .directory _ es => es
  | _ => []

def removeDirectory (fs : Files) (cwd : Nat) (path : String) : Result Files := do
  let n ← fs.lookup false cwd path
  let last := (names path).getLastD ""
  if last = "." then .error .invalid
  else if last = ".." then .error .notEmpty
  else if n = root then .error .busy
  else
    let (dir, name) ← fs.place cwd path
    fs.mayTake dir n
    if !fs.isDirectory n then .error .notDirectory
    else if !(fs.entries n).isEmpty then .error .notEmpty
    else .ok ((fs.rename dir (withoutName name)).lessOne n)

/-- The directories above a directory, itself included; `fuel` bounds their number. -/
def above (fs : Files) : Nat → Nat → List Nat
  | 0, n => [n]
  | fuel + 1, n =>
    match fs.content n with
    | .directory parent _ => if n = root then [n] else n :: fs.above fuel parent
    | _ => [n]

/-- Gives a node another name, taking the place of what had that name. -/
def move (fs : Files) (cwd : Nat) (source target : String) : Result Files := do
  let n ← fs.lookup false cwd source
  let (dir, name) ← fs.place cwd source
  let (dir', name') ← fs.place cwd target
  let special (s : String) : Bool := s = "." || s = ".."
  if special name || special name' then .error .busy
  if (fs.above fs.nodes.size dir').contains n then .error .invalid
  if target.endsWith "/" && !fs.isDirectory n then .error .notDirectory
  let old := fs.child dir' name'
  if old.toOption == some n then .ok fs
  else
    fs.mayTake dir n
    let fs ← match old with
      | .error _ => do
        fs.mayAdd dir' name'
        .ok fs
      | .ok m => do
        fs.mayTake dir' m
        if fs.isDirectory m && !fs.isDirectory n then .error .isDirectory
        else if !fs.isDirectory m && fs.isDirectory n then .error .notDirectory
        else if !(fs.entries m).isEmpty then .error .notEmpty
        else .ok ((fs.rename dir' (withoutName name')).lessOne m)
    if fs.isDirectory n && dir != dir' then fs.demand n writing
    let fs := fs.rename dir (withoutName name)
    let fs := fs.rename dir' ((name', n) :: ·)
    match fs.content n with
    | .directory _ es => .ok (fs.setContent n (.directory dir' es))
    | _ => .ok fs

def setMode (fs : Files) (cwd : Nat) (path : String) (mode : Nat) : Result Files := do
  let n ← fs.resolve cwd path
  if (fs.node n).system then .error .notPermitted
  .ok (fs.setNode n { fs.node n with mode })

/-- All bytes of a file. -/
def readAll (fs : Files) (cwd : Nat) (path : String) : Result ByteArray := do
  let n ← fs.resolve cwd path
  fs.demand n reading
  if fs.isDirectory n then .error .isDirectory else .ok (fs.data n)

/-- Puts bytes in place of those from an offset on; a gap before them is filled with zeros. -/
def overwrite (data : ByteArray) (offset : Nat) (bytes : ByteArray) : ByteArray :=
  let front := data.extract 0 offset
  let gap : ByteArray := ⟨Array.replicate (offset - front.size) 0⟩
  front ++ gap ++ bytes ++ data.extract (offset + bytes.size) data.size

/-- The first bytes of a file, filled up with zeros. -/
def resized (data : ByteArray) (size : Nat) : ByteArray :=
  let front := data.extract 0 size
  front ++ ⟨Array.replicate (size - front.size) 0⟩

/-- The names in a directory, sorted. -/
def listing (fs : Files) (n : Nat) : List String :=
  ((fs.entries n).map (·.1)).mergeSort fun a b => a ≤ b

/-- The name and the directory of a node, if it has them. -/
def placeOf? (fs : Files) (n : Nat) : Option (Nat × String) :=
  (List.range fs.nodes.size).findSome? fun dir =>
    ((fs.entries dir).find? (·.2 == n)).map fun e => (dir, e.1)

/-- The path of a directory from the root; `fuel` bounds its depth. -/
def pathOf (fs : Files) : Nat → Nat → List String → String
  | 0, _, out => "/" ++ String.intercalate "/" out
  | fuel + 1, n, out =>
    match fs.content n with
    | .directory parent _ =>
      if n = root then "/" ++ String.intercalate "/" out
      else
        match (fs.entries parent).find? (·.2 == n) with
        | some (name, _) => fs.pathOf fuel parent (name :: out)
        | none => "/" ++ String.intercalate "/" out
    | _ => "/" ++ String.intercalate "/" out

/-- The path of a file from the root. -/
def pathOfFile (fs : Files) (n : Nat) : String :=
  match fs.placeOf? n with
  | some (dir, name) => fs.pathOf fs.nodes.size dir [name]
  | none => "(deleted)"

end Files

end CellRunner.Machine
