import CellRunner.Machine.Files

/-!
# What a process does

A process asks the kernel for one thing after the other. A task is what it still has to do:
it has ended, or it makes a request and goes on with the reply, or it makes a copy of itself
that goes on with another task.
-/

set_option autoImplicit false

namespace CellRunner.Machine

abbrev Bytes := List UInt8

/-- How a process ended. -/
inductive Status where
  | exited (code : Nat)
  | signaled (number : Nat)
  deriving DecidableEq, Repr

/-- How a file is opened; but for `read` and `present` it is made if it is not there. -/
inductive Opening where
  | read
  | truncate
  | append
  /-- for reading and writing, from the beginning, keeping what is there -/
  | both
  /-- for writing, from the beginning, keeping what is there -/
  | write
  /-- for writing a file that may not be there before -/
  | new
  /-- for writing a file that is there -/
  | present
  deriving DecidableEq, Repr

namespace Opening

def reads (o : Opening) : Bool := o == .read || o == .both

def writes (o : Opening) : Bool := o != .read

end Opening

inductive FileType where
  | file
  | directory
  | link
  | pipe
  | device
  deriving DecidableEq, Repr

structure FileInfo where
  kind : FileType
  mode : Nat
  size : Nat
  /-- tells files apart -/
  number : Nat
  names : Nat
  changed : Int
  /-- the bits of what the user may do with it -/
  rights : Nat
  /-- belongs to the user -/
  owned : Bool
  deriving DecidableEq, Repr

namespace FileInfo

def isDirectory (i : FileInfo) : Bool := i.kind == .directory

/-- Whether the user may read, write or run it, as the bits tell. -/
def allows (i : FileInfo) (use : Nat) : Bool := i.rights &&& use = use

end FileInfo

/-- When the clock began, in microseconds since 1970. -/
def epoch : Int := 1700000000000000

inductive Request where
  /-- gives way to other processes -/
  | yield
  | read (descriptor count : Nat)
  | write (descriptor : Nat) (bytes : Bytes)
  /-- the lowest free descriptor from `least` on -/
  | open (path : String) (how : Opening) (mode least : Nat)
  | close (descriptor : Nat)
  /-- makes the second descriptor a copy of the first -/
  | copy (source target : Nat)
  /-- copies a descriptor to the lowest free one from `least` on -/
  | copyFrom (source least : Nat)
  | pipe
  /-- moves the offset of a file back -/
  | back (descriptor count : Nat)
  | resize (descriptor size : Nat)
  /-- the descriptors in use -/
  | descriptors
  /-- goes on as another program; replies only if it cannot -/
  | exec (path : String) (args : List Bytes) (environment : List (String × Bytes))
  /-- waits for a process, or for any that this one has made; a signal that is handled may
  come between -/
  | wait (process : Option Nat) (interruptible : Bool)
  /-- whether a process has ended, without waiting for it -/
  | ended (process : Nat)
  /-- the signal that has stopped a process -/
  | stopOf (process : Nat)
  /-- waits until a process has ended, or is stopped -/
  | waitChange (process : Nat)
  | kill (process signal : Nat)
  /-- sends a signal to the processes of a group; to those of the own one if none is given -/
  | killGroup (group : Option Nat) (signal : Nat)
  /-- makes a process the first one of a group, or a member of one that is there -/
  | join (process : Nat) (group : Option Nat)
  /-- which signals the process takes, and which it ignores -/
  | handle (taken ignored : List Nat)
  | ignored
  /-- a signal that was taken -/
  | pending
  | clock
  | sleepUntil (time : Nat)
  | self
  | parent
  /-- the permission bits that new files do not get, and those from now on -/
  | mask (next : Option Nat)
  | stat (path : String) (follows : Bool)
  | statOpen (descriptor : Nat)
  | makeDirectory (path : String) (mode : Nat)
  | removeDirectory (path : String)
  | makeLink (target path : String)
  | readLink (path : String)
  | addName (source path : String)
  | makePipe (path : String) (mode : Nat)
  | unlink (path : String)
  | move (source target : String)
  | setMode (path : String) (mode : Nat)
  /-- sets when a file changed; the present moment if none is given -/
  | setTime (path : String) (time : Option Int)
  | enter (path : String)
  /-- the path of a directory from the root, without links -/
  | fullPath (path : String)
  | list (path : String)

abbrev Outcome (α : Type) := Except SystemError α

/-- What the kernel replies. -/
def Request.Reply : Request → Type
  | .yield => Unit
  | .read _ _ => Outcome Bytes
  | .write _ _ => Outcome Nat
  | .open _ _ _ _ => Outcome Nat
  | .close _ => Outcome Unit
  | .copy _ _ => Outcome Unit
  | .copyFrom _ _ => Outcome Nat
  | .pipe => Nat × Nat
  | .back _ _ => Outcome Unit
  | .resize _ _ => Outcome Unit
  | .descriptors => List Nat
  | .exec _ _ _ => SystemError
  | .wait _ _ => Outcome (Nat × Status)
  | .ended _ => Option Status
  | .stopOf _ => Option Nat
  | .waitChange _ => Outcome (Option Status)
  | .kill _ _ => Outcome Unit
  | .killGroup _ _ => Outcome Unit
  | .join _ _ => Outcome Unit
  | .handle _ _ => Unit
  | .ignored => List Nat
  | .pending => Option Nat
  | .clock => Nat
  | .sleepUntil _ => Unit
  | .self => Nat
  | .parent => Nat
  | .mask _ => Nat
  | .stat _ _ => Outcome FileInfo
  | .statOpen _ => Outcome FileInfo
  | .makeDirectory _ _ => Outcome Unit
  | .removeDirectory _ => Outcome Unit
  | .makeLink _ _ => Outcome Unit
  | .readLink _ => Outcome String
  | .addName _ _ => Outcome Unit
  | .makePipe _ _ => Outcome Unit
  | .unlink _ => Outcome Unit
  | .move _ _ => Outcome Unit
  | .setMode _ _ => Outcome Unit
  | .setTime _ _ => Outcome Unit
  | .enter _ => Outcome Unit
  | .fullPath _ => Outcome String
  | .list _ => Outcome (List String)

inductive Task where
  | exit (code : Nat)
  | ask (request : Request) (next : request.Reply → Task)
  | fork (child : Task) (next : Nat → Task)

/-- A part of a task that gives a value. -/
def Prog (α : Type) := (α → Task) → Task

namespace Prog

instance : Monad Prog where
  pure a := fun k => k a
  bind p f := fun k => p fun a => f a k

def ask (r : Request) : Prog r.Reply := fun k => .ask r k

def exit {α : Type} (code : Nat) : Prog α := fun _ => .exit code

/-- The number of a new process that does `child` and then ends. -/
def fork (child : Task) : Prog Nat := fun k => .fork child k

/-- The whole task: the value is the exit code. -/
def task (p : Prog Nat) : Task := p .exit

/-- Writes all of the bytes; `fuel` bounds the number of requests. -/
def writeAll (descriptor : Nat) : Nat → Bytes → Prog (Outcome Unit)
  | 0, _ => pure (.error .brokenPipe)
  | fuel + 1, bytes =>
    if bytes.isEmpty then pure (.ok ())
    else do
      match ← ask (.write descriptor bytes) with
      | .ok n => if n ≥ bytes.length then pure (.ok ()) else writeAll descriptor fuel (bytes.drop n)
      | .error e => pure (.error e)

/-- A bound on the steps of one program. -/
def fuel : Nat := 1000000

def put (descriptor : Nat) (bytes : Bytes) : Prog (Outcome Unit) := writeAll descriptor fuel bytes

/-- All bytes up to the end. -/
def readAll (descriptor : Nat) : Nat → List Bytes → Prog (Outcome Bytes)
  | 0, _ => pure (.error .invalid)
  | fuel + 1, out => do
    match ← ask (.read descriptor 65536) with
    | .ok [] => pure (.ok out.reverse.flatten)
    | .ok bytes => readAll descriptor fuel (bytes :: out)
    | .error e => pure (.error e)

end Prog

end CellRunner.Machine
