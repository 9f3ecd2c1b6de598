import CellRunner.Machine.Kernel
import CellRunner.Supervisor.Step

/-!
# The order of moves

The owner goes first whenever it does not wait. Then the processes run until none of them
can go on, the drains empty the pipes, and the owner is woken. When nobody can move, the
clock goes on to the next moment at which somebody can.
-/

set_option autoImplicit false

namespace CellRunner.Machine

open Supervisor (Move)

/-- The pipes of a supervised process. -/
structure Ends where
  process : Nat
  /-- the open file through which the owner writes -/
  input : Nat
  inputPipe : Nat
  stdoutPipe : Nat
  stderrPipe : Nat
  /-- the open files through which the drains read -/
  stdoutRead : Nat
  stderrRead : Nat
  deriving DecidableEq, Repr

/-- A kernel with a supervised process, as its owner sees it; `moves` has the last move
first. -/
structure Watch where
  kernel : Kernel
  state : Supervisor
  moves : List Move := []
  /-- when the owner began to linger -/
  since : Option Nat := none

namespace Watch

/-- How long the owner lingers, in microseconds. -/
def patience : Nat := 200000

def make (w : Watch) (m : Move) : Watch :=
  { w with state := w.state.step m, moves := m :: w.moves }

def pipeOf (e : Ends) : Stream → Nat
  | .stdout => e.stdoutPipe
  | .stderr => e.stderrPipe

/-- Tells what came into one stream since the last look, and whether it has ended. -/
def noteStream (e : Ends) (w : Watch) (stream : Stream) : Watch :=
  let c := w.state.channel stream
  let p := w.kernel.pipe (pipeOf e stream)
  let known := c.pipe.length
  let w := if p.size > known then w.make (.writes stream (p.contents.drop known)) else w
  if !c.closed && !w.kernel.isUsed (.writeEnd (pipeOf e stream)) then w.make (.closes stream) else w

def exitCode : Status → Supervisor.ExitCode
  | .exited code => code
  | .signaled number => -number

/-- Tells how the process and its input are. -/
def noteChild (e : Ends) (w : Watch) : Watch :=
  let w := match w.state.child, (w.kernel.process? e.process).bind (·.ended) with
    | .running, some status => w.make (.exits (exitCode status))
    | _, _ => w
  if w.state.input.broken.isNone && !w.kernel.isUsed (.readEnd e.inputPipe) then
    w.make (.breaksInput .brokenPipe)
  else w

/-- The open files that the owner and the drains have no more use for. -/
def unused (e : Ends) (s : Supervisor) : List Nat :=
  (if s.input.isOpen then [] else [e.input]) ++
    (if s.stdout.drain = .stopped then [e.stdoutRead] else []) ++
    if s.stderr.drain = .stopped then [e.stderrRead] else []

def closeUnused (e : Ends) (w : Watch) : Watch :=
  let unused := unused e w.state
  { w with kernel := { w.kernel with held := w.kernel.held.filter (!unused.contains ·) } }

/-- Runs the processes as far as they go. -/
def runProcesses (programs : Programs) (e : Ends) (w : Watch) : Watch :=
  let w := closeUnused e w
  let w := { w with kernel := w.kernel.settle programs 100000 }
  noteChild e (noteStream e (noteStream e w .stdout) .stderr)

/-- Moves what is in one pipe to the queue; `fuel` bounds the number of chunks. -/
def drainStream (e : Ends) (stream : Stream) : Nat → Watch → Watch
  | 0, w => w
  | fuel + 1, w =>
    let c := w.state.channel stream
    if c.drain != .reading then w
    else if c.pipe.isEmpty then
      if c.closed then (w.make (.ends stream)).make (.notifies stream) else w
    else
      let n := min c.pipe.length Supervisor.chunkSize
      let (_, p) := (w.kernel.pipe (pipeOf e stream)).pop n
      let w := { w with kernel := w.kernel.setPipe (pipeOf e stream) p }
      drainStream e stream fuel ((w.make (.reads stream n)).make (.notifies stream))

def drain (e : Ends) (w : Watch) : Watch :=
  drainStream e .stderr 1000 (drainStream e .stdout 1000 w)

/-- Hands bytes of the owner to the input. -/
def feed (e : Ends) (w : Watch) : Option Watch :=
  match w.state.point with
  | .writing rest =>
    if w.state.input.broken.isSome then some (w.make .learns)
    else
      let p := w.kernel.pipe e.inputPipe
      let n := min (Pipe.capacity - p.size) rest.length
      if n = 0 then none
      else
        let w := { w with kernel := w.kernel.setPipe e.inputPipe (p.push (rest.take n)) }
        some (w.make (.takes n))
  | _ => none

/-- The move that wakes the owner, if there is one. -/
def waking? (s : Supervisor) : Option Move :=
  match s.point with
  | .listening =>
    if s.permit then some .hears
    else if s.child != .running then some .learnsExit
    else none
  | .lingering =>
    if s.permit then some .hears
    else if s.stdout.isReapable then some (.reaps .stdout)
    else if s.stderr.isReapable then some (.reaps .stderr)
    else none
  | _ => none

/-- Lets the processes and the drains do what they can; tells whether that was nothing. -/
def isQuiet (programs : Programs) (e : Ends) (w : Watch) : Bool × Watch :=
  let before := w.moves.length
  let w := drain e (runProcesses programs e w)
  (w.moves.length = before, w)

/-- Sets the clock to the next waking, but not beyond `limit`; none when nobody wakes. -/
def sleep (w : Watch) (limit : Option Nat) : Option Watch :=
  let wake (t : Nat) : Watch := { w with kernel := { w.kernel with clock := max t w.kernel.clock } }
  match w.kernel.nextWaking, limit with
  | none, none => none
  | some t, none => some (wake t)
  | none, some l => some (wake l)
  | some t, some l => some (wake (min t l))

/-- When the owner's patience ends. -/
def deadline (w : Watch) : Option Nat :=
  match w.state.point, w.since with
  | .lingering, some t => some (t + patience)
  | _, _ => none

/-- Remembers when the owner began to linger. -/
def noteLingering (w : Watch) : Watch :=
  match w.state.point with
  | .lingering => if w.since.isSome then w else { w with since := some w.kernel.clock }
  | _ => { w with since := none }

/-- What the owner does when nobody else can move. -/
def wake (e : Ends) (w : Watch) : Option Watch :=
  match feed e w with
  | some w => some w
  | none =>
    match waking? w.state, w.deadline with
    | some m, _ => some (noteLingering (w.make m))
    | none, some t =>
      if t ≤ w.kernel.clock then some (noteLingering (w.make .tires)) else w.sleep (some t)
    | none, none => w.sleep none

/-- Goes on until the call of the owner is answered; `fuel` bounds the moves. -/
def untilAnswered (programs : Programs) (e : Ends) : Nat → Watch → Watch
  | 0, w => w
  | fuel + 1, w =>
    if w.state.answer.isSome then w
    else if !w.state.isSuspended then
      untilAnswered programs e fuel (noteLingering (w.make .advance))
    else
      match feed e w with
      | some w => untilAnswered programs e fuel w
      | none =>
        match isQuiet programs e w with
        | (false, w) => untilAnswered programs e fuel w
        | (true, w) =>
          match wake e w with
          | some w => untilAnswered programs e fuel w
          | none => w

/-- Lets time pass until the clock shows `limit`, while the owner does nothing. -/
def untilTime (programs : Programs) (e : Ends) (limit : Nat) : Nat → Watch → Watch
  | 0, w => w
  | fuel + 1, w =>
    match isQuiet programs e w with
    | (false, w) => untilTime programs e limit fuel w
    | (true, w) =>
      if limit ≤ w.kernel.clock then w
      else
        match w.sleep (some limit) with
        | some w => untilTime programs e limit fuel w
        | none => w

end Watch

end CellRunner.Machine
