import CellRunner.Supervisor.Basic

/-!
# Steps of a supervised process

Each move is made by the process, by a drain or by the owner. A move that cannot be made
changes nothing, so every list of moves is a run, and every interleaving is a list of moves.
-/

set_option autoImplicit false

namespace CellRunner.Supervisor

inductive Move where
  /-- a process writes to a stream -/
  | writes (stream : Stream) (bytes : List UInt8)
  /-- the last writer of a stream closes it -/
  | closes (stream : Stream)
  | exits (code : ExitCode)
  /-- how the process ended cannot be learned -/
  | loses (error : SystemError)
  /-- nobody reads the input any more, or writing it fails otherwise -/
  | breaksInput (error : SystemError)
  /-- a drain moves at most `n` bytes to its queue -/
  | reads (stream : Stream) (n : Nat)
  /-- a drain meets the end of its stream -/
  | ends (stream : Stream)
  /-- a drain gives the notice it owes -/
  | notifies (stream : Stream)
  /-- the owner takes a step that needs no waiting -/
  | advance
  /-- the input takes `n` of the bytes that the owner writes -/
  | takes (n : Nat)
  /-- the owner learns that the input is broken -/
  | learns
  /-- a notice wakes the owner -/
  | hears
  /-- the end of the process wakes the owner -/
  | learnsExit
  /-- the end of a drain wakes the owner -/
  | reaps (stream : Stream)
  /-- the owner's patience ends -/
  | tires
  deriving DecidableEq, Repr

/-- The owner's step at a point where there is nothing to wait for. -/
def advance (s : Supervisor) : Supervisor :=
  match s.point with
  | .lookOut e => s.look .stdout (·.goTo (.lookErr e))
  | .lookErr e => s.look .stderr (·.afterFlush e)
  | .checkExit =>
    match s.poll with
    | (.ok (some _), s) => s.goTo (.lookOut .settled)
    | (.ok none, s) => s.goTo .listening
    | (.error e, s) => s.fail (.io (.system e))
  | .checkDrained =>
    if s.stdout.isReleased && s.stderr.isReleased then s.goTo (.lookOut .last)
    else s.goTo .lingering
  | .finishOut => s.finish .stdout (·.goTo .finishErr)
  | .finishErr => s.finish .stderr conclude
  | _ => s

/-- The input takes bytes; the call ends with the last of them. -/
def take (s : Supervisor) (n : Nat) : Supervisor :=
  match s.point, s.input.broken with
  | .writing rest, none =>
    let s := { s with input := { s.input with taken := s.input.taken ++ rest.take n } }
    if (rest.drop n).isEmpty then s.reply .wrote else s.goTo (.writing (rest.drop n))
  | _, _ => s

/-- A process that reads no more is no failure; other errors are. -/
def learn (s : Supervisor) : Supervisor :=
  match s.point, s.input.broken with
  | .writing _, some .brokenPipe => s.reply .wrote
  | .writing _, some e => s.fail (.io (.system e))
  | _, _ => s

def hear (s : Supervisor) : Supervisor :=
  if s.permit then
    match s.point with
    | .listening => { s with permit := false, point := .lookOut .live }
    | .lingering => { s with permit := false, point := .lookOut .settled }
    | _ => s
  else s

def learnExit (s : Supervisor) : Supervisor :=
  match s.point, s.child with
  | .listening, .exited code => (s.record code).goTo (.lookOut .live)
  | .listening, .lost e => s.fail (.io (.system e))
  | _, _ => s

def reap (s : Supervisor) (stream : Stream) : Supervisor :=
  let c := s.channel stream
  if s.point = .lingering && c.isReapable then
    (s.setChannel stream c.reap).goTo (.lookOut .settled)
  else s

def tire (s : Supervisor) : Supervisor :=
  match s.point with
  | .lingering =>
    { s with stdout := s.stdout.abandon, stderr := s.stderr.abandon, point := .lookOut .last }
  | _ => s

/-- The notice of a drain; several notices before the owner wakes count as one. -/
def notify (s : Supervisor) (stream : Stream) : Supervisor :=
  let c := s.channel stream
  if c.owesNotice then { s.setChannel stream c.giveNotice with permit := true } else s

/-- A change of a process that has not ended. -/
def settleChild (s : Supervisor) (child : Child) : Supervisor :=
  match s.child with
  | .running => { s with child := child }
  | _ => s

def breakInput (s : Supervisor) (e : SystemError) : Supervisor :=
  match s.input.broken with
  | none => { s with input := { s.input with broken := some e } }
  | some _ => s

def step (s : Supervisor) : Move → Supervisor
  | .writes stream bytes => s.setChannel stream ((s.channel stream).write bytes)
  | .closes stream => s.setChannel stream (s.channel stream).close
  | .exits code => s.settleChild (.exited code)
  | .loses e => s.settleChild (.lost e)
  | .breaksInput e => s.breakInput e
  | .reads stream n => s.setChannel stream ((s.channel stream).read n)
  | .ends stream => s.setChannel stream (s.channel stream).finishReading
  | .notifies stream => s.notify stream
  | .advance => s.advance
  | .takes n => s.take n
  | .learns => s.learn
  | .hears => s.hear
  | .learnsExit => s.learnExit
  | .reaps stream => s.reap stream
  | .tires => s.tire

/-- The state after a list of moves. -/
def run (s : Supervisor) (moves : List Move) : Supervisor := moves.foldl step s

/-- Whether the owner waits for others at this point. -/
def isSuspended (s : Supervisor) : Bool :=
  match s.point with
  | .idle => true
  | .listening => true
  | .lingering => true
  | .writing _ => true
  | _ => false

end CellRunner.Supervisor
