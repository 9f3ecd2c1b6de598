import CellRunner.Fault.System
import CellRunner.Supervisor.Channel

/-!
# A supervised process

The state of a process with its two output streams and its input, of the owner who watches
it, and of the call that the owner is in. A call is made of steps; between two steps the
process and the drains may do anything they can.
-/

set_option autoImplicit false

namespace CellRunner.Supervisor

/-- Exit codes; a process that a signal ended has the negated number of the signal. -/
abbrev ExitCode := Int

inductive Child where
  | running
  | exited (code : ExitCode)
  /-- the system does not tell how it ended -/
  | lost (error : SystemError)
  deriving DecidableEq, Repr

structure Input where
  /-- the owner's end -/
  isOpen : Bool := true
  /-- why the other end takes nothing any more -/
  broken : Option SystemError := none
  /-- bytes that the other end has taken -/
  taken : List UInt8 := []
  deriving DecidableEq, Repr

/-- What a flush is part of. -/
inductive Errand where
  /-- a call of its own -/
  | flush
  /-- waiting for the process to end -/
  | live
  /-- the process has ended, and its streams may not have -/
  | settled
  /-- the last flush of a wait -/
  | last
  deriving DecidableEq, Repr

/-- Where the owner is. -/
inductive Point where
  | idle
  | lookOut (errand : Errand)
  | lookErr (errand : Errand)
  | checkExit
  /-- asleep until a notice comes or the process ends -/
  | listening
  | checkDrained
  /-- asleep until a notice comes, a drain finishes or patience ends -/
  | lingering
  | finishOut
  | finishErr
  | writing (rest : List UInt8)
  deriving DecidableEq, Repr

/-- Why a call failed. -/
inductive Failure where
  | decode (stream : Stream) (fault : Utf8.Fault)
  | io (fault : IoFault)
  deriving DecidableEq, Repr

/-- What a call came to. -/
inductive Answer where
  | flushed
  | polled (code : Option ExitCode)
  | waited (code : ExitCode)
  | wrote
  | closed
  | failed (failure : Failure)
  deriving DecidableEq, Repr

inductive Call where
  | flush
  | poll
  | wait
  | write (bytes : List UInt8)
  | close
  deriving DecidableEq, Repr

end Supervisor

structure Supervisor where
  stdout : Supervisor.Channel := {}
  stderr : Supervisor.Channel := {}
  input : Supervisor.Input := {}
  child : Supervisor.Child := .running
  /-- the exit code that the owner has seen -/
  recorded : Option Supervisor.ExitCode := none
  /-- a notice waits for the owner -/
  permit : Bool := false
  /-- the texts handed on, oldest first -/
  sink : List (Stream × String) := []
  point : Supervisor.Point := .idle
  /-- the answer of the last call that has ended -/
  answer : Option Supervisor.Answer := none
  deriving DecidableEq, Repr

namespace Supervisor

def channel (s : Supervisor) : Stream → Channel
  | .stdout => s.stdout
  | .stderr => s.stderr

def setChannel (s : Supervisor) : Stream → Channel → Supervisor
  | .stdout, c => { s with stdout := c }
  | .stderr, c => { s with stderr := c }

/-- Ends the call. -/
def reply (s : Supervisor) (a : Answer) : Supervisor := { s with point := .idle, answer := some a }

def fail (s : Supervisor) (f : Failure) : Supervisor := s.reply (.failed f)

def goTo (s : Supervisor) (p : Point) : Supervisor := { s with point := p }

/-- Hands on a text, unless it is empty. -/
def deliver (s : Supervisor) (stream : Stream) (text : String) : Supervisor :=
  if text.isEmpty then s else { s with sink := s.sink ++ [(stream, text)] }

/-- Takes what one stream has, and goes on unless it does not decode. -/
def look (s : Supervisor) (stream : Stream) (next : Supervisor → Supervisor) : Supervisor :=
  let (r, c) := (s.channel stream).look
  let s := s.setChannel stream c
  match r with
  | .ok text => next (s.deliver stream text)
  | .error f => s.fail (.decode stream f)

/-- Where a flush goes on when it has looked at both streams. -/
def afterFlush (s : Supervisor) : Errand → Supervisor
  | .flush => s.reply .flushed
  | .live => s.goTo .checkExit
  | .settled => s.goTo .checkDrained
  | .last => s.goTo .finishOut

/-- Notes how the process ended, if it has and the owner has not seen it yet. -/
def record (s : Supervisor) (code : ExitCode) : Supervisor :=
  match s.recorded with
  | some _ => s
  | none => { s with recorded := some code }

/-- Whether the process has ended, without waiting. -/
def poll (s : Supervisor) : Except SystemError (Option ExitCode) × Supervisor :=
  match s.recorded with
  | some code => (.ok (some code), s)
  | none =>
    match s.child with
    | .running => (.ok none, s)
    | .exited code => (.ok (some code), s.record code)
    | .lost e => (.error e, s)

/-- The end check of one stream. -/
def finish (s : Supervisor) (stream : Stream) (next : Supervisor → Supervisor) : Supervisor :=
  let (r, c) := (s.channel stream).finish
  let s := s.setChannel stream c
  match r with
  | .ok () => next s
  | .error f => s.fail (.decode stream f)

/-- The answer of a wait that has come to its end. -/
def conclude (s : Supervisor) : Supervisor :=
  match s.recorded with
  | some code => s.reply (.waited code)
  | none => s

/-- Begins a call; the owner makes one at a time. -/
def begin (s : Supervisor) (call : Call) : Supervisor :=
  if s.point != .idle then s
  else
    let s := { s with answer := none }
    match call with
    | .flush => s.goTo (.lookOut .flush)
    | .wait => s.goTo (.lookOut .live)
    | .poll =>
      match s.poll with
      | (.ok code, s) => s.reply (.polled code)
      | (.error e, s) => s.fail (.io (.system e))
    | .write bytes =>
      if !s.input.isOpen then s.fail (.io .inputClosed)
      else if bytes.isEmpty then s.reply .wrote
      else s.goTo (.writing bytes)
    | .close => { s with input := { s.input with isOpen := false } }.reply .closed

end Supervisor

end CellRunner
