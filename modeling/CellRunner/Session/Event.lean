import CellRunner.Directive.Line
import CellRunner.Fault.Basic

/-!
# What happens while sources are handled

Every effect and every decision that can be observed is an event.
-/

set_option autoImplicit false

namespace CellRunner

/-- Stages of a request. -/
inductive Stage where
  | compiling
  | running
  /-- the test script at this index runs -/
  | verifying (index : Nat)
  | done
  /-- the compilation failed, and nothing further runs -/
  | aborted
  deriving DecidableEq, Repr

def Stage.text : Stage → String
  | .compiling => "compiling"
  | .running => "running"
  | .verifying i => "verifying[" ++ toString i ++ "]"
  | .done => "done"
  | .aborted => "aborted"

inductive Event where
  /-- a temporary file holds these bytes -/
  | created (path : String) (contents : List UInt8)
  /-- a temporary file was asked for and not made -/
  | notCreated (dir suffix : String) (cause : IoFault)
  /-- one attempt to remove a temporary file -/
  | removed (path : String) (result : Except IoFault Unit)
  /-- a file that should have been removed stays -/
  | removalFailed (path : String) (cause : IoFault)
  | moded (path : String) (mode : Nat) (result : Except IoFault Unit)
  /-- a process was started, with this number -/
  | spawned (program : String) (args : List String) (process : Nat)
  | notSpawned (program : String) (args : List String) (cause : IoFault)
  /-- bytes offered to the input of a process -/
  | fed (process : Nat) (bytes : List UInt8)
  | inputClosed (process : Nat)
  /-- the owner saw how a process ended -/
  | exited (process : Nat) (program : String) (code : Supervisor.ExitCode)
  | released (process : Nat)
  /-- text handed to the user -/
  | wrote (stream : Stream) (text : String)
  | transition (source target : Stage)
  | handled (execution : Nat) (stage : Stage) (compileExit : Int) (runExit : Option Int)
      (scriptExits : List Int)
  /-- the number of files that were tracked -/
  | shutDown (files : Nat)
  | shutDownFailed (cause : Fault)
  | executing (source : String)
  /-- text printed by the program itself -/
  | printed (text : String)
  | defaultsUsed (path : String)
  | directiveIgnored (line : String)
  | keyIgnored (key : String)

namespace Event

/-- The events of reading a source: its lines that look like directives and are none. -/
def ofLine : Directive.Line → Option Event
  | .malformed line => some (.directiveIgnored (String.ofList line))
  | .unknown key => some (.keyIgnored (String.ofList key))
  | _ => none

end Event

/-- The text that events hand to one stream. -/
def streamText (stream : Stream) (events : List Event) : String :=
  String.join (events.filterMap fun
    | .wrote s text => if s = stream then some text else none
    | _ => none)

end CellRunner
