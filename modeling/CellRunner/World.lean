import CellRunner.Fault.System
import CellRunner.Supervisor.Step

/-!
# The world outside

What the library asks of the system: files, processes, and how the moves of a process and
its owner follow each other. All that is said about requests is said for every world.
-/

set_option autoImplicit false

namespace CellRunner

/-- What a path leads to. -/
inductive FileKind where
  | directory
  | other
  deriving DecidableEq, Repr

/-- Requests to the system; `σ` is its state. -/
structure World (σ : Type) where
  /-- the directory for temporary files when none is configured -/
  tempDir : String
  lookup : σ → String → Except SystemError FileKind
  /-- the bytes of a file -/
  read : σ → String → Except IoFault (List UInt8)
  /-- all that is left of the standard input of this program -/
  readInput : σ → Except IoFault (List UInt8) × σ
  /-- makes a file with a name of its own that ends in a suffix, and gives its path -/
  create : σ → String → String → Except IoFault String × σ
  /-- fills a file just made -/
  fill : σ → String → List UInt8 → Except IoFault Unit × σ
  remove : σ → String → Except IoFault Unit × σ
  setMode : σ → String → Nat → Except IoFault Unit × σ
  /-- starts a program with its arguments, and gives the number of the process -/
  spawn : σ → String → List String → Except IoFault Nat × σ
  /-- the moves made from the beginning of a call until it is answered -/
  during : σ → Nat → Supervisor → List Supervisor.Move × σ
  /-- the moves made while the owner sleeps for some milliseconds -/
  elapse : σ → Nat → Supervisor → Nat → List Supervisor.Move × σ
  /-- the owner lets go of a process, which is killed if it has not ended -/
  release : σ → Nat → σ
  /-- time passes while no process is owned -/
  pass : σ → Nat → σ

end CellRunner
