import CellRunner.Proofs.Session.Breakdown
import CellRunner.Proofs.Session.Lifetimes

/-!
# What a request does

What a request does to the world lies on one list, which the exit code of the compiler decides. It
stops there at a failure of the backend, and nowhere else.
-/

set_option autoImplicit false

namespace CellRunner
open Supervisor

/-- What is done to the world, or tried. -/
inductive Effect where
  | make (dir suffix : String)
  | fill (path : String) (contents : List UInt8)
  | setMode (path : String) (mode : Nat)
  | spawn (program : String) (args : List String)
  /-- bytes for the input of the process that was started last -/
  | write (bytes : List UInt8)
  /-- the end of its input -/
  | close
  /-- anything else -/
  | stray
  deriving DecidableEq

namespace Deed

end Deed

/-- What is done to run a program that reads `bytes`. -/
def launch (program : String) (args : List String) (bytes : List UInt8) : List Effect :=
  .spawn program args :: ((if bytes = [] then [] else [.write bytes]) ++ [.close])

/-- What is done to run a test script. -/
def testing (c : Config) (binary script : String) : List Effect :=
  .setMode (Text.trimmed script) c.verification.scriptMode ::
    launch (scriptCommand c (Text.trimmed script) binary).1
      (scriptCommand c (Text.trimmed script) binary).2 []

/-- What is done once the source has been compiled. -/
def checking (c : Config) (d : Directives) (binary : String) : List Effect :=
  launch binary d.programArgs (Utf8.encode d.stdin) ++ d.testScripts.flatMap (testing c binary)

section reaches

variable {α β : Type} {r : Except Stop α} {ds ds' : List Deed} {es es' : List Effect}

end reaches

namespace Pipeline
open Act

variable {σ : Type}

end Pipeline

end CellRunner
