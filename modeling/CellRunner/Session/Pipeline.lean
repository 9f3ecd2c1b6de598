import CellRunner.Config.Basic
import CellRunner.Directive.Basic
import CellRunner.Session.Job
import CellRunner.Session.TempFiles

/-!
# A request from source to report

A source is compiled, the program is run, and each test script is run on it, one process
after the other. What goes wrong with the user's program is told as text; only the backend
stops a request.
-/

set_option autoImplicit false

namespace CellRunner

/-- Exit codes seen while a source was handled. -/
structure Report where
  finalStage : Stage
  compileExit : Int
  /-- absent when the program never ran -/
  runExit : Option Int := none
  /-- one for each test script, in order -/
  scriptExits : List Int := []
  /-- the compiled program, when the compilation succeeded -/
  binary : Option String := none
  deriving DecidableEq, Repr

/-- The arguments of the compiler; libraries follow the objects that need them. -/
def compileArgs (c : Config) (d : Directives) (source binary : String) : List String :=
  c.toolchain.baselineFlags ++ d.compileFlags ++ [source, "-o", binary] ++ d.linkFlags

/-- The program, and its arguments, that runs a test script on a binary. -/
def scriptCommand (c : Config) (script binary : String) : String × List String :=
  match c.verification.interpreter? with
  | some interpreter => (interpreter, [script, binary])
  | none => (script, [binary])

namespace Pipeline

variable {σ : Type}

def transition (source target : Stage) : Act σ Unit := Act.emit (.transition source target)

/-- Starts a program and waits for it; what it reads is `input`, if anything, and then the end. -/
def runProgram (w : World σ) (program : String) (args : List String) (input : Option (List UInt8)) :
    Act σ Int := do
  let p ← Job.start w program args
  p.releasing w do
    let p ← match input with
      | some bytes => p.write w bytes
      | none => pure p
    let p ← p.closeInput w
    let (code, _) ← p.wait w
    return code

def compile (w : World σ) (c : Config) (d : Directives) (source binary : String) : Act σ Int :=
  runProgram w c.toolchain.compiler (compileArgs c d source binary) none

/-- The texts shown before the program runs. -/
def guidance (d : Directives) : List String :=
  (if d.stdin.isEmpty then [] else ["input: " ++ d.stdin]) ++
    (if d.expectedStdout.isEmpty then [] else ["expected output: " ++ d.expectedStdout]) ++
    if d.memoryHints.isEmpty then []
    else "Some memory hints which you might like to verify for this question:\n" ::
      d.memoryHints.shown

def sayAll (texts : List String) : Act σ Unit :=
  Act.emitAll (texts.map (Event.wrote .stderr))

def execute (w : World σ) (d : Directives) (binary : String) : Act σ Int := do
  sayAll (guidance d)
  let code ← runProgram w binary d.programArgs (some (Utf8.encode d.stdin))
  if code ≠ 0 then
    Act.say .stderr ("[ckernel] executable exited with code " ++ toString code ++ "\n")
  return code

/-- Gives a script its permission bits; a failure is only told. -/
def makeExecutable (w : World σ) (script : String) (mode : Nat) : Act σ Unit := do
  let r ← Act.ask fun s => w.setMode s script mode
  Act.emit (.moded script mode r)
  match r with
  | .ok () => return ()
  | .error e =>
    Act.say .stderr ("[ckernel] could not make " ++ script ++ " executable: " ++ e.message ++ "\n")

def verify (w : World σ) (c : Config) (script binary : String) : Act σ Int := do
  let script := Text.trimmed script
  Act.say .stderr ("Testing with script: " ++ script ++ ".\n")
  makeExecutable w script c.verification.scriptMode
  let (program, args) := scriptCommand c script binary
  Act.say .stderr ("Command: " ++ Text.quotedList (program :: args) ++ "\n")
  let code ← runProgram w program args none
  if code ≠ 0 then
    Act.say .stderr
      ("[ckernel] test script " ++ script ++ " exited with code " ++ toString code ++ "\n")
  return code

/-- Runs the scripts from the one with number `index` on; `stage` is the stage before. -/
def verifyAll (w : World σ) (c : Config) (binary : String) :
    Stage → Nat → List String → Act σ (Stage × List Int)
  | stage, _, [] => return (stage, [])
  | stage, index, script :: scripts => do
    transition stage (.verifying index)
    let code ← verify w c script binary
    let (last, codes) ← verifyAll w c binary (.verifying index) (index + 1) scripts
    return (last, code :: codes)

/-- What is told when the compiler fails. -/
def compilerFailed (dir : String) (code : Int) : List String :=
  ["[ckernel] temporary files are kept in " ++ dir ++ "\n",
    "[ckernel] compiler exited with code " ++ toString code ++
      ", the executable will not be executed\n"]

def run (w : World σ) (c : Config) (source : String) (d : Directives) : Act σ Report := do
  let sourcePath ← TempFiles.create w ".c" (Utf8.encode source)
  let binaryPath ← TempFiles.create w ".out" []
  let compileExit ← compile w c d sourcePath binaryPath
  if compileExit ≠ 0 then
    sayAll (compilerFailed (← get).files.dir compileExit)
    transition .compiling .aborted
    return { finalStage := .aborted, compileExit }
  else
    transition .compiling .running
    let runExit ← execute w d binaryPath
    let (last, scriptExits) ← verifyAll w c binaryPath .running 0 d.testScripts
    transition last .done
    return { finalStage := .done, compileExit, runExit := some runExit, scriptExits,
             binary := some binaryPath }

end Pipeline

end CellRunner
