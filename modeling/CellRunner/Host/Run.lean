import CellRunner.Config.Load
import CellRunner.Host.Invocation
import CellRunner.Host.Trouble
import CellRunner.Session.Basic

/-!
# The program

The sources named on the command line are handled in one session, which is then shut down;
or the program only tells what it would do with them.
-/

set_option autoImplicit false

namespace CellRunner.Host

variable {σ : Type}

def loadConfig (w : World σ) (path : Option String) : Act σ (Except Trouble Config) := do
  match path with
  | some p =>
    match ← Act.look (Config.loadAndValidate w · p) with
    | .ok c => return .ok c
    | .error f => return .error (.config path f)
  | none =>
    if !(← Act.look (Config.isThere w · Config.defaultPath)) then
      Act.emit (.defaultsUsed Config.defaultPath)
    match ← Act.look (Config.loadOrDefault w · Config.defaultPath) with
    | .ok c => return .ok c
    | .error f => return .error (.config none f)

def asText (bytes : List UInt8) : Except IoFault String :=
  match Utf8.text bytes with
  | .ok s => .ok s
  | .error _ => .error .notUtf8

/-- The text of a source file, or of the standard input. -/
def readSource (w : World σ) (path : String) : Act σ (Except Trouble String) := do
  if namesInput path then
    match (← Act.ask w.readInput) >>= asText with
    | .ok s => return .ok s
    | .error e => return .error (.readingInput e)
  else
    match (← Act.look (w.read · path)) >>= asText with
    | .ok s => return .ok s
    | .error e => return .error (.reading path e)

/-- A name in a directory. -/
def join (dir name : String) : String :=
  if dir.isEmpty || dir.endsWith "/" then dir ++ name else dir ++ "/" ++ name

/-- What would be done with a source. -/
def description (c : Config) (tempDir path : String) (d : Directives) : String :=
  let args := compileArgs c d (join tempDir "<source>.c") (join tempDir "<binary>.out")
  String.join <|
    ["ckernel dry-run: " ++ path ++ "\n",
      "  compile: " ++ c.toolchain.compiler ++ " " ++ String.intercalate " " args ++ "\n"] ++
    (if d.programArgs.isEmpty then [] else ["  args: " ++ Text.quotedList d.programArgs ++ "\n"]) ++
    (if d.stdin.isEmpty then [] else ["  stdin: " ++ Text.quoted d.stdin ++ "\n"]) ++
    (if d.expectedStdout.isEmpty then []
      else ["  expected stdout: " ++ Text.quoted d.expectedStdout ++ "\n"]) ++
    d.memoryHints.shown.map ("  hint: " ++ ·) ++
    d.testScripts.map fun s => "  test_script: " ++ Text.trimmed s ++ "\n"

/-- Describes the sources in order, up to the first that cannot be read. -/
def describeAll (w : World σ) (c : Config) : List String → Act σ (Option Trouble)
  | [] => return none
  | path :: paths => do
    match ← readSource w path with
    | .error t => return some t
    | .ok source =>
      Act.emitAll ((Directives.linesOf source).filterMap Event.ofLine)
      Act.emit (.printed (description c (c.tempDir w.tempDir) path (Directives.parse source)))
      describeAll w c paths

/-- Handles the sources in order, up to the first at which the backend fails. -/
def executeAll (w : World σ) (c : Config) : List String → Act σ (Option Trouble)
  | [] => return none
  | path :: paths => do
    match ← readSource w path with
    | .error t => return some t
    | .ok source =>
      Act.emit (.executing path)
      match ← Act.attempt (Session.execute w c source) with
      | .error f => return some (.executing path f)
      | .ok _ => executeAll w c paths

/-- Handles the sources in a session of their own. -/
def handleAll (w : World σ) (c : Config) (sources : List String) : Act σ (Option Trouble) := do
  modify fun s => { s with files := { dir := c.tempDir w.tempDir }, executions := 0 }
  let outcome ← executeAll w c sources
  match ← Act.attempt (Session.shutdown w) with
  | .ok () => return outcome
  | .error f => return outcome.or (some (.cleanup f))

def run (w : World σ) (i : Invocation) : Act σ (Option Trouble) := do
  match ← loadConfig w i.config with
  | .error t => return some t
  | .ok c => if i.dryRun then describeAll w c i.sources else handleAll w c i.sources

end CellRunner.Host
