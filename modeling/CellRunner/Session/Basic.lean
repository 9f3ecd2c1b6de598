import CellRunner.Session.Pipeline

/-!
# Sessions

A session handles one source after the other. Its temporary files stay until it is shut
down or dropped.
-/

set_option autoImplicit false

namespace CellRunner.Session

variable {σ : Type}

/-- The scene of a new session. -/
def start (w : World σ) (c : Config) (world : σ) : Scene σ :=
  { world, files := { dir := c.tempDir w.tempDir } }

/-- Handles a source and tells its exit codes. -/
def run (w : World σ) (c : Config) (source : String) : Act σ Report := do
  modify fun s => { s with executions := s.executions + 1 }
  Act.emitAll ((Directives.linesOf source).filterMap Event.ofLine)
  let report ← Pipeline.run w c source (Directives.parse source)
  Act.emit (.handled (← get).executions report.finalStage report.compileExit report.runExit
    report.scriptExits)
  return report

/-- What the user is told of a request that the backend could carry out. -/
inductive Status where
  | handled
  deriving DecidableEq, Repr

def execute (w : World σ) (c : Config) (source : String) : Act σ Status := do
  let _ ← run w c source
  return .handled

/-- Removes all temporary files. -/
def shutdown (w : World σ) : Act σ Unit := do
  let files := (← get).files.paths.length
  match ← Act.attempt (TempFiles.cleanup w) with
  | .ok () => Act.emit (.shutDown files)
  | .error f =>
    Act.emit (.shutDownFailed f)
    Act.fail f

def drop (w : World σ) : Act σ Unit := TempFiles.drop w

end CellRunner.Session
