import CellRunner.Session.Scene

/-!
# Jobs
-/

set_option autoImplicit false

namespace CellRunner

/-- A started process and what its owner knows of it. -/
structure Job where
  id : Nat
  program : String
  state : Supervisor := {}

namespace Job

variable {σ : Type}

def start (w : World σ) (program : String) (args : List String) : Act σ Job := do
  match ← Act.ask fun s => w.spawn s program args with
  | .error e =>
    Act.emit (.notSpawned program args e)
    Act.fail (.spawn program e)
  | .ok id =>
    Act.emit (.spawned program args id)
    return { id := id, program := program }

/-- What the owner learned and handed on between two states. -/
def news (p : Job) (after : Supervisor) : List Event :=
  let texts := (after.sink.drop p.state.sink.length).map fun (stream, text) => .wrote stream text
  match p.state.recorded, after.recorded with
  | none, some code => texts ++ [.exited p.id p.program code]
  | _, _ => texts

/-- What a call comes to in the state that its moves lead to. -/
def answered (p : Job) (after : Supervisor) : Act σ (Supervisor.Answer × Job) := do
  Act.emitAll (p.news after)
  match after.answer with
  | some a => return (a, { p with state := after })
  | none => throw .hung

/-- Makes a call and waits for its answer. -/
def call (w : World σ) (p : Job) (c : Supervisor.Call) :
    Act σ (Supervisor.Answer × Job) := do
  let begun := p.state.begin c
  let moves ← match begun.answer with
    | some _ => pure []
    | none => Act.ask fun s => w.during s p.id begun
  p.answered (begun.run moves)

/-- Time passes while the drains go on. -/
def elapse (w : World σ) (p : Job) (ms : Nat) : Act σ Job := do
  let moves ← Act.ask fun s => w.elapse s p.id p.state ms
  return { p with state := p.state.run moves }

/-- The owner lets go of the process. -/
def release (w : World σ) (p : Job) : Act σ Unit := do
  modify fun s => { s with world := w.release s.world p.id }
  Act.emit (.released p.id)

/-- Ends an action that uses the process: it is let go, also at a fault. -/
def releasing {α : Type} (w : World σ) (p : Job) (a : Act σ α) : Act σ α := do
  match ← Act.attempt a with
  | .ok v =>
    p.release w
    return v
  | .error f =>
    p.release w
    Act.fail f

/-- Offers bytes to the input. -/
def write (w : World σ) (p : Job) (bytes : List UInt8) : Act σ Job := do
  Act.emit (.fed p.id bytes)
  let (a, p) ← p.call w (.write bytes)
  match a with
  | .failed f => Act.fail (.ofFailure f)
  | _ => return p

def closeInput (w : World σ) (p : Job) : Act σ Job := do
  Act.emit (.inputClosed p.id)
  let (_, p) ← p.call w .close
  return p

/-- Hands on the output until the process has ended, and gives its exit code. -/
def wait (w : World σ) (p : Job) : Act σ (Supervisor.ExitCode × Job) := do
  let (a, p) ← p.call w .wait
  match a with
  | .waited code => return (code, p)
  | .failed f => Act.fail (.ofFailure f)
  | _ => throw .hung

end Job

end CellRunner
