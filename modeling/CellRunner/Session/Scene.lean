import CellRunner.Session.Event
import CellRunner.World

/-!
# Acting in a world

An action runs in a scene: a world, the temporary files in use, the number of requests so
far, and the events so far. It may stop at a fault of the backend; the scene stays as it was
at that point.
-/

set_option autoImplicit false

namespace CellRunner

/-- The temporary files of a session, in the order of their making. -/
structure Tracker where
  dir : String
  paths : List String := []
  deriving DecidableEq, Repr

structure Scene (σ : Type) where
  world : σ
  files : Tracker
  executions : Nat := 0
  events : List Event := []

/-- Why an action did not come to its end. -/
inductive Stop where
  | fault (fault : Fault)
  /-- a call was never answered -/
  | hung
  deriving DecidableEq, Repr

abbrev Act (σ : Type) := EStateM Stop (Scene σ)

namespace Act

variable {σ : Type}

def fail {α : Type} (f : Fault) : Act σ α := throw (.fault f)

def emit (e : Event) : Act σ Unit := modify fun s => { s with events := s.events ++ [e] }

def emitAll (es : List Event) : Act σ Unit := modify fun s => { s with events := s.events ++ es }

/-- Hands text to the user. -/
def say (stream : Stream) (text : String) : Act σ Unit := emit (.wrote stream text)

/-- A request that changes the world. -/
def ask {α : Type} (request : σ → α × σ) : Act σ α := do
  let s ← get
  let (a, world) := request s.world
  set { s with world := world }
  return a

/-- A request that only looks at the world. -/
def look {α : Type} (request : σ → α) : Act σ α := do return request (← get).world

/-- What an action comes to, without stopping at a fault. -/
def attempt {α : Type} (a : Act σ α) : Act σ (Except Fault α) := fun s =>
  match a s with
  | .ok v s => .ok (.ok v) s
  | .error (.fault f) s => .ok (.error f) s
  | .error .hung s => .error .hung s

end Act

end CellRunner
