import CellRunner.Proofs.Session.Files
import CellRunner.Proofs.Supervisor.Failures

/-!
# The first thing that goes wrong

An action goes on until something goes wrong with the backend. Then it stops with that failure,
and all that it still does is to let go of a process or to remove a file.
-/

set_option autoImplicit false

namespace CellRunner

namespace Deed

/-- What goes wrong with the backend in a request. Exit codes, and a mode that cannot be changed,
are not among it. -/
inductive Breaks : Deed → Fault → Prop where
  | creating (dir suffix : String) (e : IoFault) :
      Breaks (.create dir suffix (.error e)) (.creating dir e)
  | writing (path : String) (contents : List UInt8) (e : IoFault) :
      Breaks (.fill path contents (.error e)) (.writing path e)
  | spawning (program : String) (args : List String) (e : IoFault) :
      Breaks (.spawn program args (.error e)) (.spawn program e)
  | failing (process : Nat) (begun : Supervisor) (moves : List Supervisor.Move)
      (f : Supervisor.Failure) (h : begun.Breaks moves f) :
      Breaks (.during process begun moves) (.ofFailure f)

/-- A call that is made to a process may never be answered. -/
def IsAnswered : Deed → Prop
  | .during _ begun moves => (begun.run moves).answer ≠ none
  | _ => True

/-- The request is answered, and nothing goes wrong. -/
structure Completes (d : Deed) : Prop where
  answered : d.IsAnswered
  well : ∀ f, ¬ d.Breaks f

def isCleanup : Deed → Bool
  | .remove .. | .release _ => true
  | _ => false

theorem completes_of_cleanup (d : Deed) (h : d.isCleanup = true) : d.Completes := by
  cases d with
  | remove | release => exact ⟨trivial, nofun⟩
  | _ => contradiction

theorem completes_setMode (path : String) (mode : Nat) (r : Except IoFault Unit) :
    Completes (.setMode path mode r) := ⟨trivial, nofun⟩

theorem completes_spawn (program : String) (args : List String) (process : Nat) :
    Completes (.spawn program args (.ok process)) := ⟨trivial, nofun⟩

/-- With something that goes wrong the request is answered all the same. -/
theorem answered_of_breaks (d : Deed) (f : Fault) (h : d.Breaks f) : d.IsAnswered := by
  cases h with
  | failing process begun moves f h => cases h <;> assumption
  | _ => trivial

end Deed

/-- What an action comes to is read off its requests: to a value if nothing goes wrong, or to the
first failure, after which it only cleans up, or to nothing if a call is never answered. -/
inductive Orderly {α : Type} : Except Stop α → List Deed → Prop where
  | done (v : α) (ds : List Deed) (h : ∀ d ∈ ds, d.Completes) : Orderly (.ok v) ds
  | broken (f : Fault) (before : List Deed) (d : Deed) (after : List Deed)
      (h : ∀ e ∈ before, e.Completes) (breaks : d.Breaks f)
      (cleanup : ∀ e ∈ after, e.isCleanup = true) :
      Orderly (.error (.fault f)) (before ++ d :: after)
  | hung (before : List Deed) (d : Deed) (h : ∀ e ∈ before, e.Completes)
      (never : ¬ d.IsAnswered) : Orderly (.error .hung) (before ++ [d])

section orderly

variable {α β : Type} {r : Except Stop α} {ds es : List Deed}

theorem completes_of_orderly (v : α) (h : Orderly (.ok v) ds) : ∀ d ∈ ds, d.Completes := by
  cases h with
  | done _ _ h => exact h

theorem orderly_after (h : ∀ d ∈ ds, d.Completes) (h' : Orderly r es) : Orderly r (ds ++ es) := by
  have hall (before : List Deed) (hb : ∀ e ∈ before, e.Completes) :
      ∀ e ∈ ds ++ before, e.Completes := fun e he =>
    (List.mem_append.mp he).elim (h e) (hb e)
  cases h' with
  | done v _ h' => exact .done v _ (hall _ h')
  | broken f before d after h' breaks cleanup =>
    rw [← List.append_assoc]
    exact .broken f _ d after (hall _ h') breaks cleanup
  | hung before d h' never =>
    rw [← List.append_assoc]
    exact .hung _ d (hall _ h') never

theorem orderly_cons (d : Deed) (hd : d.Completes) (h : Orderly r es) : Orderly r (d :: es) := by
  have hone : ∀ e ∈ [d], e.Completes := by simpa using hd
  exact orderly_after hone h

theorem orderly_cleanup (h : Orderly r ds) (hr : r ≠ .error .hung)
    (hes : ∀ e ∈ es, e.isCleanup = true) : Orderly r (ds ++ es) := by
  cases h with
  | done v _ h =>
    refine .done v _ fun e he => ?_
    exact (List.mem_append.mp he).elim (h e) fun he => e.completes_of_cleanup (hes e he)
  | broken f before d after h breaks cleanup =>
    rw [List.append_assoc]
    refine .broken f before d (after ++ es) h breaks fun e he => ?_
    exact (List.mem_append.mp he).elim (cleanup e) (hes e)
  | hung => exact absurd rfl hr

/-- An action that stops does so whatever it would have come to. -/
theorem orderly_error (e : Stop) (h : Orderly (.error e : Except Stop α) ds) :
    Orderly (.error e : Except Stop β) ds := by
  cases h with
  | broken f before d after h breaks cleanup => exact .broken f before d after h breaks cleanup
  | hung before d h never => exact .hung before d h never

theorem orderly_map (f : α → β) (h : Orderly r ds) : Orderly (r.map f) ds := by
  cases r with
  | ok v => exact .done (f v) ds (completes_of_orderly v h)
  | error e => exact orderly_error e h

end orderly

namespace TempFiles
open Act

variable {σ : Type}

/-- A file that is made and filled, or the failure to do so. -/
theorem create_orderly (w : World σ) (suffix : String) (contents : List UInt8)
    (s : Scene (Recording σ)) :
    (create w.recorded suffix contents).Traces s fun r _ _ ds => Orderly r ds := by
  refine traces_bind_get <| traces_bind_ask _ (.create s.files.dir suffix) rfl fun made world => ?_
  cases made with
  | error e =>
    exact traces_bind_emit _ <| traces_fail _ (.broken _ [] _ [] (by simp) (.creating ..) (by simp))
  | ok path =>
    have hmade : Deed.Completes (.create s.files.dir suffix (.ok path)) := ⟨trivial, nofun⟩
    refine traces_bind_ask _ (.fill path contents) rfl fun filled world => ?_
    cases filled with
    | error e =>
      refine traces_bind (removeFile_traces w path _) ?_ (by simp)
      rintro _ t _ _ ⟨-, -, r, -, rfl⟩
      refine traces_fail _ (.broken _ [_] _ [.remove path r] ?_ (.writing path contents e) ?_)
      · simpa using hmade
      · simp [Deed.isCleanup]
    | ok _ =>
      have hfilled : Deed.Completes (.fill path contents (.ok ())) := ⟨trivial, nofun⟩
      refine traces_bind_modify _ [] rfl (by simp [Scene.deeds]) <| traces_bind_emit _ ?_
      exact traces_pure path (.done path _ (by simpa using ⟨hmade, hfilled⟩))

end TempFiles

end CellRunner
