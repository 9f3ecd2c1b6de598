import CellRunner.Proofs.Session.Requests

/-!
# One process after the other

The processes of a request do not overlap: when a program is to be started, all that were started
before have ended, each with an exit code.
-/

set_option autoImplicit false

namespace CellRunner
open Supervisor

def Deed.isSpawn : Deed → Bool
  | .spawn .. => true
  | _ => false

theorem starts_no_spawn (ds : List Deed) (h : ∀ d ∈ ds, d.isSpawn = false) : Starts ds [] := by
  refine starts_none ds fun d hd => ?_
  have hno := h d hd
  cases d with
  | spawn => contradiction
  | _ => rfl

theorem attends_attended (process : Nat) (bytes : List UInt8) (r : Except Stop ExitCode)
    (ds : List Deed) (h : Attended process bytes r ds) : Attends process ds := by
  cases h with
  | unfed => simp [Attends]
  | waited u ds moves h =>
    refine attends_append process _ _ ?_ (by simp [Attends])
    cases h <;> simp [Attends]

/-- The calls made to one process, and its release, start no other. -/
theorem attended_spawns (process : Nat) (bytes : List UInt8) (r : Except Stop ExitCode)
    (ds : List Deed) (h : Attended process bytes r ds) :
    ∀ d ∈ ds ++ settled process r, d.isSpawn = false := by
  intro d hd
  obtain hd | hd := List.mem_append.mp hd
  · obtain ⟨begun, moves, rfl⟩ := attends_attended process bytes r ds h d hd
    rfl
  · have hsettled : ∀ d ∈ settled process r, d.isSpawn = false := by
      unfold settled
      split <;> simp [Deed.isSpawn]
    exact hsettled d hd

/-- A process whose wait came to an exit code has ended with it. -/
theorem code_attended (process : Nat) (bytes : List UInt8) (code : ExitCode) (ds : List Deed)
    (h : Attended process bytes (.ok code) ds) (q : Subprocess)
    (hq : q.spans = ds.filterMap (Deed.span? process)) : q.code? = some code := by
  generalize hr : (Except.ok code : Except Stop ExitCode) = r at h
  cases h with
  | unfed => contradiction
  | waited u ds moves h =>
    have hlast : q.last = (u.begin .wait).run moves := by
      simp [Subprocess.last, hq, Deed.span?]
    have hu := (ready_fed process bytes u ds h).1
    cases ha : ((u.begin .wait).run moves).answer with
    | none => simp [ha, verdict] at hr
    | some a =>
      obtain ⟨code', rfl, hexited, -⟩ | ⟨f, rfl, -⟩ := wait_breaks u moves a hu ha
      · obtain rfl : code = code' := by simpa [ha, verdict] using hr
        simp [Subprocess.code?, hlast, hexited]
      · simp [ha, verdict] at hr

/-- A program that came to an exit code was one process, which ended with it. -/
theorem venture_lifetime (program : String) (args : List String) (bytes : List UInt8)
    (code : ExitCode) (ds : List Deed) (h : Venture program args bytes (.ok code) ds) :
    ∃ q : Subprocess, q.program = program ∧ q.args = args ∧ Lifetime q ds ∧
      q.code? = some code := by
  cases h with
  | started process _ ds h =>
    exact ⟨{ program, args, spans := ds.filterMap (Deed.span? process) }, rfl, rfl,
      ⟨process, ds, attends_attended _ _ _ ds h, rfl, rfl⟩, code_attended _ _ code ds h _ rfl⟩

theorem attempt_spawns (dir suffix : String) (contents : List UInt8) (ds : List Deed)
    (path : Option String) (h : Attempt dir suffix contents ds path) :
    ∀ d ∈ ds, d.isSpawn = false := by
  cases h <;> simp [Deed.isSpawn]

end CellRunner
