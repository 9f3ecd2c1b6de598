import CellRunner.Proofs.Session.Processes

/-!
# The stages of a request

A request goes from stage to stage along one of two paths, and its report agrees with what
was told on the way: each exit code of the report is that of a process which was started for
it, in the order of the stages.
-/

set_option autoImplicit false

namespace CellRunner

/-- The transitions from a stage through others; each starts where the one before ended. -/
def path (stage : Stage) : List Stage → List (Stage × Stage)
  | [] => []
  | next :: rest => (stage, next) :: path next rest

/-- The path of a file that was made with a suffix. -/
def Made {σ : Type} (w : World σ) (suffix path : String) : Prop :=
  ∃ world dir, (w.create world dir suffix).1 = .ok path

namespace Act

variable {σ α β : Type}

/-- An action that does not stop and tells no milestone. -/
def Quiet (a : Act σ α) (s : Scene σ) : Prop :=
  a.Yields s fun r _ es => (∃ v, r = .ok v) ∧ milestones es = []

theorem yields_quiet {a : Act σ α} {s : Scene σ} {f : α → Act σ β}
    {R : Except Stop β → Scene σ → List Event → Prop} (h : a.Quiet s)
    (hok : ∀ v t es, milestones es = [] → steps es = [] →
      (f v).Yields t fun r u more => R r u (es ++ more)) : (a >>= f).Yields s R := by
  refine yields_bind h ?_ (by simp)
  rintro v t es ⟨-, hm⟩
  exact hok v t es hm (steps_of_milestones es hm)

theorem quiet_say (stream : Stream) (text : String) (s : Scene σ) : Quiet (say stream text) s :=
  yields_emit _ ⟨⟨_, rfl⟩, rfl⟩

theorem quiet_ask (request : σ → α × σ) (s : Scene σ) : Quiet (ask request) s :=
  yields_ask _ ⟨⟨_, rfl⟩, rfl⟩

end Act

namespace Pipeline
open Act

variable {σ : Type}

theorem quiet_removeFile (w : World σ) (path : String) (s : Scene σ) :
    Quiet (TempFiles.removeFile w path) s := by
  unfold TempFiles.removeFile
  refine yields_quiet (quiet_ask _ s) fun v t es hm hs => ?_
  refine yields_quiet (yields_emit _ ⟨⟨_, rfl⟩, rfl⟩) fun _ u more hmore _ => ?_
  exact yields_pure _ ⟨⟨v, rfl⟩, by simp [hm, hmore]⟩

theorem create_yields (w : World σ) (suffix : String) (contents : List UInt8) (s : Scene σ) :
    (TempFiles.create w suffix contents).Yields s fun r _ es => steps es = [] ∧
      ∀ path, r = .ok path → milestones es = [.created path contents] ∧ Made w suffix path := by
  unfold TempFiles.create
  refine yields_bind (P := fun r _ es => es = [] ∧ ∃ t, r = .ok t)
    (yields_get ⟨rfl, _, rfl⟩) ?_ (by simp)
  rintro t u _ ⟨rfl, -⟩
  refine yields_bind (P := fun r _ es => es = [] ∧
      ∃ v, r = .ok v ∧ ∀ path, v = .ok path → Made w suffix path)
    (yields_ask _ ⟨rfl, _, rfl, fun path h => ⟨_, _, h⟩⟩) ?_ (by simp)
  rintro v u _ ⟨rfl, v', hv, hmade⟩
  obtain rfl : v = v' := by simpa using hv
  cases v with
  | error e =>
    refine yields_bind (P := fun r _ es => r = .ok () ∧ steps es = [])
      (yields_emit _ ⟨rfl, rfl⟩) ?_ (by simp)
    rintro _ u es ⟨-, hsteps⟩
    exact yields_fail _ (by simp [hsteps])
  | ok path =>
    refine yields_bind (P := fun r _ es => es = [] ∧ ∃ v, r = .ok v)
      (yields_ask _ ⟨rfl, _, rfl⟩) ?_ (by simp)
    rintro v u _ ⟨rfl, -⟩
    cases v with
    | error e =>
      refine yields_quiet (quiet_removeFile w path u) fun _ u es _ hsteps => ?_
      exact yields_fail _ (by simp [hsteps])
    | ok _ =>
      refine yields_bind (P := fun r _ es => r = .ok () ∧ es = [])
        (yields_modify _ rfl ⟨rfl, rfl⟩) ?_ (by simp)
      rintro _ u _ ⟨-, rfl⟩
      refine yields_bind (P := fun r _ es => r = .ok () ∧ es = [.created path contents])
        (yields_emit _ ⟨rfl, rfl⟩) ?_ (by simp)
      rintro _ u _ ⟨-, rfl⟩
      exact yields_pure _ (by simpa using hmade path rfl)

theorem quiet_sayAll (texts : List String) (s : Scene σ) : Quiet (sayAll texts) s :=
  yields_emitAll _ ⟨⟨_, rfl⟩, milestones_wrote (fun _ => .stderr) id texts⟩

/-- A command that comes to an exit code, of which something may be told after it. -/
theorem command_yields (w : World σ) (program : String) (args : List String)
    (input : Option (List UInt8)) (text : Int → String) (s : Scene σ) :
    Yields (do
      let code ← runProgram w program args input
      if code ≠ 0 then say .stderr (text code)
      return code) s fun r _ es => steps es = [] ∧
        ∀ code, r = .ok code → ∃ id, milestones es = ran (program, args) id code := by
  refine yields_bind (runProgram_yields w program args input s) ?_ (by simp)
  rintro code t es ⟨hsteps, hran⟩
  obtain ⟨id, hm⟩ := hran code rfl
  dsimp only
  split
  · refine yields_quiet (quiet_say _ _ t) fun _ u more hmore hmoreSteps => ?_
    exact yields_pure _ (by simpa [hsteps, hmoreSteps, hm, hmore] using ⟨id, rfl⟩)
  · exact yields_pure _ (by simpa [hsteps, hm] using ⟨id, rfl⟩)

theorem execute_yields (w : World σ) (d : Directives) (binary : String) (s : Scene σ) :
    (execute w d binary).Yields s fun r _ es => steps es = [] ∧
      ∀ code, r = .ok code → ∃ id, milestones es = ran (binary, d.programArgs) id code := by
  unfold execute
  refine yields_quiet (quiet_sayAll _ s) fun _ t es hm hsteps => ?_
  refine yields_mono (command_yields w binary d.programArgs _ _ t) ?_
  rintro r u more ⟨hmore, hran⟩
  exact ⟨by simp [hsteps, hmore], by simpa [hm] using hran⟩

end Pipeline

namespace Pipeline
open Act

variable {σ : Type}

end Pipeline

end CellRunner
