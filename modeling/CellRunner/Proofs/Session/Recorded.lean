import CellRunner.Proofs.Session.Deeds
import CellRunner.Session.Basic

/-!
# Keeping a record changes nothing

In a world that keeps a record, every action comes to what it comes to without it, with the same
events and the same files, and leaves the same world. So what is shown with the help of the record
holds of a session in any world.
-/

set_option autoImplicit false

namespace CellRunner

variable {σ α β : Type}

/-- The scene without the record. -/
def Scene.forget (s : Scene (Recording σ)) : Scene σ where
  world := s.world.world
  files := s.files
  executions := s.executions
  events := s.events

namespace Act

/-- What an action came to, without the record. -/
def forgotten : EStateM.Result Stop (Scene (Recording σ)) α → EStateM.Result Stop (Scene σ) α
  | .ok v t => .ok v t.forget
  | .error e t => .error e t.forget

/-- The first action does with a record what the second does without. -/
def Mirrors (a : Act (Recording σ) α) (b : Act σ α) : Prop :=
  ∀ s, b s.forget = forgotten (a s)

theorem Mirrors.after {a : Act (Recording σ) α} {b : Act σ α} (h : Mirrors a b)
    (s : Scene (Recording σ)) : b.after s.forget = (a.after s).forget := by
  unfold Act.after
  rw [h s]
  cases a s <;> rfl

theorem Mirrors.outcome {a : Act (Recording σ) α} {b : Act σ α} (h : Mirrors a b)
    (s : Scene (Recording σ)) : b.outcome s.forget = a.outcome s := by
  unfold Act.outcome
  rw [h s]
  cases a s <;> rfl

/-- What is shown of an action with a record is shown of what the action comes to without. -/
theorem traces_mirrors {a : Act (Recording σ) α} {b : Act σ α} {s : Scene (Recording σ)}
    {P : Except Stop α → Scene (Recording σ) → List Event → List Deed → Prop} (hm : Mirrors a b)
    (h : a.Traces s P) : a.Traces s fun r t es ds => b.outcome s.forget = r ∧ P r t es ds := by
  obtain ⟨es, hes, ds, hds, hp⟩ := h
  exact ⟨es, hes, ds, hds, hm.outcome s, hp⟩

theorem mirrors_pure (v : α) : Mirrors (σ := σ) (pure v) (pure v) := fun _ => rfl

theorem mirrors_fail (f : Fault) : Mirrors (σ := σ) (α := α) (fail f) (fail f) := fun _ => rfl

theorem mirrors_hung : Mirrors (σ := σ) (α := α) (throw .hung) (throw .hung) := fun _ => rfl

theorem mirrors_emitAll (es : List Event) : Mirrors (σ := σ) (emitAll es) (emitAll es) :=
  fun _ => rfl

theorem mirrors_emit (e : Event) : Mirrors (σ := σ) (emit e) (emit e) := fun _ => rfl

theorem mirrors_modify (f : Scene (Recording σ) → Scene (Recording σ)) (g : Scene σ → Scene σ)
    (h : ∀ s, g s.forget = (f s).forget) : Mirrors (modify f) (modify g) :=
  fun s => congrArg (EStateM.Result.ok ()) (h s)

theorem mirrors_ask (request : Recording σ → α × Recording σ) (plain : σ → α × σ)
    (h : ∀ s, ((request s).1, (request s).2.world) = plain s.world) :
    Mirrors (ask request) (ask plain) := by
  intro s
  change EStateM.Result.ok (plain s.world.world).1
    { s.forget with world := (plain s.world.world).2 } = _
  rw [← h s.world]
  rfl

theorem mirrors_bind {a : Act (Recording σ) α} {b : Act σ α} {f : α → Act (Recording σ) β}
    {g : α → Act σ β} (h : Mirrors a b) (hf : ∀ v, Mirrors (f v) (g v)) :
    Mirrors (a >>= f) (b >>= g) := by
  intro s
  have hs := h s
  simp only [bind, EStateM.bind, hs]
  cases a s with
  | ok v t => exact hf v t
  | error e t => rfl

theorem mirrors_get {f : Scene (Recording σ) → Act (Recording σ) β} {g : Scene σ → Act σ β}
    (h : ∀ s, Mirrors (f s) (g s.forget)) : Mirrors (get >>= f) (get >>= g) :=
  fun s => h s s

theorem mirrors_attempt {a : Act (Recording σ) α} {b : Act σ α} (h : Mirrors a b) :
    Mirrors (attempt a) (attempt b) := by
  intro s
  simp only [attempt, h s]
  cases a s with
  | ok v t => rfl
  | error e t => cases e <;> rfl

end Act

open Act

namespace TempFiles

theorem removeFile_mirrors (w : World σ) (path : String) :
    Mirrors (removeFile w.recorded path) (removeFile w path) :=
  mirrors_bind (mirrors_ask _ _ fun _ => rfl) fun _ =>
    mirrors_bind (mirrors_emit _) fun _ => mirrors_pure _

theorem create_mirrors (w : World σ) (suffix : String) (contents : List UInt8) :
    Mirrors (create w.recorded suffix contents) (create w suffix contents) := by
  refine mirrors_get fun s => mirrors_bind (mirrors_ask _ _ fun _ => rfl) fun made => ?_
  cases made with
  | error e => exact mirrors_bind (mirrors_emit _) fun _ => mirrors_fail _
  | ok path =>
    refine mirrors_bind (mirrors_ask _ _ fun _ => rfl) fun done => ?_
    cases done with
    | error e => exact mirrors_bind (removeFile_mirrors w path) fun _ => mirrors_fail _
    | ok _ =>
      exact mirrors_bind (mirrors_modify _ _ fun _ => rfl) fun _ =>
        mirrors_bind (mirrors_emit _) fun _ => mirrors_pure _

theorem removeAll_mirrors (w : World σ) (paths : List String) :
    Mirrors (removeAll w.recorded paths) (removeAll w paths) := by
  induction paths with
  | nil => exact mirrors_pure _
  | cons path paths ih =>
    exact mirrors_bind (removeFile_mirrors w path) fun _ => mirrors_bind ih fun _ => mirrors_pure _

theorem release_mirrors (w : World σ) : Mirrors (release w.recorded) (release w) :=
  mirrors_get fun _ => mirrors_bind (mirrors_modify _ _ fun _ => rfl) fun _ =>
    removeAll_mirrors w _

theorem cleanup_mirrors (w : World σ) : Mirrors (cleanup w.recorded) (cleanup w) := by
  refine mirrors_bind (release_mirrors w) fun failures => mirrors_bind (mirrors_emitAll _) fun _ => ?_
  cases failures with
  | nil => exact mirrors_pure _
  | cons failure failures => exact mirrors_fail _

theorem drop_mirrors (w : World σ) : Mirrors (drop w.recorded) (drop w) :=
  mirrors_bind (release_mirrors w) fun _ => mirrors_pure _

end TempFiles

namespace Job

theorem start_mirrors (w : World σ) (program : String) (args : List String) :
    Mirrors (Job.start w.recorded program args) (Job.start w program args) := by
  refine mirrors_bind (mirrors_ask _ _ fun _ => rfl) fun r => ?_
  cases r with
  | error e => exact mirrors_bind (mirrors_emit _) fun _ => mirrors_fail _
  | ok id => exact mirrors_bind (mirrors_emit _) fun _ => mirrors_pure _

theorem call_mirrors (w : World σ) (p : Job) (c : Supervisor.Call) :
    Mirrors (p.call w.recorded c) (p.call w c) := by
  have hanswered (after : Supervisor) : Mirrors (σ := σ) (p.answered after) (p.answered after) := by
    refine mirrors_bind (mirrors_emitAll _) fun _ => ?_
    cases after.answer with
    | some a => exact mirrors_pure _
    | none => exact mirrors_hung
  unfold call
  dsimp only
  cases (p.state.begin c).answer with
  | some a => exact mirrors_bind (mirrors_pure _) fun _ => hanswered _
  | none => exact mirrors_bind (mirrors_ask _ _ fun _ => rfl) fun _ => hanswered _

theorem releasing_mirrors (w : World σ) (p : Job) {a : Act (Recording σ) α} {b : Act σ α}
    (h : Mirrors a b) : Mirrors (p.releasing w.recorded a) (p.releasing w b) := by
  have hrelease : Mirrors (p.release w.recorded) (p.release w) :=
    mirrors_bind (mirrors_modify _ _ fun _ => rfl) fun _ => mirrors_emit _
  refine mirrors_bind (mirrors_attempt h) fun r => ?_
  cases r with
  | ok v => exact mirrors_bind hrelease fun _ => mirrors_pure v
  | error f => exact mirrors_bind hrelease fun _ => mirrors_fail f

theorem write_mirrors (w : World σ) (p : Job) (bytes : List UInt8) :
    Mirrors (p.write w.recorded bytes) (p.write w bytes) := by
  refine mirrors_bind (mirrors_emit _) fun _ => mirrors_bind (call_mirrors w p _) ?_
  rintro ⟨a, p'⟩
  cases a with
  | failed f => exact mirrors_fail _
  | _ => exact mirrors_pure _

theorem closeInput_mirrors (w : World σ) (p : Job) :
    Mirrors (p.closeInput w.recorded) (p.closeInput w) :=
  mirrors_bind (mirrors_emit _) fun _ => mirrors_bind (call_mirrors w p _) fun _ => mirrors_pure _

theorem wait_mirrors (w : World σ) (p : Job) : Mirrors (p.wait w.recorded) (p.wait w) := by
  refine mirrors_bind (call_mirrors w p _) ?_
  rintro ⟨a, p'⟩
  cases a with
  | waited code => exact mirrors_pure _
  | failed f => exact mirrors_fail _
  | _ => exact mirrors_hung

end Job

namespace Pipeline

theorem runProgram_mirrors (w : World σ) (program : String) (args : List String)
    (input : Option (List UInt8)) :
    Mirrors (runProgram w.recorded program args input) (runProgram w program args input) := by
  refine mirrors_bind (Job.start_mirrors w program args) fun p => Job.releasing_mirrors w p ?_
  have hfinish (p : Job) : Mirrors
      (do
        let p ← p.closeInput w.recorded
        return (← p.wait w.recorded).1)
      (do
        let p ← p.closeInput w
        return (← p.wait w).1) :=
    mirrors_bind (Job.closeInput_mirrors w p) fun p =>
      mirrors_bind (Job.wait_mirrors w p) fun r => mirrors_pure r.1
  cases input with
  | none => exact mirrors_bind (mirrors_pure p) hfinish
  | some bytes => exact mirrors_bind (Job.write_mirrors w p bytes) hfinish

theorem execute_mirrors (w : World σ) (d : Directives) (binary : String) :
    Mirrors (execute w.recorded d binary) (execute w d binary) := by
  refine mirrors_bind (mirrors_emitAll _) fun _ =>
    mirrors_bind (runProgram_mirrors w _ _ _) fun code => ?_
  dsimp only
  split
  · exact mirrors_bind (mirrors_emit _) fun _ => mirrors_pure _
  · exact mirrors_pure _

theorem makeExecutable_mirrors (w : World σ) (script : String) (mode : Nat) :
    Mirrors (makeExecutable w.recorded script mode) (makeExecutable w script mode) := by
  refine mirrors_bind (mirrors_ask _ _ fun _ => rfl) fun r =>
    mirrors_bind (mirrors_emit _) fun _ => ?_
  cases r with
  | ok _ => exact mirrors_pure _
  | error e => exact mirrors_emit _

theorem verify_mirrors (w : World σ) (c : Config) (script binary : String) :
    Mirrors (verify w.recorded c script binary) (verify w c script binary) := by
  refine mirrors_bind (mirrors_emit _) fun _ =>
    mirrors_bind (makeExecutable_mirrors w _ _) fun _ => mirrors_bind (mirrors_emit _) fun _ =>
      mirrors_bind (runProgram_mirrors w _ _ _) fun code => ?_
  dsimp only
  split
  · exact mirrors_bind (mirrors_emit _) fun _ => mirrors_pure _
  · exact mirrors_pure _

theorem verifyAll_mirrors (w : World σ) (c : Config) (binary : String) (stage : Stage)
    (index : Nat) (scripts : List String) :
    Mirrors (verifyAll w.recorded c binary stage index scripts)
      (verifyAll w c binary stage index scripts) := by
  induction scripts generalizing stage index with
  | nil => exact mirrors_pure _
  | cons script scripts ih =>
    exact mirrors_bind (mirrors_emit _) fun _ =>
      mirrors_bind (verify_mirrors w c script binary) fun _ =>
        mirrors_bind (ih _ _) fun _ => mirrors_pure _

theorem run_mirrors (w : World σ) (c : Config) (source : String) (d : Directives) :
    Mirrors (run w.recorded c source d) (run w c source d) := by
  refine mirrors_bind (TempFiles.create_mirrors w _ _) fun path =>
    mirrors_bind (TempFiles.create_mirrors w _ _) fun binary =>
      mirrors_bind (runProgram_mirrors w _ _ _) fun code => ?_
  dsimp only
  split
  · exact mirrors_get fun _ => mirrors_bind (mirrors_emitAll _) fun _ =>
      mirrors_bind (mirrors_emit _) fun _ => mirrors_pure _
  · exact mirrors_bind (mirrors_emit _) fun _ => mirrors_bind (execute_mirrors w d binary) fun _ =>
      mirrors_bind (verifyAll_mirrors w c binary _ _ _) fun _ =>
        mirrors_bind (mirrors_emit _) fun _ => mirrors_pure _

end Pipeline

namespace Session

theorem run_mirrors (w : World σ) (c : Config) (source : String) :
    Mirrors (run w.recorded c source) (run w c source) :=
  mirrors_bind (mirrors_modify _ _ fun _ => rfl) fun _ =>
    mirrors_bind (mirrors_emitAll _) fun _ =>
      mirrors_bind (Pipeline.run_mirrors w c source _) fun _ =>
        mirrors_get fun _ => mirrors_bind (mirrors_emit _) fun _ => mirrors_pure _

theorem shutdown_mirrors (w : World σ) : Mirrors (shutdown w.recorded) (shutdown w) := by
  refine mirrors_get fun s =>
    mirrors_bind (mirrors_attempt (TempFiles.cleanup_mirrors w)) fun r => ?_
  cases r with
  | ok _ => exact mirrors_emit _
  | error f => exact mirrors_bind (mirrors_emit _) fun _ => mirrors_fail _

end Session

end CellRunner
