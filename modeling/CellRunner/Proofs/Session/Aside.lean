import CellRunner.Proofs.Session.Deeds
import CellRunner.Session.Pipeline

/-!
# What has nothing to do with files

The processes of a request, whatever becomes of them, leave the files of its session alone.
-/

set_option autoImplicit false

namespace CellRunner

/-- Whether a request makes, fills or removes a file. -/
def Deed.isOnFile : Deed → Bool
  | .create .. | .fill .. | .remove .. => true
  | _ => false

/-- None of the requests is about a file. -/
def Fileless (ds : List Deed) : Prop := ∀ d ∈ ds, d.isOnFile = false

theorem fileless_nil : Fileless [] := by simp [Fileless]

theorem fileless_one (d : Deed) (h : d.isOnFile = false) : Fileless [d] := by
  simpa [Fileless] using h

theorem fileless_append (ds es : List Deed) (hd : Fileless ds) (he : Fileless es) :
    Fileless (ds ++ es) := by
  intro d h
  obtain h | h := List.mem_append.mp h
  · exact hd d h
  · exact he d h

namespace Act

variable {σ α β : Type}

/-- The action leaves the files and the count of requests as they are, and makes no request
about a file. -/
def Aside (a : Act (Recording σ) α) : Prop :=
  ∀ s, a.Traces s fun _ t _ ds =>
    t.files = s.files ∧ t.executions = s.executions ∧ Fileless ds

theorem aside_pure (v : α) : Aside (σ := σ) (pure v) :=
  fun _ => traces_pure v ⟨rfl, rfl, fileless_nil⟩

theorem aside_fail (f : Fault) : Aside (σ := σ) (α := α) (fail f) :=
  fun _ => traces_fail f ⟨rfl, rfl, fileless_nil⟩

theorem aside_hung : Aside (σ := σ) (α := α) (throw .hung) :=
  fun _ => traces_hung ⟨rfl, rfl, fileless_nil⟩

theorem aside_bind {a : Act (Recording σ) α} {f : α → Act (Recording σ) β} (h : Aside a)
    (hf : ∀ v, Aside (f v)) : Aside (a >>= f) := by
  intro s
  refine traces_bind (h s) ?_ (fun _ _ _ _ hkept => hkept)
  rintro v t es ds ⟨hfiles, hcount, hds⟩
  refine traces_mono (hf v t) ?_
  rintro r u es' ds' ⟨hfiles', hcount', hds'⟩
  exact ⟨hfiles'.trans hfiles, hcount'.trans hcount, fileless_append ds ds' hds hds'⟩

theorem aside_get : Aside (σ := σ) get := fun _ => traces_get ⟨rfl, rfl, fileless_nil⟩

theorem aside_emitAll (es : List Event) : Aside (σ := σ) (emitAll es) :=
  fun _ => traces_emitAll es ⟨rfl, rfl, fileless_nil⟩

theorem aside_emit (e : Event) : Aside (σ := σ) (emit e) :=
  fun _ => traces_emit e ⟨rfl, rfl, fileless_nil⟩

theorem aside_ask (request : Recording σ → α × Recording σ) (deed : Recording σ → Deed)
    (hd : ∀ s, (request s).2.deeds = s.deeds ++ [deed s]) (hf : ∀ s, (deed s).isOnFile = false) :
    Aside (ask request) :=
  fun s => traces_ask request _ (hd s.world) ⟨rfl, rfl, fileless_one _ (hf s.world)⟩

theorem aside_attempt {a : Act (Recording σ) α} (h : Aside a) : Aside (attempt a) :=
  fun s => traces_mono (traces_attempt (h s)) fun _ _ _ _ ⟨_, _, hkept⟩ => hkept

end Act

open Act

namespace Job

variable {σ : Type}

theorem aside_start (w : World σ) (program : String) (args : List String) :
    Aside (Job.start w.recorded program args) := by
  refine aside_bind (aside_ask _ (fun s => .spawn program args (w.spawn s.world program args).1)
    (fun _ => rfl) (fun _ => rfl)) fun r => ?_
  cases r with
  | error e => exact aside_bind (aside_emit _) fun _ => aside_fail _
  | ok id => exact aside_bind (aside_emit _) fun _ => aside_pure _

theorem aside_call (w : World σ) (p : Job) (c : Supervisor.Call) :
    Aside (p.call w.recorded c) := by
  have hanswered (after : Supervisor) : Aside (σ := σ) (p.answered after) := by
    refine aside_bind (aside_emitAll _) fun _ => ?_
    cases after.answer with
    | some a => exact aside_pure _
    | none => exact aside_hung
  unfold call
  dsimp only
  cases (p.state.begin c).answer with
  | some a => exact aside_bind (aside_pure _) fun _ => hanswered _
  | none =>
    exact aside_bind (aside_ask _
      (fun s => .during p.id _ (w.during s.world p.id (p.state.begin c)).1)
      (fun _ => rfl) (fun _ => rfl)) fun _ => hanswered _

theorem aside_release (w : World σ) (p : Job) : Aside (p.release w.recorded) :=
  aside_bind (fun _ => traces_modify _ [.release p.id] rfl rfl ⟨rfl, rfl, fileless_one _ rfl⟩)
    fun _ => aside_emit _

theorem aside_releasing {α : Type} (w : World σ) (p : Job) (a : Act (Recording σ) α)
    (h : Aside a) : Aside (p.releasing w.recorded a) := by
  refine aside_bind (aside_attempt h) fun r => ?_
  cases r with
  | ok v => exact aside_bind (aside_release w p) fun _ => aside_pure v
  | error f => exact aside_bind (aside_release w p) fun _ => aside_fail f

theorem aside_write (w : World σ) (p : Job) (bytes : List UInt8) :
    Aside (p.write w.recorded bytes) := by
  refine aside_bind (aside_emit _) fun _ => aside_bind (aside_call w p _) ?_
  rintro ⟨a, p'⟩
  cases a with
  | failed f => exact aside_fail _
  | _ => exact aside_pure _

theorem aside_closeInput (w : World σ) (p : Job) : Aside (p.closeInput w.recorded) :=
  aside_bind (aside_emit _) fun _ => aside_bind (aside_call w p _) fun _ => aside_pure _

theorem aside_wait (w : World σ) (p : Job) : Aside (p.wait w.recorded) := by
  refine aside_bind (aside_call w p _) ?_
  rintro ⟨a, p'⟩
  cases a with
  | waited code => exact aside_pure _
  | failed f => exact aside_fail _
  | _ => exact aside_hung

end Job

namespace Pipeline

variable {σ : Type}

/-- A process, whatever becomes of it, has nothing to do with the files of its session. -/
theorem aside_runProgram (w : World σ) (program : String) (args : List String)
    (input : Option (List UInt8)) : Aside (runProgram w.recorded program args input) := by
  refine aside_bind (Job.aside_start w program args) fun p => ?_
  refine Job.aside_releasing w p _ ?_
  have hfinish (p : Job) : Aside (do
      let p ← p.closeInput w.recorded
      return (← p.wait w.recorded).1) :=
    aside_bind (Job.aside_closeInput w p) fun p =>
      aside_bind (Job.aside_wait w p) fun r => aside_pure r.1
  cases input with
  | none => exact aside_bind (aside_pure p) hfinish
  | some bytes => exact aside_bind (Job.aside_write w p bytes) hfinish

theorem aside_execute (w : World σ) (d : Directives) (binary : String) :
    Aside (execute w.recorded d binary) := by
  refine aside_bind (aside_emitAll _) fun _ =>
    aside_bind (aside_runProgram w _ _ _) fun code => ?_
  dsimp only
  split
  · exact aside_bind (aside_emit _) fun _ => aside_pure _
  · exact aside_pure _

theorem aside_makeExecutable (w : World σ) (script : String) (mode : Nat) :
    Aside (makeExecutable w.recorded script mode) := by
  refine aside_bind (aside_ask _ (fun s => .setMode script mode (w.setMode s.world script mode).1)
    (fun _ => rfl) (fun _ => rfl)) fun r => aside_bind (aside_emit _) fun _ => ?_
  cases r with
  | ok _ => exact aside_pure _
  | error e => exact aside_emit _

theorem aside_verify (w : World σ) (c : Config) (script binary : String) :
    Aside (verify w.recorded c script binary) := by
  refine aside_bind (aside_emit _) fun _ => aside_bind (aside_makeExecutable w _ _) fun _ =>
    aside_bind (aside_emit _) fun _ => aside_bind (aside_runProgram w _ _ _) fun code => ?_
  dsimp only
  split
  · exact aside_bind (aside_emit _) fun _ => aside_pure _
  · exact aside_pure _

theorem aside_verifyAll (w : World σ) (c : Config) (binary : String) (stage : Stage)
    (index : Nat) (scripts : List String) :
    Aside (verifyAll w.recorded c binary stage index scripts) := by
  induction scripts generalizing stage index with
  | nil => exact aside_pure _
  | cons script scripts ih =>
    exact aside_bind (aside_emit _) fun _ => aside_bind (aside_verify w c script binary) fun _ =>
      aside_bind (ih _ _) fun _ => aside_pure _

/-- What follows the making of the two files. -/
theorem aside_rest (w : World σ) (c : Config) (d : Directives) (source binary : String) :
    Aside (do
      let compileExit ← compile w.recorded c d source binary
      if compileExit ≠ 0 then
        sayAll (compilerFailed (← get).files.dir compileExit)
        transition .compiling .aborted
        return ({ finalStage := .aborted, compileExit } : Report)
      else
        transition .compiling .running
        let runExit ← execute w.recorded d binary
        let (last, scriptExits) ← verifyAll w.recorded c binary .running 0 d.testScripts
        transition last .done
        return { finalStage := .done, compileExit, runExit := some runExit, scriptExits,
                 binary := some binary }) := by
  refine aside_bind (aside_runProgram w _ _ _) fun code => ?_
  dsimp only
  split
  · exact aside_bind aside_get fun _ => aside_bind (aside_emitAll _) fun _ =>
      aside_bind (aside_emit _) fun _ => aside_pure _
  · exact aside_bind (aside_emit _) fun _ => aside_bind (aside_execute w d binary) fun _ =>
      aside_bind (aside_verifyAll w c binary _ _ _) fun _ =>
        aside_bind (aside_emit _) fun _ => aside_pure _

end Pipeline

end CellRunner
