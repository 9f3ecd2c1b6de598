import CellRunner.Proofs.Session.Orderly
import CellRunner.Proofs.Session.Stages
import CellRunner.Proofs.Session.Ventures

/-!
# All that can become of a request

A request may stop at each of its files and at each of its programs, or go on. What it comes to,
its stages and what it asks of the world are related by the rules below, one for each way that it
can take.
-/

set_option autoImplicit false

namespace CellRunner
open Supervisor

/-- What becomes of a compiled program. -/
def Running (d : Directives) (binary : String) : Except Stop ExitCode → List Deed → Prop :=
  Venture binary d.programArgs (Utf8.encode d.stdin)

/-- What becomes of a test script: its mode is changed if possible, then it is run. -/
inductive Try (c : Config) (binary script : String) : Except Stop ExitCode → List Deed → Prop where
  | run (moded : Except IoFault Unit) (r : Except Stop ExitCode) (ds : List Deed)
      (h : Venture (scriptCommand c (Text.trimmed script) binary).1
        (scriptCommand c (Text.trimmed script) binary).2 [] r ds) :
      Try c binary script r
        (.setMode (Text.trimmed script) c.verification.scriptMode moded :: ds)

/-- What becomes of test scripts that are run one after the other. -/
inductive Trials (c : Config) (binary : String) :
    List String → Except Stop (List ExitCode) → List Deed → Prop where
  | nil : Trials c binary [] (.ok []) []
  | stopped (script : String) (scripts : List String) (e : Stop) (ds : List Deed)
      (h : Try c binary script (.error e) ds) : Trials c binary (script :: scripts) (.error e) ds
  | next (script : String) (scripts : List String) (code : ExitCode)
      (r : Except Stop (List ExitCode)) (ds es : List Deed)
      (h : Try c binary script (.ok code) ds) (rest : Trials c binary scripts r es) :
      Trials c binary (script :: scripts) (r.map (code :: ·)) (ds ++ es)

/-- What becomes of a source that is to be compiled. -/
def Compiling (c : Config) (d : Directives) (path binary : String) :
    Except Stop ExitCode → List Deed → Prop :=
  Venture c.toolchain.compiler (compileArgs c d path binary) []

/-- The report of a request whose program and test scripts were run. -/
def fullReport (binary : String) (code : ExitCode) (codes : List ExitCode) : Report :=
  { finalStage := .done, compileExit := 0, runExit := some code, scriptExits := codes,
    binary := some binary }

/-- What becomes of a request whose files were made: what it comes to, its stages, and what was
asked of the world. -/
inductive Proceeds (c : Config) (d : Directives) (path binary : String) :
    Except Stop Report → List (Stage × Stage) → List Deed → Prop where
  | uncompiled (e : Stop) (ds : List Deed) (h : Compiling c d path binary (.error e) ds) :
      Proceeds c d path binary (.error e) [] ds
  | aborted (code : ExitCode) (ds : List Deed) (h : Compiling c d path binary (.ok code) ds)
      (failed : code ≠ 0) : Proceeds c d path binary
        (.ok { finalStage := .aborted, compileExit := code }) [(.compiling, .aborted)] ds
  | unrun (e : Stop) (ds es : List Deed) (h : Compiling c d path binary (.ok 0) ds)
      (h' : Running d binary (.error e) es) :
      Proceeds c d path binary (.error e) [(.compiling, .running)] (ds ++ es)
  | tested (code : ExitCode) (r : Except Stop (List ExitCode)) (ss : List (Stage × Stage))
      (ds es fs : List Deed) (h : Compiling c d path binary (.ok 0) ds)
      (h' : Running d binary (.ok code) es) (trials : Trials c binary d.testScripts r fs) :
      Proceeds c d path binary (r.map (fullReport binary code)) ss (ds ++ (es ++ fs))

/-- What becomes of a request. -/
inductive Requests (c : Config) (d : Directives) (dir source : String) :
    Except Stop Report → List (Stage × Stage) → List Deed → Prop where
  | unsourced (e : Stop) (ds : List Deed)
      (h : Attempt dir ".c" (Utf8.encode source) ds none)
      (stops : Orderly (.error e : Except Stop String) ds) :
      Requests c d dir source (.error e) [] ds
  | unplaced (path : String) (e : Stop) (ds es : List Deed)
      (h : Attempt dir ".c" (Utf8.encode source) ds (some path))
      (h' : Attempt dir ".out" [] es none)
      (stops : Orderly (.error e : Except Stop String) es) :
      Requests c d dir source (.error e) [] (ds ++ es)
  | filed (path binary : String) (r : Except Stop Report) (ss : List (Stage × Stage))
      (ds es fs : List Deed) (h : Attempt dir ".c" (Utf8.encode source) ds (some path))
      (h' : Attempt dir ".out" [] es (some binary)) (rest : Proceeds c d path binary r ss fs)
      (aside : Fileless fs) : Requests c d dir source r ss (ds ++ (es ++ fs))

namespace Pipeline
open Act

variable {σ : Type}

theorem traces_yields {α : Type} {a : Act (Recording σ) α} {s : Scene (Recording σ)}
    {P : Except Stop α → Scene (Recording σ) → List Event → List Deed → Prop}
    {Q : Except Stop α → Scene (Recording σ) → List Event → Prop} (h : a.Traces s P)
    (h' : a.Yields s Q) : a.Traces s fun r t es ds => P r t es ds ∧ Q r t es := by
  obtain ⟨es, hes, ds, hds, hp⟩ := h
  obtain ⟨es', hes', hq⟩ := h'
  obtain rfl := List.append_cancel_left (hes.symm.trans hes')
  exact ⟨es, hes, ds, hds, hp, hq⟩

/-- A remark on an exit code asks nothing of the world. -/
theorem remarked_traces (w : World σ) (program : String) (args : List String)
    (input : Option (List UInt8)) (remark : Int → String) (s : Scene (Recording σ)) :
    Traces (do
      let code ← runProgram w.recorded program args input
      if code ≠ 0 then say .stderr (remark code)
      return code) s fun r _ _ ds => Venture program args (input.getD []) r ds := by
  refine traces_bind (runProgram_traces w program args input s) ?_ (fun _ _ _ _ h => h)
  intro code t _ ds h
  dsimp only
  split
  · exact traces_bind_emit _ <| traces_pure code (by simpa using h)
  · exact traces_pure code (by simpa using h)

theorem execute_traces (w : World σ) (d : Directives) (binary : String)
    (s : Scene (Recording σ)) :
    (execute w.recorded d binary).Traces s fun r _ es ds =>
      Running d binary r ds ∧ steps es = [] := by
  have hrun : (execute w.recorded d binary).Traces s fun r _ _ ds => Running d binary r ds :=
    traces_bind_emitAll _ <| remarked_traces w binary d.programArgs _ _ _
  exact traces_mono (traces_yields hrun (execute_yields w.recorded d binary s))
    fun _ _ _ _ ⟨h, hsteps, _⟩ => ⟨h, hsteps⟩

theorem verify_traces (w : World σ) (c : Config) (script binary : String)
    (s : Scene (Recording σ)) :
    (verify w.recorded c script binary).Traces s fun r _ _ ds => Try c binary script r ds := by
  have hmode (s : Scene (Recording σ)) :
      (makeExecutable w.recorded (Text.trimmed script) c.verification.scriptMode).Traces s
        fun r _ _ ds => r = .ok () ∧
          ∃ moded, ds = [.setMode (Text.trimmed script) c.verification.scriptMode moded] := by
    refine traces_bind_ask _ (.setMode _ _) rfl fun moded world => traces_bind_emit _ ?_
    cases moded with
    | ok _ => exact traces_pure _ ⟨rfl, _, rfl⟩
    | error e => exact traces_emit _ ⟨rfl, _, rfl⟩
  refine traces_bind_emit _ <| traces_bind (hmode _) ?_ (by simp)
  rintro _ t _ _ ⟨-, moded, rfl⟩
  refine traces_bind_emit _ <| traces_mono (remarked_traces w _ _ none _ _) ?_
  intro r u _ ds h
  -- the command is opened first, lest the trimmed script be evaluated to compare the two
  have hrun := @Try.run c binary script moded r ds
  unfold scriptCommand at hrun
  exact hrun h

theorem verifyAll_traces (w : World σ) (c : Config) (binary : String) (stage : Stage)
    (index : Nat) (scripts : List String) (s : Scene (Recording σ)) :
    (verifyAll w.recorded c binary stage index scripts).Traces s fun r _ _ ds =>
      Trials c binary scripts (r.map (·.2)) ds := by
  induction scripts generalizing stage index s with
  | nil => exact traces_pure _ .nil
  | cons script scripts ih =>
    refine traces_bind_emit _ <| traces_bind (verify_traces w c script binary _) ?_ ?_
    · intro code t _ ds h
      refine traces_bind (ih _ _ t) ?_ ?_
      · rintro ⟨last, codes⟩ u _ es hrest
        exact traces_pure _ (by simpa using .next script scripts code _ ds es h hrest)
      · intro e u _ es hrest
        exact .next script scripts code _ ds es h hrest
    · intro e t _ ds h
      exact .stopped script scripts e ds h

/-- What follows the making of the two files of a request. -/
theorem proceeds_traces (w : World σ) (c : Config) (d : Directives) (path binary : String)
    (s : Scene (Recording σ)) :
    Traces (do
      let compileExit ← compile w.recorded c d path binary
      if compileExit ≠ 0 then
        sayAll (compilerFailed (← get).files.dir compileExit)
        transition .compiling .aborted
        return ({ finalStage := .aborted, compileExit } : Report)
      else
        transition .compiling .running
        let runExit ← execute w.recorded d binary
        let (last, scriptExits) ← verifyAll w.recorded c binary .running 0 d.testScripts
        transition last .done
        return { finalStage := .done, compileExit, runExit := some runExit, scriptExits,
                 binary := some binary }) s fun r _ es ds =>
      Proceeds c d path binary r (steps es) ds := by
  refine traces_bind (traces_yields (runProgram_traces w _ _ none s)
    (runProgram_yields w.recorded _ _ none s)) ?_ ?_
  rotate_left
  · rintro e t es ds ⟨h, hsteps, -⟩
    rw [hsteps]
    exact .uncompiled e ds h
  rintro compileExit t es ds ⟨h, hsteps, -⟩
  dsimp only
  split
  next hfailed =>
    refine traces_bind_get <| traces_bind_emitAll _ <| traces_bind_emit _ <| traces_pure _ ?_
    have hsaid : steps ((compilerFailed t.files.dir compileExit).map (Event.wrote .stderr)) = [] :=
      rfl
    simpa [hsteps, hsaid] using Proceeds.aborted compileExit ds h hfailed
  next hwell =>
    obtain rfl : compileExit = 0 := by simpa using hwell
    refine traces_bind_emit _ <| traces_bind (execute_traces w d binary _) ?_ ?_
    · rintro code u es' ds' ⟨h', -⟩
      refine traces_bind (verifyAll_traces w c binary .running 0 d.testScripts u) ?_ ?_
      · rintro ⟨last, codes⟩ v es'' ds'' htrials
        refine traces_bind_emit _ <| traces_pure _ ?_
        simpa [Except.map, fullReport] using
          Proceeds.tested code (.ok codes) _ ds ds' ds'' h h' htrials
      · intro e v es'' ds'' htrials
        exact .tested code _ _ ds ds' ds'' h h' htrials
    · rintro e u es' ds' ⟨h', hsteps'⟩
      simpa [hsteps, hsteps'] using Proceeds.unrun e ds ds' h h'

theorem run_traces (w : World σ) (c : Config) (source : String) (d : Directives)
    (s : Scene (Recording σ)) :
    (run w.recorded c source d).Traces s fun r _ es ds =>
      Requests c d s.files.dir source r (steps es) ds := by
  have hcreate (suffix : String) (contents : List UInt8) (s : Scene (Recording σ)) :=
    traces_and (TempFiles.create_traces w suffix contents s) <|
      traces_yields (TempFiles.create_orderly w suffix contents s)
        (create_yields w.recorded suffix contents s)
  unfold run
  refine traces_bind (hcreate ".c" (Utf8.encode source) s) ?_ ?_
  rotate_left
  · rintro e t es ds ⟨⟨-, ⟨path, hr, -⟩ | ⟨-, h, -⟩⟩, hstops, hsteps, -⟩
    · contradiction
    · rw [hsteps]
      exact .unsourced e ds h hstops
  rintro path t es ds ⟨⟨-, ⟨_, ⟨⟩, h, hfiles⟩ | ⟨⟨e, he⟩, -⟩⟩, -, hsteps, -⟩
  rotate_left
  · contradiction
  refine traces_bind (hcreate ".out" [] t) ?_ ?_
  rotate_left
  · rintro e u es' ds' ⟨⟨-, ⟨binary, hr, -⟩ | ⟨-, h', -⟩⟩, hstops, hsteps', -⟩
    · contradiction
    · rw [hfiles] at h'
      simpa [hsteps, hsteps'] using Requests.unplaced path e ds ds' h h' hstops
  rintro binary u es' ds' ⟨⟨-, ⟨_, ⟨⟩, h', -⟩ | ⟨⟨e, he⟩, -⟩⟩, -, hsteps', -⟩
  rotate_left
  · contradiction
  rw [hfiles] at h'
  refine traces_mono (traces_and (proceeds_traces w c d path binary u)
    (aside_rest w c d path binary u)) ?_
  rintro r v es'' ds'' ⟨hrest, -, -, haside⟩
  simpa [hsteps, hsteps'] using Requests.filed path binary r _ ds ds' ds'' h h' hrest haside

end Pipeline

end CellRunner
