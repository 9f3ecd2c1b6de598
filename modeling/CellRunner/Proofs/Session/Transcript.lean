import CellRunner.Proofs.Session.Files
import CellRunner.Proofs.Session.Subprocesses

/-!
# What the user reads of a request

What the processes of a request write goes to the user as it is, one process after the other, and
the remarks on a request stand before and after that of the process that they are about.
-/

set_option autoImplicit false

namespace CellRunner

/-- A change of permission bits, and what came of it. -/
structure ModeChange where
  path : String
  mode : Nat
  result : Except IoFault Unit

def Deed.modeChange? : Deed → Option ModeChange
  | .setMode path mode result => some { path, mode, result }
  | _ => none

def modeChanges (ds : List Deed) : List ModeChange := ds.filterMap Deed.modeChange?

/-- A text with a label before it, unless there is no text. -/
def labelled (label text : String) : String := if text = "" then "" else label ++ text

/-- What a source text says for the user to read. -/
def guide (d : Directives) : String :=
  labelled "input: " d.stdin ++ labelled "expected output: " d.expectedStdout ++
    labelled "Some memory hints which you might like to verify for this question:\n"
      (d.memoryHints.noTerminator ++ d.memoryHints.total ++ d.memoryHints.auxiliary ++
        d.memoryHints.expected)

/-- What the user reads when the compiler has failed. -/
def uncompiled (dir : String) (code : Supervisor.ExitCode) : String :=
  "[ckernel] temporary files are kept in " ++ dir ++ "\n" ++
    "[ckernel] compiler exited with code " ++ toString code ++
    ", the executable will not be executed\n"

/-- What the user reads of an attempt to make a script executable: nothing when it succeeds. -/
def unmoded (script : String) : Except IoFault Unit → String
  | .ok () => ""
  | .error e => "[ckernel] could not make " ++ script ++ " executable: " ++ e.message ++ "\n"

/-- A test script with its process and what came of both. -/
structure Trial where
  script : String
  moded : Except IoFault Unit
  process : Subprocess
  code : Supervisor.ExitCode

namespace Trial

/-- The process was started by the command for its script, and ended with its code. -/
def Fits (c : Config) (binary : String) (t : Trial) : Prop :=
  (t.process.program, t.process.args) = scriptCommand c t.script binary ∧
    t.process.code? = some t.code

def modeChange (c : Config) (t : Trial) : ModeChange :=
  { path := t.script, mode := c.verification.scriptMode, result := t.moded }

/-- What the user reads of a test script. -/
def told (t : Trial) : String :=
  "Testing with script: " ++ t.script ++ ".\n" ++ unmoded t.script t.moded ++
    "Command: " ++ Text.quotedList (t.process.program :: t.process.args) ++ "\n" ++
    t.process.said .stderr ++
    if t.code = 0 then ""
    else "[ckernel] test script " ++ t.script ++ " exited with code " ++ toString t.code ++ "\n"

end Trial

/-- A report, the processes and the changes of mode that it is about, and what the user reads of
them on the error stream. -/
inductive Transcript (c : Config) (d : Directives) (dir source binary : String) :
    Report → List Subprocess → List ModeChange → String → Prop where
  | aborted (compiler : Subprocess) (code : Supervisor.ExitCode)
      (program : compiler.program = c.toolchain.compiler)
      (args : compiler.args = compileArgs c d source binary)
      (ended : compiler.code? = some code) (failed : code ≠ 0) :
      Transcript c d dir source binary { finalStage := .aborted, compileExit := code } [compiler] []
        (compiler.said .stderr ++ uncompiled dir code)
  | done (compiler executable : Subprocess) (code : Supervisor.ExitCode) (trials : List Trial)
      (program : compiler.program = c.toolchain.compiler)
      (args : compiler.args = compileArgs c d source binary)
      (ended : compiler.code? = some 0)
      (program' : executable.program = binary) (args' : executable.args = d.programArgs)
      (ended' : executable.code? = some code)
      (scripts : trials.map (·.script) = d.testScripts.map Text.trimmed)
      (fits : ∀ t ∈ trials, t.Fits c binary) :
      Transcript c d dir source binary
        { finalStage := .done, compileExit := 0, runExit := some code
          scriptExits := trials.map (·.code), binary := some binary }
        (compiler :: executable :: trials.map (·.process)) (trials.map (·.modeChange c))
        (compiler.said .stderr ++ guide d ++ executable.said .stderr ++
          (if code = 0 then ""
            else "[ckernel] executable exited with code " ++ toString code ++ "\n") ++
          String.join (trials.map (·.told)))

/-- What was told, and what was asked of the world: these processes were started and these modes
changed, and when all that the processes wrote was read, their texts and `err` were told. -/
structure Passage (es : List Event) (ds : List Deed) (ps : List Subprocess)
    (ms : List ModeChange) (err : String) : Prop where
  starts : Starts ds ps
  modes : modeChanges ds = ms
  stdout : (∀ p ∈ ps, p.Heard) → streamText .stdout es = String.join (ps.map (·.said .stdout))
  stderr : (∀ p ∈ ps, p.Heard) → streamText .stderr es = err

theorem passage_append (es fs : List Event) (ds ds' : List Deed) (ps qs : List Subprocess)
    (ms ns : List ModeChange) (err err' : String) (h : Passage es ds ps ms err)
    (h' : Passage fs ds' qs ns err') :
    Passage (es ++ fs) (ds ++ ds') (ps ++ qs) (ms ++ ns) (err ++ err') where
  starts := starts_append _ _ _ _ h.starts h'.starts
  modes := by rw [modeChanges, List.filterMap_append, ← h.modes, ← h'.modes]; rfl
  stdout hall := by
    have hp := h.stdout fun p hp => hall p (by simp [hp])
    have hq := h'.stdout fun p hp => hall p (by simp [hp])
    rw [streamText_append, hp, hq, List.map_append, String.join_append]
  stderr hall := by
    have hp := h.stderr fun p hp => hall p (by simp [hp])
    have hq := h'.stderr fun p hp => hall p (by simp [hp])
    rw [streamText_append, hp, hq]

theorem passage_nil : Passage [] [] [] [] "" :=
  ⟨starts_nil, rfl, fun _ => rfl, fun _ => rfl⟩

section cons

variable {es : List Event} {ds : List Deed} {ps : List Subprocess} {ms : List ModeChange}
  {err : String}

/-- A remark of the library's own. -/
theorem passage_say (text : String) (h : Passage es ds ps ms err) :
    Passage (.wrote .stderr text :: es) ds ps ms (text ++ err) where
  starts := h.starts
  modes := h.modes
  stdout hall := by simpa using h.stdout hall
  stderr hall := by simp [h.stderr hall]

theorem passage_sayAll (texts : List String) (h : Passage es ds ps ms err) :
    Passage (texts.map (.wrote .stderr) ++ es) ds ps ms (String.join texts ++ err) := by
  induction texts with
  | nil => simpa using h
  | cons text texts ih =>
    rw [String.join_cons, String.append_assoc]
    exact passage_say text ih

/-- An event that no stream shows. -/
theorem passage_event (e : Event) (he : ∀ k, e.text k = "") (h : Passage es ds ps ms err) :
    Passage (e :: es) ds ps ms err where
  starts := h.starts
  modes := h.modes
  stdout hall := by rw [streamText_cons, he, String.empty_append, h.stdout hall]
  stderr hall := by rw [streamText_cons, he, String.empty_append, h.stderr hall]

/-- A request that is about no process and no mode. -/
theorem passage_deed (d : Deed) (hd : d.isStart = false ∧ d.modeChange? = none)
    (h : Passage es ds ps ms err) : Passage es (d :: ds) ps ms err where
  starts := fun rest => (subprocesses_cons d _ hd.1).trans (h.starts rest)
  modes := by rw [modeChanges, List.filterMap_cons, hd.2]; exact h.modes
  stdout := h.stdout
  stderr := h.stderr

theorem passage_mode (path : String) (mode : Nat) (result : Except IoFault Unit)
    (h : Passage es ds ps ms err) :
    Passage es (.setMode path mode result :: ds) ps ({ path, mode, result } :: ms) err where
  starts := fun rest => (subprocesses_cons _ _ rfl).trans (h.starts rest)
  modes := by rw [← h.modes]; rfl
  stdout := h.stdout
  stderr := h.stderr

end cons

theorem modeChanges_lifetime (q : Subprocess) (ds : List Deed) (h : Lifetime q ds) :
    modeChanges ds = [] := by
  obtain ⟨process, attended, hds, rfl, -⟩ := h
  refine List.filterMap_eq_nil_iff.mpr fun d hd => ?_
  obtain rfl | hd := List.mem_cons.mp hd
  · rfl
  obtain hd | hd := List.mem_append.mp hd
  · obtain ⟨begun, moves, rfl⟩ := hds d hd
    rfl
  · obtain rfl := List.mem_singleton.mp hd
    rfl

theorem passage_process (q : Subprocess) (code : Supervisor.ExitCode) (es : List Event)
    (ds : List Deed) (hds : Lifetime q ds) (hq : Pipeline.Ended q code es) :
    Passage es ds [q] [] (q.said .stderr) where
  starts := starts_lifetime q ds hds
  modes := modeChanges_lifetime q ds hds
  stdout hall := by simpa using hq.2 (hall q (by simp)) .stdout
  stderr hall := hq.2 (hall q (by simp)) .stderr

theorem join_shown (texts : List String) :
    String.join (texts.filter (!·.isEmpty)) = String.join texts := by
  induction texts with
  | nil => rfl
  | cons text texts ih =>
    by_cases h : text = ""
    · simpa [h] using ih
    · simp [h, ih]

theorem guidance_shown (d : Directives) : String.join (Pipeline.guidance d) = guide d := by
  have hlabel (label text : String) :
      String.join (if text.isEmpty then [] else [label ++ text]) = labelled label text := by
    by_cases h : text = "" <;> simp [labelled, h]
  have hhints (label : String) (h : MemoryHints) :
      String.join (if h.isEmpty then [] else label :: h.shown) =
        labelled label (h.noTerminator ++ h.total ++ h.auxiliary ++ h.expected) := by
    have hempty : h.isEmpty = true ↔
        h.noTerminator ++ h.total ++ h.auxiliary ++ h.expected = "" := by
      simp [MemoryHints.isEmpty]
    by_cases he : h.isEmpty = true
    · simp only [labelled, if_pos he, if_pos (hempty.mp he)]
      rfl
    · rw [if_neg he, labelled, if_neg (mt hempty.mpr he), MemoryHints.shown, String.join_cons,
        join_shown]
      simp [String.append_assoc]
  rw [Pipeline.guidance, String.join_append, String.join_append, hlabel, hlabel, hhints, guide]

theorem uncompiled_shown (dir : String) (code : Supervisor.ExitCode) :
    String.join (Pipeline.compilerFailed dir code) = uncompiled dir code := by
  unfold Pipeline.compilerFailed uncompiled
  simp only [String.join_cons, String.join_nil, String.append_assoc, String.append_empty]

namespace Pipeline
open Act

variable {σ : Type}

theorem runProgram_passage (w : World σ) (program : String) (args : List String)
    (input : Option (List UInt8)) (s : Scene (Recording σ)) :
    (runProgram w.recorded program args input).Returns s fun code _ es ds => ∃ q : Subprocess,
      q.program = program ∧ q.args = args ∧ q.code? = some code ∧
      Passage es ds [q] [] (q.said .stderr) := by
  refine returns_mono (runProgram_returns w program args input s) ?_
  rintro code t es ds ⟨q, hprogram, hargs, hds, hq⟩
  exact ⟨q, hprogram, hargs, hq.1, passage_process q code es ds hds hq⟩

/-- A program, and a remark on its exit code unless it is zero. -/
theorem remarked_passage (w : World σ) (program : String) (args : List String)
    (input : Option (List UInt8)) (remark : Int → String) (s : Scene (Recording σ)) :
    Returns (do
      let code ← runProgram w.recorded program args input
      if code ≠ 0 then say .stderr (remark code)
      return code) s fun code _ es ds => ∃ q : Subprocess,
        q.program = program ∧ q.args = args ∧ q.code? = some code ∧
        Passage es ds [q] [] (q.said .stderr ++ if code = 0 then "" else remark code) := by
  refine returns_bind (runProgram_passage w program args input s) ?_
  rintro code t es ds ⟨q, hprogram, hargs, hcode, hq⟩
  dsimp only
  split
  next hne =>
    refine traces_bind_emit _ <| returns_pure _ ⟨q, hprogram, hargs, hcode, ?_⟩
    have hsaid := passage_append _ _ _ _ _ _ _ _ _ _ hq (passage_say (remark code) passage_nil)
    simpa [if_neg hne] using hsaid
  next heq =>
    refine returns_pure _ ⟨q, hprogram, hargs, hcode, ?_⟩
    rw [if_pos (by simpa using heq)]
    simpa using hq

theorem execute_passage (w : World σ) (d : Directives) (binary : String)
    (s : Scene (Recording σ)) :
    (execute w.recorded d binary).Returns s fun code _ es ds => ∃ q : Subprocess,
      q.program = binary ∧ q.args = d.programArgs ∧ q.code? = some code ∧
      Passage es ds [q] [] (guide d ++ (q.said .stderr ++ if code = 0 then ""
        else "[ckernel] executable exited with code " ++ toString code ++ "\n")) := by
  refine traces_bind_emitAll _ <| returns_mono (remarked_passage w binary d.programArgs _
    (fun code => "[ckernel] executable exited with code " ++ toString code ++ "\n") _) ?_
  rintro code t es ds ⟨q, hprogram, hargs, hcode, hq⟩
  refine ⟨q, hprogram, hargs, hcode, ?_⟩
  rw [← guidance_shown]
  exact passage_sayAll _ hq

/-- A failure to change the mode is told, and nothing else follows from it. -/
theorem makeExecutable_passage (w : World σ) (script : String) (mode : Nat)
    (s : Scene (Recording σ)) :
    (makeExecutable w.recorded script mode).Returns s fun _ _ es ds => ∃ result,
      Passage es ds [] [{ path := script, mode, result }] (unmoded script result) := by
  refine traces_bind_ask _ (.setMode script mode) rfl fun result world => ?_
  refine traces_bind_emit _ ?_
  cases result with
  | ok _ =>
    exact returns_pure _ ⟨.ok (), passage_event _ (fun _ => rfl) (passage_mode _ _ _ passage_nil)⟩
  | error e =>
    refine traces_emit _ fun _ _ => ⟨.error e, ?_⟩
    refine passage_event _ (fun _ => rfl) (passage_mode _ _ _ ?_)
    have hsaid := passage_say (unmoded script (.error e)) passage_nil
    rw [String.append_empty] at hsaid
    exact hsaid

theorem verify_passage (w : World σ) (c : Config) (script binary : String)
    (s : Scene (Recording σ)) :
    (verify w.recorded c script binary).Returns s fun code _ es ds => ∃ t : Trial,
      t.script = Text.trimmed script ∧ t.code = code ∧ t.Fits c binary ∧
      Passage es ds [t.process] [t.modeChange c] t.told := by
  unfold verify
  dsimp only
  generalize Text.trimmed script = script
  generalize hcommand : scriptCommand c script binary = command
  obtain ⟨program, args⟩ := command
  refine traces_bind_emit _ <| returns_bind (makeExecutable_passage w script _ _) ?_
  rintro _ t es ds ⟨moded, hmoded⟩
  refine traces_bind_emit _ <| returns_mono (remarked_passage w program args none
    (fun code => "[ckernel] test script " ++ script ++ " exited with code " ++ toString code ++
      "\n") _) ?_
  rintro code u es' ds' ⟨q, rfl, rfl, hcode, hq⟩
  refine ⟨{ script, moded, process := q, code }, rfl, rfl, ⟨hcommand.symm, hcode⟩, ?_⟩
  have htold : Trial.told { script, moded, process := q, code } =
      "Testing with script: " ++ script ++ ".\n" ++ (unmoded script moded ++
        ("Command: " ++ Text.quotedList (q.program :: q.args) ++ "\n" ++ (q.said .stderr ++
          if code = 0 then ""
          else "[ckernel] test script " ++ script ++ " exited with code " ++ toString code ++
            "\n"))) := by
    unfold Trial.told
    simp only [String.append_assoc]
  have hsaid := passage_say ("Testing with script: " ++ script ++ ".\n") <|
    passage_append _ _ _ _ _ _ _ _ _ _ hmoded <|
      passage_say ("Command: " ++ Text.quotedList (q.program :: q.args) ++ "\n") hq
  rw [htold]
  exact hsaid

theorem verifyAll_passage (w : World σ) (c : Config) (binary : String) (stage : Stage)
    (index : Nat) (scripts : List String) (s : Scene (Recording σ)) :
    (verifyAll w.recorded c binary stage index scripts).Returns s fun r _ es ds =>
      ∃ ts : List Trial, ts.map (·.script) = scripts.map Text.trimmed ∧ ts.map (·.code) = r.2 ∧
        (∀ t ∈ ts, t.Fits c binary) ∧ Passage es ds (ts.map (·.process))
          (ts.map (·.modeChange c)) (String.join (ts.map (·.told))) := by
  induction scripts generalizing stage index s with
  | nil => exact returns_pure _ ⟨[], rfl, rfl, by simp, passage_nil⟩
  | cons script scripts ih =>
    refine traces_bind_emit _ <| returns_bind (verify_passage w c script binary _) ?_
    rintro code t es ds ⟨trial, hscript, hcode, hfits, htrial⟩
    refine returns_bind (ih _ _ t) ?_
    rintro ⟨last, codes⟩ u es' ds' ⟨trials, hscripts, hcodes, hall, htrials⟩
    refine returns_pure _ ⟨trial :: trials, by simp [hscript, hscripts], by simp [hcode, hcodes],
      by simpa using ⟨hfits, hall⟩, ?_⟩
    have hboth := passage_append _ _ _ _ _ _ _ _ _ _ htrial htrials
    exact passage_event _ (fun _ => rfl) (by simpa using hboth)

/-- The making of a file is neither seen nor heard. -/
theorem create_passage (w : World σ) (suffix : String) (contents : List UInt8)
    (s : Scene (Recording σ)) :
    (TempFiles.create w.recorded suffix contents).Returns s fun path t es ds =>
      t.files.dir = s.files.dir ∧ filled ds = [path] ∧ Passage es ds [] [] "" := by
  refine traces_bind_get <| traces_bind_ask _ (.create s.files.dir suffix) rfl fun made world => ?_
  cases made with
  | error e => exact traces_bind_emit _ <| returns_fail _
  | ok path =>
    refine traces_bind_ask _ (.fill path contents) rfl fun done world => ?_
    cases done with
    | error e =>
      refine returns_bind (P := fun _ _ _ _ => True) ?_ (fun _ _ _ _ _ => returns_fail _)
      exact traces_mono (TempFiles.removeFile_traces w path _) (by simp)
    | ok _ =>
      refine traces_bind_modify _ [] rfl (by simp [Scene.deeds]) <| traces_bind_emit _ ?_
      refine returns_pure path ⟨rfl, rfl, ?_⟩
      exact passage_event _ (fun _ => rfl) <| passage_deed _ ⟨rfl, rfl⟩ <|
        passage_deed _ ⟨rfl, rfl⟩ passage_nil

/-- What follows the making of the two files of a request. -/
theorem rest_passage (w : World σ) (c : Config) (d : Directives) (source binary : String)
    (s : Scene (Recording σ)) :
    Returns (do
      let compileExit ← compile w.recorded c d source binary
      if compileExit ≠ 0 then
        sayAll (compilerFailed (← get).files.dir compileExit)
        transition .compiling .aborted
        return ({ finalStage := .aborted, compileExit } : Report)
      else
        transition .compiling .running
        let runExit ← execute w.recorded d binary
        let (last, scriptExits) ← verifyAll w.recorded c binary .running 0 d.testScripts
        transition last .done
        return { finalStage := .done, compileExit, runExit := some runExit, scriptExits,
                 binary := some binary }) s fun report _ es ds => ∃ ps ms err,
      Transcript c d s.files.dir source binary report ps ms err ∧ Passage es ds ps ms err := by
  -- the directory that a failed compilation names is read after the compiler has run
  have hcompile : (compile w.recorded c d source binary).Returns s fun code t es ds =>
      t.files = s.files ∧ ∃ q : Subprocess, q.program = c.toolchain.compiler ∧
        q.args = compileArgs c d source binary ∧ q.code? = some code ∧
        Passage es ds [q] [] (q.said .stderr) :=
    traces_mono (traces_and (runProgram_passage w _ _ none s) (aside_runProgram w _ _ none s))
      fun _ _ _ _ ⟨hq, hfiles, _⟩ code hr => ⟨hfiles, hq code hr⟩
  refine returns_bind hcompile ?_
  rintro compileExit t es ds ⟨hfiles, compiler, hprogram, hargs, hcode, hcompiler⟩
  dsimp only
  split
  next hfailed =>
    refine traces_bind_get <| traces_bind_emitAll _ <| traces_bind_emit _ <| returns_pure _ ?_
    refine ⟨_, _, _, .aborted compiler compileExit hprogram hargs hcode hfailed, ?_⟩
    have htold := passage_append _ _ _ _ _ _ _ _ _ _ hcompiler <|
      passage_sayAll (compilerFailed s.files.dir compileExit) <|
        passage_event (.transition .compiling .aborted) (fun _ => rfl) passage_nil
    rw [uncompiled_shown, String.append_empty] at htold
    rw [hfiles]
    exact htold
  next hwell =>
    obtain rfl : compileExit = 0 := by simpa using hwell
    refine traces_bind_emit _ <| returns_bind (execute_passage w d binary _) ?_
    rintro code u es' ds' ⟨executable, hprogram', hargs', hcode', hexecutable⟩
    refine returns_bind (verifyAll_passage w c binary .running 0 d.testScripts u) ?_
    rintro ⟨last, codes⟩ v es'' ds'' ⟨trials, hscripts, rfl, hfits, htrials⟩
    refine traces_bind_emit _ <| returns_pure _ ?_
    refine ⟨_, _, _, .done compiler executable code trials hprogram hargs hcode hprogram' hargs'
      hcode' hscripts hfits, ?_⟩
    have htold := passage_append _ _ _ _ _ _ _ _ _ _ hcompiler <|
      passage_event (.transition .compiling .running) (fun _ => rfl) <|
        passage_append _ _ _ _ _ _ _ _ _ _ hexecutable <|
          passage_append _ _ _ _ _ _ _ _ _ _ htrials <|
            passage_event (.transition last .done) (fun _ => rfl) passage_nil
    simp only [← String.append_assoc, String.append_empty] at htold
    simpa only [List.append_nil, List.nil_append, List.cons_append] using htold

/-- When a request is answered, then whatever the moves of its processes and the looks at them: if
all that the processes wrote is text and was read, the user reads on the output stream what they
wrote to theirs, one after the other, and on the error stream the transcript of the report. -/
theorem run_transcript (w : World σ) (c : Config) (source : String) (d : Directives)
    (s : Scene (Recording σ)) :
    (run w.recorded c source d).Returns s fun report _ es ds => ∃ path binary err,
      filled ds = [path, binary] ∧
      Transcript c d s.files.dir path binary report (subprocesses ds) (modeChanges ds) err ∧
      ((∀ p ∈ subprocesses ds, p.Heard) →
        streamText .stdout es = String.join ((subprocesses ds).map (·.said .stdout)) ∧
        streamText .stderr es = err) := by
  unfold run
  refine returns_bind (create_passage w ".c" (Utf8.encode source) s) ?_
  rintro path t es ds ⟨hdir, hpath, hes⟩
  refine returns_bind (create_passage w ".out" [] t) ?_
  rintro binary u es' ds' ⟨hdir', hbinary, hes'⟩
  -- the rest makes no file, so the two paths are those of the whole request
  refine traces_mono (traces_and (rest_passage w c d path binary u)
    (aside_rest w c d path binary u)) ?_
  rintro r v es'' ds'' ⟨hrest, -, -, hfileless⟩ report hr
  obtain ⟨ps, ms, err, htranscript, hpassage⟩ := hrest report hr
  rw [hdir', hdir] at htranscript
  have hall := passage_append _ _ _ _ _ _ _ _ _ _ hes <|
    passage_append _ _ _ _ _ _ _ _ _ _ hes' hpassage
  simp only [List.nil_append, String.empty_append] at hall
  have hstarts := subprocesses_of_starts _ _ hall.starts
  refine ⟨path, binary, err, ?_, ?_, fun hheard => ?_⟩
  · simp [hpath, hbinary, (fileless_paths ds'' hfileless).2.1]
  · rw [hstarts, hall.modes]
    exact htranscript
  · rw [hstarts] at hheard ⊢
    exact ⟨hall.stdout hheard, hall.stderr hheard⟩

/-- A test script fails, and its mode could not be changed. -/
theorem run_transcript_failing_script : ∃ (w : World Nat) (d : Directives)
    (s : Scene (Recording Nat)) (report : Report) (es : List Event) (ds : List Deed),
    (run w.recorded {} "" d).outcome s = .ok report ∧
    ((run w.recorded {} "" d).after s).events = s.events ++ es ∧
    ((run w.recorded {} "" d).after s).deeds = s.deeds ++ ds ∧
    report.scriptExits = [2] ∧ (∀ p ∈ subprocesses ds, p.Heard) ∧
    streamText .stdout es = "hi" ∧
    streamText .stderr es = "Testing with script: t.sh.\n" ++
      "[ckernel] could not make t.sh executable: No such file or directory (os error 2)\n" ++
      "Command: [\"/bin/bash\", \"t.sh\", \"/tmp/x.out\"]\n" ++
      "no[ckernel] test script t.sh exited with code 2\n" := by
  let ending (k : Stream) (bytes : List UInt8) (code : Int) : List Supervisor.Move :=
    [.writes k bytes, .exits code, .closes .stdout, .closes .stderr, .reads k 9, .notifies k,
      .ends .stdout, .notifies .stdout, .ends .stderr, .notifies .stderr,
      .advance, .advance, .advance, .advance, .advance, .advance, .reaps .stdout,
      .advance, .advance, .advance, .reaps .stderr,
      .advance, .advance, .advance, .advance, .advance, .advance, .advance, .advance]
  -- the state is the number of processes so far: the compiler, the program, the script
  let w : World Nat := {
    tempDir := "/tmp"
    lookup := fun _ _ => .ok .other
    read := fun _ _ => .ok []
    readInput := fun n => (.ok [], n)
    create := fun n dir suffix => (.ok (dir ++ "/x" ++ suffix), n)
    fill := fun n _ _ => (.ok (), n)
    remove := fun n _ => (.ok (), n)
    setMode := fun n _ _ => (.error (.system .noEntry), n)
    spawn := fun n _ _ => (.ok n, n + 1)
    during := fun n process _ => (match process with
      | 0 => ending .stdout [] 0
      | 1 => ending .stdout [0x68, 0x69] 0
      | _ => ending .stderr [0x6E, 0x6F] 2, n)
    elapse := fun n _ _ _ => ([], n)
    release := fun n _ => n
    pass := fun n _ => n }
  let d : Directives := { testScripts := ["t.sh"] }
  let s : Scene (Recording Nat) := { world := { world := 0 }, files := { dir := "/tmp" } }
  let report : Report := { finalStage := .done, compileExit := 0, runExit := some 0,
                           scriptExits := [2], binary := some "/tmp/x.out" }
  have hcheck (r : Except Stop Report) (hr : (match r with
      | .ok found => decide (found = report)
      | .error _ => false) = true) : r = .ok report := by
    cases r with
    | ok found => exact congrArg _ (of_decide_eq_true hr)
    | error e => contradiction
  have hok : (run w.recorded {} "" d).outcome s = .ok report := hcheck _ (by decide +kernel)
  obtain ⟨es, hes, ds, hds, h⟩ := run_transcript w {} "" d s
  obtain ⟨-, -, err, -, -, htold⟩ := h report hok
  have hdeeds : ds = ((run w.recorded {} "" d).after s).deeds := hds.symm
  have hevents : es = ((run w.recorded {} "" d).after s).events := hes.symm
  have hheard : ∀ p ∈ subprocesses ds, p.Heard := by
    rw [hdeeds]
    decide +kernel
  refine ⟨w, d, s, report, es, ds, hok, hes, hds, rfl, hheard, ?_, ?_⟩
  · rw [(htold hheard).1, hdeeds]
    decide +kernel
  · rw [hevents]
    decide +kernel

end Pipeline

end CellRunner
