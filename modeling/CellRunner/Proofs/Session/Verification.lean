import CellRunner.Proofs.Session.Breakdown
import CellRunner.Proofs.Session.Lifetimes

/-!
# Test scripts that are missing

A script whose mode cannot be changed is run all the same. With an interpreter a missing script is
a matter between the two, and the next script follows. Without one the script itself is to be
started, and if this is impossible the request stops with that failure.
-/

set_option autoImplicit false

namespace CellRunner
open Supervisor Utf8

/-- The state in which the wait for a process begins that is given nothing to read. -/
def silent : Supervisor := (begin {} .close).begin .wait

namespace Subprocess

/-- The last call that was made to it was answered, and all that it wrote is text. -/
structure Legible (q : Subprocess) : Prop where
  text : ∀ k, IsText (q.written k)
  answered : q.last.answer ≠ none

instance (q : Subprocess) : Decidable q.Legible :=
  decidable_of_iff ((∀ k, IsText (q.written k)) ∧ q.last.answer ≠ none)
    ⟨fun h => ⟨h.1, h.2⟩, fun h => ⟨h.text, h.answered⟩⟩

/-- A process that was given nothing and waited for. -/
def watched (program : String) (args : List String) (moves : List Move) : Subprocess :=
  { program, args, spans := [(silent, moves)] }

/-- When what it wrote is text, the wait for it comes to an exit code, or how it ended cannot be
learned. -/
theorem watched_ends (program : String) (args : List String) (moves : List Move)
    (hq : (watched program args moves).Legible) :
    (∃ code, verdict (silent.run moves).answer = .ok code ∧
      (watched program args moves).last.child = .exited code) ∨
    ∃ e, verdict (silent.run moves).answer = .error (.fault (.io (.system e))) ∧
      (watched program args moves).last.child = .lost e := by
  have hready := (ready_fed 0 [] _ _ (.nothing rfl)).1
  have hunseen (k : Stream) : (silent.channel k).unseen = [] := by cases k <;> rfl
  have hdecodable (k : Stream) (n : Option Nat) : ¬ silent.Undecodable moves k n := by
    refine decodable_of_text _ _ ?_ n
    simpa [hunseen, written, watched, writtenIn] using hq.text k
  obtain ⟨a, ha⟩ := Option.ne_none_iff_exists'.mp hq.answered
  replace ha : (silent.run moves).answer = some a := ha
  rw [ha]
  obtain ⟨code, rfl, hexited, -⟩ | ⟨f, rfl, hbreaks⟩ := wait_breaks _ moves a hready ha
  · exact .inl ⟨code, rfl, hexited⟩
  · cases hbreaks with
    | undecodable k f _ _ hno => exact absurd hno (hdecodable k _)
    | lost e _ _ hlost => exact .inr ⟨e, rfl, hlost⟩
    | unfed rest e writes => contradiction

end Subprocess

/-- A program that is given nothing to read cannot be started, or is one process. -/
theorem venture_silent (program : String) (args : List String) (r : Except Stop ExitCode)
    (ds : List Deed) (h : Venture program args [] r ds) :
    (∃ e, r = .error (.fault (.spawn program e)) ∧ ds = [.spawn program args (.error e)]) ∨
    ∃ moves, r = verdict (silent.run moves).answer ∧
      subprocesses ds = [.watched program args moves] := by
  cases h with
  | unstarted e => exact .inl ⟨e, rfl, rfl⟩
  | started process _ ds h =>
    have hspans : spans process (ds ++ settled process r) =
        ds.filterMap (Deed.span? process) := by
      have hkept : ∀ d ∈ ds, (!d.isReleaseOf process) = true := fun d hd => by
        obtain ⟨begun, moves, rfl⟩ := attends_attended process [] r ds h d hd
        rfl
      rw [spans, List.takeWhile_append_of_pos hkept]
      unfold settled
      split <;> simp [Deed.isReleaseOf]
    have hrest := subprocesses_of_starts _ [] (starts_no_spawn _ (attended_spawns _ _ _ ds h))
    refine .inr ?_
    rw [subprocesses, hspans, hrest]
    cases h with
    | unfed moves e h => exact absurd rfl h
    | waited u ds moves h =>
      cases h with
      | nothing => exact ⟨moves, rfl, by simp [Subprocess.watched, silent, Deed.span?]⟩
      | all _ h => exact absurd rfl h

/-- A program that cannot be started. -/
def Deed.refuses (program : String) : Deed → Bool
  | .spawn p _ (.error _) => p = program
  | _ => false

/-- The program could not be started in one of the requests. -/
def Refused (program : String) (ds : List Deed) : Prop := ∃ d ∈ ds, d.refuses program = true

instance (program : String) (ds : List Deed) : Decidable (Refused program ds) :=
  inferInstanceAs (Decidable (∃ d ∈ ds, d.refuses program = true))

theorem refused_iff (program : String) (ds : List Deed) :
    Refused program ds ↔ ∃ args e, .spawn program args (.error e) ∈ ds := by
  constructor
  · rintro ⟨d, hd, h⟩
    cases d with
    | spawn p args result =>
      cases result with
      | ok process => contradiction
      | error e =>
        obtain rfl : p = program := by simpa [Deed.refuses] using h
        exact ⟨args, e, hd⟩
    | _ => contradiction
  · rintro ⟨args, e, hd⟩
    exact ⟨_, hd, by simp [Deed.refuses]⟩

theorem refused_right (program : String) (ds es : List Deed) (h : Refused program es) :
    Refused program (ds ++ es) := by
  obtain ⟨d, hd, h⟩ := h
  exact ⟨d, List.mem_append_right ds hd, h⟩

/-- A program that cannot be started ends all. -/
theorem orderly_refused {α : Type} (r : Except Stop α) (ds : List Deed) (program : String)
    (args : List String) (e : IoFault) (h : Orderly r ds)
    (hd : .spawn program args (.error e) ∈ ds) : r = .error (.fault (.spawn program e)) := by
  have hincomplete : ¬ Deed.Completes (.spawn program args (.error e)) :=
    fun hc => hc.well _ (.spawning program args e)
  cases h with
  | done v ds h => exact absurd (h _ hd) hincomplete
  | broken f before d after h breaks cleanup =>
    obtain hd | hd := List.mem_append.mp hd
    · exact absurd (h _ hd) hincomplete
    · obtain rfl | hd := List.mem_cons.mp hd
      · cases breaks
        rfl
      · exact absurd (cleanup _ hd) (by simp [Deed.isCleanup])
  | hung before d h never =>
    obtain hd | hd := List.mem_append.mp hd
    · exact absurd (h _ hd) hincomplete
    · obtain rfl := List.mem_singleton.mp hd
      exact absurd trivial never

/-- How test scripts end: all were run, each by its command, and ended with these codes; or one
could not be started, or it cannot be learned how it ended. -/
inductive Ending (c : Config) (binary : String) (scripts : List String) (ds : List Deed) :
    Except Stop (List ExitCode) → Prop where
  | all (codes : List ExitCode)
      (commands : (subprocesses ds).map (fun q => (q.program, q.args)) =
        scripts.map fun script => scriptCommand c (Text.trimmed script) binary)
      (ended : (subprocesses ds).map (·.code?) = codes.map some) :
      Ending c binary scripts ds (.ok codes)
  | refused (script : String) (r : Except Stop (List ExitCode)) (h : script ∈ scripts)
      (refused : Refused (scriptCommand c (Text.trimmed script) binary).1 ds) :
      Ending c binary scripts ds r
  | lost (q : Subprocess) (e : SystemError) (r : Except Stop (List ExitCode))
      (h : q ∈ subprocesses ds) (lost : q.last.child = .lost e) : Ending c binary scripts ds r

/-- The scripts that are run after the first whose wait came to an exit code. -/
theorem ending_next (c : Config) (binary script : String) (scripts : List String)
    (code : ExitCode) (r : Except Stop (List ExitCode)) (ds es : List Deed) (q : Subprocess)
    (hs : Starts ds [q])
    (hcommand : (q.program, q.args) = scriptCommand c (Text.trimmed script) binary)
    (hcode : q.code? = some code) (h : Ending c binary scripts es r) :
    Ending c binary (script :: scripts) (ds ++ es) (r.map (code :: ·)) := by
  have hall : subprocesses (ds ++ es) = q :: subprocesses es := hs es
  cases h with
  | all codes commands ended =>
    exact .all (code :: codes) (by simp [hall, hcommand, commands]) (by simp [hall, hcode, ended])
  | refused other _ h refused =>
    exact .refused other _ (by simp [h]) (refused_right _ ds es refused)
  | lost other e _ h lost => exact .lost other e _ (by simp [hall, h]) lost

theorem trials_ending (c : Config) (binary : String) (scripts : List String)
    (r : Except Stop (List ExitCode)) (ds : List Deed) (h : Trials c binary scripts r ds)
    (hq : ∀ q ∈ subprocesses ds, q.Legible) : Ending c binary scripts ds r := by
  induction h with
  | nil => exact .all [] rfl rfl
  | stopped script scripts e ds h =>
    cases h with
    | run moded _ ds h =>
      rw [subprocesses_cons _ ds rfl] at hq
      obtain ⟨f, -, rfl⟩ | ⟨moves, hr, hds⟩ := venture_silent _ _ _ ds h
      · have hrefused := List.mem_singleton_self (Deed.spawn (scriptCommand c (Text.trimmed script)
          binary).1 (scriptCommand c (Text.trimmed script) binary).2 (.error f))
        exact .refused script _ (by simp)
          ((refused_iff _ _).mpr ⟨_, f, List.mem_cons_of_mem _ hrefused⟩)
      rw [hds] at hq
      obtain ⟨code, hcode, -⟩ | ⟨f, -, hlost⟩ :=
        Subprocess.watched_ends _ _ moves (hq _ (List.mem_singleton_self _))
      · simp [hcode] at hr
      · refine .lost _ f _ ?_ hlost
        rw [subprocesses_cons _ ds rfl, hds]
        exact List.mem_singleton_self _
  | next script scripts code r ds es h rest ih =>
    cases h with
    | run moded _ ds h =>
      obtain ⟨q, hprogram, hargs, hlife, hcode⟩ := venture_lifetime _ _ _ code ds h
      have hs : Starts (.setMode (Text.trimmed script) c.verification.scriptMode moded :: ds)
          [q] := starts_lifetime q ds hlife
      have hrest : subprocesses _ = [q] ++ subprocesses es := hs es
      refine ending_next c binary script scripts code r _ es q hs ?_ hcode (ih fun p hp => ?_)
      · rw [hprogram, hargs]
      · exact hq p (by rw [hrest]; simp [hp])

/-- The request came to its last stage, each test script was run by its command, and the report
has the exit code of each. -/
def Verified (c : Config) (d : Directives) (r : Except Stop Report) (ds : List Deed) : Prop :=
  ∃ report binary, r = .ok report ∧ report.finalStage = .done ∧ report.binary = some binary ∧
    report.scriptExits.length = d.testScripts.length ∧
    ((subprocesses ds).drop 2).map (fun q => (q.program, q.args)) =
      d.testScripts.map (fun script => scriptCommand c (Text.trimmed script) binary) ∧
    ((subprocesses ds).drop 2).map (·.code?) = report.scriptExits.map some

/-- A request that has left the stage of running has run its program, and goes on with the
scripts. -/
theorem requests_tested (c : Config) (d : Directives) (dir source : String)
    (r : Except Stop Report) (ss : List (Stage × Stage)) (ds : List Deed)
    (h : Requests c d dir source r ss ds) (hstage : ∃ next, (Stage.running, next) ∈ ss) :
    ∃ binary code r' before fs, r = Except.map (fullReport binary code) r' ∧ ds = before ++ fs ∧
      (subprocesses ds).drop 2 = subprocesses fs ∧ Trials c binary d.testScripts r' fs := by
  obtain ⟨next, hnext⟩ := hstage
  cases h with
  | unsourced | unplaced => simp at hnext
  | filed path binary _ _ ds es fs h h' rest aside =>
    cases rest with
    | uncompiled | aborted | unrun => simp at hnext
    | tested code r _ compiling running fs hc hr trials =>
      obtain ⟨q, -, -, hq, -⟩ := venture_lifetime _ _ _ _ compiling hc
      obtain ⟨q', -, -, hq', -⟩ := venture_lifetime _ _ _ _ running hr
      have hstarts : Starts (ds ++ (es ++ (compiling ++ running))) [q, q'] :=
        starts_append _ _ [] _ (starts_no_spawn ds (attempt_spawns _ _ _ ds _ h)) <|
          starts_append _ _ [] _ (starts_no_spawn es (attempt_spawns _ _ _ es _ h')) <|
            starts_append _ _ [q] [q'] (starts_lifetime q compiling hq)
              (starts_lifetime q' running hq')
      have hall := hstarts fs
      simp only [List.append_assoc] at hall
      exact ⟨binary, code, r, ds ++ (es ++ (compiling ++ running)), fs, rfl, by simp,
        by simp [hall], trials⟩

namespace Pipeline
open Act

variable {σ : Type}

/-- When the program was run, and the scripts that were run ended and wrote text: with an
interpreter that can be started all scripts are verified, whether they are there or not and whether
their modes can be changed, unless the system does not tell how one ended; without one each of them
must be started itself, and the first that cannot be is the failure of the request. -/
theorem run_verifies (w : World σ) (c : Config) (source : String) (d : Directives)
    (s : Scene (Recording σ)) :
    (run w.recorded c source d).Traces s fun r _ es ds =>
      (∃ next, (Stage.running, next) ∈ steps es) →
      (∀ q ∈ (subprocesses ds).drop 2, q.Legible) →
      (∀ interpreter, c.verification.interpreter? = some interpreter →
        ¬ Refused interpreter ds) →
      (Verified c d r ds ↔
        (c.verification.interpreter? = none →
          ∀ script ∈ d.testScripts, ¬ Refused (Text.trimmed script) ds) ∧
        ∀ q ∈ (subprocesses ds).drop 2, ∀ e, q.last.child ≠ .lost e) ∧
      ∀ script ∈ d.testScripts, ∀ args e, .spawn (Text.trimmed script) args (.error e) ∈ ds →
        r = .error (.fault (.spawn (Text.trimmed script) e)) := by
  refine traces_mono (run_traces w c source d s) ?_
  intro r t es ds h hstage hlegible hinterpreter
  have horderly := requests_orderly _ _ _ _ _ _ ds h
  refine ⟨⟨?_, fun ⟨hscripts, hlearned⟩ => ?_⟩, fun script _ args e hd =>
    orderly_refused r ds _ args e horderly hd⟩
  · rintro ⟨report, binary, rfl, -, -, -, -, hended⟩
    refine ⟨fun _ script _ hrefused => ?_, fun q hq e hlost => ?_⟩
    · obtain ⟨args, e, hd⟩ := (refused_iff _ ds).mp hrefused
      exact nomatch orderly_refused _ ds _ args e horderly hd
    · have hcode : q.code? ∈ report.scriptExits.map some :=
        hended ▸ List.mem_map_of_mem hq
      simp [Subprocess.code?, hlost] at hcode
  · obtain ⟨binary, code, r', before, fs, rfl, rfl, hdrop, htrials⟩ :=
      requests_tested _ _ _ _ _ _ ds h hstage
    rw [hdrop] at hlegible hlearned
    cases trials_ending _ _ _ r' fs htrials hlegible with
    | all codes commands ended =>
      have hlength : codes.length = d.testScripts.length := by
        simpa using (congrArg List.length ended).symm.trans
          (by simpa using congrArg List.length commands)
      exact ⟨_, binary, rfl, rfl, rfl, hlength, by rw [hdrop, commands], by rw [hdrop, ended]; rfl⟩
    | refused script _ hs refused =>
      have hrefused := refused_right _ before fs refused
      cases hi : c.verification.interpreter? with
      | some interpreter =>
        simp only [scriptCommand, hi] at hrefused
        exact absurd hrefused (hinterpreter interpreter hi)
      | none =>
        simp only [scriptCommand, hi] at hrefused
        exact absurd hrefused (hscripts hi script hs)
    | lost q e _ hq lost => exact absurd lost (hlearned q hq e)

end Pipeline

/-- A world without the file `script`: its mode cannot be changed, and it cannot be started. The
third process ends with 127. -/
def World.lacking (script : String) : World Nat :=
  { World.granting fun process => if process = 2 then 127 else 0 with
    setMode := fun n path _ => (if path = script then .error (.system .noEntry) else .ok (), n)
    spawn := fun n program _ =>
      if program = script then (.error (.system .noEntry), n) else (.ok n, n + 1) }

namespace Pipeline
open Act

/-- The first of two scripts is missing, and there is an interpreter. -/
theorem run_verifies_missing_script : ∃ (d : Directives) (s : Scene (Recording Nat))
    (r : Except Stop Report) (es : List Event) (ds : List Deed),
    d.testScripts = ["gone.sh", "t.sh"] ∧
    (run (World.lacking "gone.sh").recorded {} "" d).outcome s = r ∧
    ((run (World.lacking "gone.sh").recorded {} "" d).after s).events = s.events ++ es ∧
    ((run (World.lacking "gone.sh").recorded {} "" d).after s).deeds = s.deeds ++ ds ∧
    (∃ next, (Stage.running, next) ∈ steps es) ∧
    (∀ q ∈ (subprocesses ds).drop 2, q.Legible) ∧
    (∀ interpreter, ({} : Config).verification.interpreter? = some interpreter →
      ¬ Refused interpreter ds) ∧
    Verified {} d r ds ∧
    ((subprocesses ds).drop 2).map (·.code?) = [some 127, some 0] := by
  let d : Directives := { testScripts := ["gone.sh", "t.sh"] }
  let s : Scene (Recording Nat) := { world := { world := 0 }, files := { dir := "/tmp" } }
  let a := run (World.lacking "gone.sh").recorded {} "" d
  obtain ⟨es, hes, ds, hds, h⟩ := run_verifies (World.lacking "gone.sh") {} "" d s
  have hdeeds : ds = (a.after s).deeds := hds.symm
  have hevents : es = (a.after s).events := hes.symm
  have hstage : ∃ next, (Stage.running, next) ∈ steps es := by
    refine ⟨.verifying 0, ?_⟩
    rw [hevents]
    decide +kernel
  have hlegible : ∀ q ∈ (subprocesses ds).drop 2, q.Legible := by
    rw [hdeeds]
    decide +kernel
  have hbash : ({} : Config).verification.interpreter? = some "/bin/bash" := by decide +kernel
  have hinterpreter : ∀ interpreter, ({} : Config).verification.interpreter? = some interpreter →
      ¬ Refused interpreter ds := by
    intro interpreter hi
    obtain rfl := Option.some.inj (hbash.symm.trans hi)
    rw [hdeeds]
    decide +kernel
  have hcodes : ((subprocesses ds).drop 2).map (·.code?) = [some 127, some 0] := by
    rw [hdeeds]
    decide +kernel
  refine ⟨d, s, _, es, ds, rfl, rfl, hes, hds, hstage, hlegible, hinterpreter, ?_, hcodes⟩
  refine (h hstage hlegible hinterpreter).1.mpr ⟨by simp [hbash], fun q hq e hlost => ?_⟩
  have hcode : q.code? ∈ ((subprocesses ds).drop 2).map (·.code?) := List.mem_map_of_mem hq
  rw [hcodes] at hcode
  simp [Subprocess.code?, hlost] at hcode

/-- The same two scripts without an interpreter: the request fails at the first, and the second is
not run. -/
theorem missing_script_stops : ∃ (c : Config) (d : Directives) (s : Scene (Recording Nat))
    (r : Except Stop Report) (es : List Event) (ds : List Deed),
    c.verification.interpreter? = none ∧ d.testScripts = ["gone.sh", "t.sh"] ∧
    (run (World.lacking "gone.sh").recorded c "" d).outcome s = r ∧
    ((run (World.lacking "gone.sh").recorded c "" d).after s).events = s.events ++ es ∧
    ((run (World.lacking "gone.sh").recorded c "" d).after s).deeds = s.deeds ++ ds ∧
    (∃ next, (Stage.running, next) ∈ steps es) ∧
    (∀ q ∈ (subprocesses ds).drop 2, q.Legible) ∧
    r = .error (.fault (.spawn "gone.sh" (.system .noEntry))) ∧ ¬ Verified c d r ds ∧
    (subprocesses ds).drop 2 = [] := by
  let c : Config := { verification := { interpreter := "" } }
  let d : Directives := { testScripts := ["gone.sh", "t.sh"] }
  let s : Scene (Recording Nat) := { world := { world := 0 }, files := { dir := "/tmp" } }
  let a := run (World.lacking "gone.sh").recorded c "" d
  have hcheck (r : Except Stop Report) (f : Fault) (hr : (match r with
      | .ok _ => false
      | .error e => decide (e = .fault f)) = true) : r = .error (.fault f) := by
    cases r with
    | ok report => contradiction
    | error e => exact congrArg _ (of_decide_eq_true hr)
  have hr : a.outcome s = .error (.fault (.spawn "gone.sh" (.system .noEntry))) :=
    hcheck _ _ (by decide +kernel)
  have hnone : (subprocesses (a.after s).deeds).drop 2 = [] :=
    List.length_eq_zero_iff.mp (by decide +kernel)
  have hstage : (Stage.running, Stage.verifying 0) ∈ steps (a.after s).events := by decide +kernel
  refine ⟨c, d, s, _, (a.after s).events, (a.after s).deeds, by decide +kernel, rfl, rfl,
    (List.nil_append _).symm, (List.nil_append _).symm, ⟨_, hstage⟩, ?_, hr, ?_, hnone⟩
  · rw [hnone]
    simp
  · rintro ⟨report, binary, hok, -⟩
    exact nomatch hok.symm.trans hr

end Pipeline

end CellRunner
