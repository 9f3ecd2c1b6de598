import CellRunner.Proofs.Session.Recorded
import CellRunner.Proofs.Session.Requests

/-!
# When a request fails

A request fails exactly when something goes wrong with the backend, and with the first thing that
does. What becomes of the user's programs, and whether their modes can be changed, is no failure.
-/

set_option autoImplicit false

namespace CellRunner
open Supervisor

theorem completes_during (process : Nat) (begun : Supervisor) (moves : List Move)
    (answered : (begun.run moves).answer ≠ none) (well : ∀ f, ¬ begun.Breaks moves f) :
    Deed.Completes (.during process begun moves) :=
  ⟨answered, fun _ h => by cases h with | failing _ _ _ f h => exact well f h⟩

/-- A wait comes to an exit code, or to the failure that stops it. -/
theorem wait_orderly (process : Nat) (u : Supervisor) (moves : List Move) (hu : u.Ready) :
    Orderly (verdict ((u.begin .wait).run moves).answer)
      [.during process (u.begin .wait) moves] := by
  cases ha : ((u.begin .wait).run moves).answer with
  | none => exact .hung [] _ (by simp) (by simp [Deed.IsAnswered, ha])
  | some a =>
    obtain ⟨code, rfl, -, hwell⟩ | ⟨f, rfl, hbreaks⟩ := wait_breaks u moves a hu ha
    · exact .done code _ (by simpa using completes_during process _ moves (by simp [ha]) hwell)
    · exact .broken _ [] _ [] (by simp) (.failing _ _ _ f hbreaks) (by simp)

/-- Feeding a process takes all bytes, or its failure stops it. -/
theorem feed_orderly (process : Nat) (bytes : List UInt8) (moves : List Move) (h : bytes ≠ []) :
    (stop? ((begin {} (.write bytes)).run moves).answer = none →
      Deed.Completes (.during process (begin {} (.write bytes)) moves)) ∧
    ∀ e, stop? ((begin {} (.write bytes)).run moves).answer = some e →
      Orderly (.error e : Except Stop ExitCode)
        [.during process (begin {} (.write bytes)) moves] := by
  cases ha : ((begin {} (.write bytes)).run moves).answer with
  | none =>
    refine ⟨by simp [stop?], fun e he => ?_⟩
    obtain rfl := Option.some.inj he
    exact .hung [] _ (by simp) (by simp [Deed.IsAnswered, ha])
  | some a =>
    obtain ⟨rfl, hwell⟩ | ⟨f, rfl, hbreaks⟩ :=
      write_breaks {} bytes moves a ready_start rfl h ha
    · exact ⟨fun _ => completes_during process _ moves (by simp [ha]) hwell, by simp [stop?]⟩
    · refine ⟨by simp [stop?], fun e he => ?_⟩
      obtain rfl := Option.some.inj he
      exact .broken _ [] _ [] (by simp) (.failing _ _ _ f hbreaks) (by simp)

theorem fed_completes (process : Nat) (bytes : List UInt8) (u : Supervisor) (ds : List Deed)
    (h : Fed process bytes u ds) : ∀ d ∈ ds, d.Completes := by
  cases h with
  | nothing => simp
  | all moves h wrote => simpa using (feed_orderly process bytes moves h).1 wrote

theorem venture_orderly (program : String) (args : List String) (bytes : List UInt8)
    (r : Except Stop ExitCode) (ds : List Deed) (h : Venture program args bytes r ds) :
    Orderly r ds := by
  cases h with
  | unstarted e => exact .broken _ [] _ [] (by simp) (.spawning program args e) (by simp)
  | started process _ ds h =>
    refine orderly_cons _ (Deed.completes_spawn program args process) ?_
    have hattended : Orderly r ds := by
      cases h with
      | unfed moves e h stops => exact (feed_orderly process bytes moves h).2 e stops
      | waited u ds moves h =>
        exact orderly_after (fed_completes process bytes u ds h)
          (wait_orderly process u moves (ready_fed process bytes u ds h).1)
    by_cases hr : r = .error .hung
    · subst hr
      simpa [settled] using hattended
    · refine orderly_cleanup hattended hr ?_
      unfold settled
      split <;> simp [Deed.isCleanup]

theorem try_orderly (c : Config) (binary script : String) (r : Except Stop ExitCode)
    (ds : List Deed) (h : Try c binary script r ds) : Orderly r ds := by
  cases h with
  | run moded _ ds h =>
    exact orderly_cons _ (Deed.completes_setMode _ _ moded) (venture_orderly _ _ _ r ds h)

theorem trials_orderly (c : Config) (binary : String) (scripts : List String)
    (r : Except Stop (List ExitCode)) (ds : List Deed) (h : Trials c binary scripts r ds) :
    Orderly r ds := by
  induction h with
  | nil => exact .done [] [] (by simp)
  | stopped script scripts e ds h => exact orderly_error e (try_orderly c binary script _ ds h)
  | next script scripts code r ds es h rest ih =>
    have hdone := completes_of_orderly code (try_orderly c binary script _ ds h)
    exact orderly_map _ (orderly_after hdone ih)

theorem proceeds_orderly (c : Config) (d : Directives) (path binary : String)
    (r : Except Stop Report) (ss : List (Stage × Stage)) (ds : List Deed)
    (h : Proceeds c d path binary r ss ds) : Orderly r ds := by
  cases h with
  | uncompiled e ds h => exact orderly_error e (venture_orderly _ _ _ _ ds h)
  | aborted code ds h failed =>
    exact .done _ ds (completes_of_orderly code (venture_orderly _ _ _ _ ds h))
  | unrun e ds es h h' =>
    have hcompiled := completes_of_orderly 0 (venture_orderly _ _ _ _ ds h)
    exact orderly_after hcompiled (orderly_error e (venture_orderly _ _ _ _ es h'))
  | tested code r ss ds es fs h h' trials =>
    have hcompiled := completes_of_orderly 0 (venture_orderly _ _ _ _ ds h)
    have hrun := completes_of_orderly code (venture_orderly _ _ _ _ es h')
    have htested := orderly_map (fullReport binary code) (trials_orderly _ _ _ _ fs trials)
    exact orderly_after hcompiled (orderly_after hrun htested)

theorem completes_of_attempt (dir suffix : String) (contents : List UInt8) (ds : List Deed)
    (path : String) (h : Attempt dir suffix contents ds (some path)) : ∀ d ∈ ds, d.Completes := by
  cases h with
  | made =>
    simp only [List.mem_cons, List.not_mem_nil, or_false, forall_eq_or_imp, forall_eq]
    exact ⟨⟨trivial, nofun⟩, trivial, nofun⟩

theorem requests_orderly (c : Config) (d : Directives) (dir source : String)
    (r : Except Stop Report) (ss : List (Stage × Stage)) (ds : List Deed)
    (h : Requests c d dir source r ss ds) : Orderly r ds := by
  cases h with
  | unsourced e ds h stops => exact orderly_error e stops
  | unplaced path e ds es h h' stops =>
    exact orderly_after (completes_of_attempt _ _ _ ds path h) (orderly_error e stops)
  | filed path binary _ _ ds es fs h h' rest aside =>
    have hrest := proceeds_orderly c d path binary r ss fs rest
    exact orderly_after (completes_of_attempt _ _ _ ds path h)
      (orderly_after (completes_of_attempt _ _ _ es binary h') hrest)

/-- What an action comes to agrees with what went wrong in its requests. -/
structure Breakdown {α : Type} (r : Except Stop α) (ds : List Deed) : Prop where
  ok : (∃ v, r = .ok v) ↔ ∀ d ∈ ds, d.Completes
  fails : (∃ f, r = .error (.fault f)) ↔ ∃ d ∈ ds, ∃ f, d.Breaks f
  /-- the failure is the first, and after it there is nothing but the cleaning up -/
  first : ∀ f, r = .error (.fault f) → ∃ before d after, ds = before ++ d :: after ∧
    (∀ e ∈ before, e.Completes) ∧ d.Breaks f ∧ ∀ e ∈ after, e.isCleanup = true
  hangs : r = .error .hung ↔ ∃ d ∈ ds, ¬ d.IsAnswered

theorem breakdown_of_orderly {α : Type} (r : Except Stop α) (ds : List Deed) (h : Orderly r ds) :
    Breakdown r ds := by
  cases h with
  | done v ds h =>
    exact {
      ok := by simpa using h
      fails := by simpa using fun d hd f => (h d hd).well f
      first := by simp
      hangs := by simpa using fun d hd => (h d hd).answered }
  | broken f before d after h breaks cleanup =>
    have hd : d ∈ before ++ d :: after := by simp
    have hanswered : ∀ e ∈ before ++ d :: after, e.IsAnswered := by
      intro e he
      obtain he | he := List.mem_append.mp he
      · exact (h e he).answered
      · obtain rfl | he := List.mem_cons.mp he
        · exact e.answered_of_breaks f breaks
        · exact (e.completes_of_cleanup (cleanup e he)).answered
    exact {
      ok := ⟨by simp, fun hall => absurd breaks ((hall d hd).well f)⟩
      fails := ⟨fun _ => ⟨d, hd, f, breaks⟩, fun _ => ⟨f, rfl⟩⟩
      first := by
        rintro _ ⟨⟩
        exact ⟨before, d, after, rfl, h, breaks, cleanup⟩
      hangs := by simpa using hanswered }
  | hung before d h never =>
    have hd : d ∈ before ++ [d] := by simp
    have hwell : ∀ e ∈ before ++ [d], ∀ f, ¬ e.Breaks f := by
      intro e he f hf
      obtain he | he := List.mem_append.mp he
      · exact (h e he).well f hf
      · obtain rfl := List.mem_singleton.mp he
        exact never (e.answered_of_breaks f hf)
    exact {
      ok := ⟨by simp, fun hall => absurd (hall d hd).answered never⟩
      fails := ⟨by simp, fun ⟨e, he, f, hf⟩ => absurd hf (hwell e he f)⟩
      first := by simp
      hangs := ⟨fun _ => ⟨d, hd, never⟩, fun _ => rfl⟩ }

namespace Session
open Act

variable {σ : Type}

theorem run_orderly (w : World σ) (c : Config) (source : String) (s : Scene (Recording σ)) :
    (run w.recorded c source).Traces s fun r _ _ ds => Orderly r ds := by
  refine traces_bind_modify _ [] rfl (by simp [Scene.deeds]) <| traces_bind_emitAll _ ?_
  refine traces_bind (Pipeline.run_traces w c source (Directives.parse source) _) ?_ ?_
  · intro report t es ds h
    refine traces_bind_get <| traces_bind_emit _ <| traces_pure report ?_
    simpa using requests_orderly _ _ _ _ _ _ ds h
  · intro e t es ds h
    simpa using requests_orderly _ _ _ _ _ _ ds h

end Session

end CellRunner
