import CellRunner.Proofs.Session.Subprocesses
import CellRunner.Proofs.Supervisor.Failures

/-!
# All that can become of a program

A program that is to be run cannot be started, or is not given all that it is to read, or is waited
for. What this comes to and what is asked of the world meanwhile are related by a few rules, which
say all that can happen.
-/

set_option autoImplicit false

namespace CellRunner
open Supervisor

/-- Why an action stops at a call with this answer, if it does. -/
def stop? : Option Answer → Option Stop
  | none => some .hung
  | some (.failed f) => some (.fault (.ofFailure f))
  | some _ => none

/-- What an action makes of the answer to a wait. -/
def verdict : Option Answer → Except Stop ExitCode
  | some (.waited code) => .ok code
  | some (.failed f) => .error (.fault (.ofFailure f))
  | _ => .error .hung

/-- The owner lets go of a process at the end of an action, unless it never ends. -/
def settled {α : Type} (process : Nat) : Except Stop α → List Deed
  | .error .hung => []
  | _ => [.release process]

/-- The state of a started process when it was given its bytes and its input was closed, and what
was asked of the world for it. -/
inductive Fed (process : Nat) (bytes : List UInt8) : Supervisor → List Deed → Prop where
  | nothing (h : bytes = []) : Fed process bytes (begin {} .close) []
  | all (moves : List Move) (h : bytes ≠ [])
      (wrote : stop? ((begin {} (.write bytes)).run moves).answer = none) :
      Fed process bytes (((begin {} (.write bytes)).run moves).begin .close)
        [.during process (begin {} (.write bytes)) moves]

theorem ready_fed (process : Nat) (bytes : List UInt8) (u : Supervisor) (ds : List Deed)
    (h : Fed process bytes u ds) : u.Ready ∧ u.input.isOpen = false := by
  have hclose (v : Supervisor) (hv : v.Ready) :
      (v.begin .close).Ready ∧ (v.begin .close).input.isOpen = false := by
    have hbegun : v.begin .close =
        { v with answer := some .closed, input := { v.input with isOpen := false } } := by
      simp [Supervisor.begin, hv.idle, reply]
    exact ⟨ready_call v .close [] hv (by simp [hbegun, Supervisor.run]), by rw [hbegun]⟩
  cases h with
  | nothing => exact hclose {} ready_start
  | all moves h wrote =>
    refine hclose _ (ready_call {} _ moves ready_start fun ha => ?_)
    simp [ha, stop?] at wrote

/-- What becomes of a started process that is given bytes to read and waited for. -/
inductive Attended (process : Nat) (bytes : List UInt8) :
    Except Stop ExitCode → List Deed → Prop where
  | unfed (moves : List Move) (e : Stop) (h : bytes ≠ [])
      (stops : stop? ((begin {} (.write bytes)).run moves).answer = some e) :
      Attended process bytes (.error e) [.during process (begin {} (.write bytes)) moves]
  | waited (u : Supervisor) (ds : List Deed) (moves : List Move) (h : Fed process bytes u ds) :
      Attended process bytes (verdict ((u.begin .wait).run moves).answer)
        (ds ++ [.during process (u.begin .wait) moves])

/-- What becomes of a program that is to be run. -/
inductive Venture (program : String) (args : List String) (bytes : List UInt8) :
    Except Stop ExitCode → List Deed → Prop where
  | unstarted (e : IoFault) : Venture program args bytes (.error (.fault (.spawn program e)))
      [.spawn program args (.error e)]
  | started (process : Nat) (r : Except Stop ExitCode) (ds : List Deed)
      (h : Attended process bytes r ds) : Venture program args bytes r
      (.spawn program args (.ok process) :: (ds ++ settled process r))

namespace Job
open Act

variable {σ : Type}

/-- What a call comes to in the state that its moves lead to. -/
def outcomeIn (p : Job) (after : Supervisor) : Except Stop (Answer × Job) :=
  match after.answer with
  | some a => .ok (a, { p with state := after })
  | none => .error .hung

theorem call_traces (w : World σ) (p : Job) (c : Supervisor.Call) (s : Scene (Recording σ)) :
    (p.call w.recorded c).Traces s fun r _ _ ds => ∃ moves, p.Asks c moves ds ∧
      r = p.outcomeIn ((p.state.begin c).run moves) := by
  have hanswered (moves : List Move) (s : Scene (Recording σ)) :
      (p.answered ((p.state.begin c).run moves)).Traces s fun r _ _ ds => ds = [] ∧
        r = p.outcomeIn ((p.state.begin c).run moves) := by
    refine traces_bind_emitAll _ ?_
    unfold outcomeIn
    cases ((p.state.begin c).run moves).answer with
    | some a => exact traces_pure _ ⟨rfl, rfl⟩
    | none => exact traces_hung ⟨rfl, rfl⟩
  unfold call
  dsimp only
  cases hb : (p.state.begin c).answer with
  | some a =>
    refine traces_bind (P := fun r _ _ ds => r = .ok [] ∧ ds = []) (traces_pure _ ⟨rfl, rfl⟩) ?_
      (by simp)
    rintro _ t _ _ ⟨⟨⟩, rfl⟩
    refine traces_mono (hanswered [] t) ?_
    rintro r u _ ds ⟨rfl, hr⟩
    exact ⟨[], .inl ⟨rfl, rfl, by simp [hb]⟩, hr⟩
  | none =>
    refine traces_bind_ask _ (.during p.id (p.state.begin c)) rfl fun moves world => ?_
    refine traces_mono (hanswered moves _) ?_
    rintro r u _ ds ⟨rfl, hr⟩
    exact ⟨moves, .inr ⟨rfl, hb⟩, hr⟩

theorem write_traces (w : World σ) (p : Job) (bytes : List UInt8) (s : Scene (Recording σ)) :
    (p.write w.recorded bytes).Traces s fun r _ _ ds => ∃ moves, p.Asks (.write bytes) moves ds ∧
      r = match stop? ((p.state.begin (.write bytes)).run moves).answer with
        | some e => .error e
        | none => .ok { p with state := (p.state.begin (.write bytes)).run moves } := by
  refine traces_bind_emit _ <| traces_bind (call_traces w p (.write bytes) _) ?_ ?_
  · rintro ⟨a, p'⟩ t _ ds ⟨moves, hasks, hr⟩
    unfold outcomeIn at hr
    split at hr
    next ha =>
      obtain ⟨rfl, rfl⟩ := Prod.mk.inj (Except.ok.inj hr)
      cases a with
      | failed f => exact traces_fail _ ⟨moves, by simpa using hasks, by simp [ha, stop?]⟩
      | _ => exact traces_pure _ ⟨moves, by simpa using hasks, by simp [ha, stop?]⟩
    · contradiction
  · rintro e t _ ds ⟨moves, hasks, hr⟩
    refine ⟨moves, hasks, ?_⟩
    unfold outcomeIn at hr
    split at hr
    · contradiction
    next ha => simpa [ha, stop?] using hr

/-- Closing takes no time: the call is answered as it begins. -/
theorem closeInput_traces (w : World σ) (p : Job) (s : Scene (Recording σ))
    (hp : p.state.point = .idle) :
    (p.closeInput w.recorded).Traces s fun r _ _ ds =>
      r = .ok { p with state := p.state.begin .close } ∧ ds = [] := by
  have hclosed : (p.state.begin .close).answer = some .closed := by
    simp [Supervisor.begin, hp, reply]
  refine traces_bind_emit _ <| traces_bind (call_traces w p .close _) ?_ ?_
  · rintro ⟨a, p'⟩ t _ ds ⟨moves, ⟨rfl, rfl, -⟩ | ⟨-, hnone⟩, hr⟩
    · obtain ⟨-, rfl⟩ : a = .closed ∧ p' = { p with state := p.state.begin .close } := by
        simpa [outcomeIn, Supervisor.run, hclosed] using hr
      exact traces_pure _ ⟨rfl, rfl⟩
    · simp [hclosed] at hnone
  · rintro e t _ ds ⟨moves, ⟨rfl, rfl, -⟩ | ⟨-, hnone⟩, hr⟩
    · simp [outcomeIn, Supervisor.run, hclosed] at hr
    · simp [hclosed] at hnone

theorem wait_traces (w : World σ) (p : Job) (s : Scene (Recording σ))
    (hp : p.state.point = .idle) :
    (p.wait w.recorded).Traces s fun r _ _ ds => ∃ moves,
      ds = [.during p.id (p.state.begin .wait) moves] ∧
      r.map (·.1) = verdict ((p.state.begin .wait).run moves).answer := by
  have hasked (moves : List Move) (ds : List Deed) (h : p.Asks .wait moves ds) :
      ds = [.during p.id (p.state.begin .wait) moves] := by
    obtain ⟨-, -, h⟩ | ⟨rfl, -⟩ := h
    · simp [begin_wait _ hp] at h
    · rfl
  refine traces_bind (call_traces w p .wait s) ?_ ?_
  · rintro ⟨a, p'⟩ t _ ds ⟨moves, hasks, hr⟩
    unfold outcomeIn at hr
    split at hr
    next ha =>
      obtain ⟨rfl, rfl⟩ := Prod.mk.inj (Except.ok.inj hr)
      have hds := hasked moves ds hasks
      cases a with
      | waited code => exact traces_pure _ ⟨moves, by simpa using hds, by rw [ha]; rfl⟩
      | failed f => exact traces_fail _ ⟨moves, by simpa using hds, by rw [ha]; rfl⟩
      | _ => exact traces_hung ⟨moves, by simpa using hds, by rw [ha]; rfl⟩
    · contradiction
  · rintro e t _ ds ⟨moves, hasks, hr⟩
    unfold outcomeIn at hr
    split at hr
    · contradiction
    next ha =>
      obtain rfl := Except.error.inj hr
      exact ⟨moves, hasked moves ds hasks, by rw [ha]; rfl⟩

theorem releasing_traces {α : Type} (w : World σ) (p : Job) (a : Act (Recording σ) α)
    (s : Scene (Recording σ)) (P : Except Stop α → List Deed → Prop)
    (h : a.Traces s fun r _ _ ds => P r ds) :
    (p.releasing w.recorded a).Traces s fun r _ _ ds =>
      ∃ ds', ds = ds' ++ settled p.id r ∧ P r ds' := by
  have hrelease (t : Scene (Recording σ)) :
      (p.release w.recorded).Traces t fun r _ _ ds => r = .ok () ∧ ds = [.release p.id] :=
    traces_bind_modify _ [.release p.id] rfl rfl <| traces_emit _ ⟨rfl, rfl⟩
  refine traces_bind (traces_attempt h) ?_ ?_
  · rintro v t _ ds ⟨r, hr, hp⟩
    cases v with
    | ok v =>
      obtain rfl := attempted_ok r v hr.symm
      refine traces_bind (hrelease t) ?_ (by simp)
      rintro _ u _ _ ⟨-, rfl⟩
      exact traces_pure v ⟨ds, by simp [settled], hp⟩
    | error f =>
      obtain rfl := attempted_fault r f hr.symm
      refine traces_bind (hrelease t) ?_ (by simp)
      rintro _ u _ _ ⟨-, rfl⟩
      exact traces_fail f ⟨ds, by simp [settled], hp⟩
  · rintro e t _ ds ⟨r, hr, hp⟩
    obtain ⟨rfl, rfl⟩ := attempted_hung r e hr.symm
    exact ⟨ds, by simp [settled], hp⟩

end Job

namespace Pipeline
open Act

variable {σ : Type}

theorem start_traces (w : World σ) (program : String) (args : List String)
    (s : Scene (Recording σ)) :
    (Job.start w.recorded program args).Traces s fun r _ _ ds =>
      (∃ e, r = .error (.fault (.spawn program e)) ∧ ds = [.spawn program args (.error e)]) ∨
      ∃ process, r = .ok { id := process, program := program } ∧
        ds = [.spawn program args (.ok process)] := by
  refine traces_bind_ask _ (.spawn program args) rfl fun r world => ?_
  cases r with
  | error e => exact traces_bind_emit _ <| traces_fail _ (.inl ⟨e, rfl, rfl⟩)
  | ok id => exact traces_bind_emit _ <| traces_pure _ (.inr ⟨id, rfl, rfl⟩)

/-- The end of the input, and then the end of the process. -/
theorem finish_traces (w : World σ) (p : Job) (s : Scene (Recording σ))
    (hp : p.state.point = .idle) :
    Traces (do
      let p ← p.closeInput w.recorded
      let (code, _) ← p.wait w.recorded
      return code) s fun r _ _ ds => ∃ moves,
        ds = [.during p.id ((p.state.begin .close).begin .wait) moves] ∧
        r = verdict (((p.state.begin .close).begin .wait).run moves).answer := by
  refine traces_bind (Job.closeInput_traces w p s hp) ?_ (by simp)
  rintro _ t _ _ ⟨⟨⟩, rfl⟩
  have hidle : (p.state.begin .close).point = .idle := by simp [Supervisor.begin, hp, reply]
  refine traces_bind (Job.wait_traces w _ t hidle) ?_ ?_
  · rintro ⟨code, p'⟩ u _ ds ⟨moves, rfl, hr⟩
    exact traces_pure _ ⟨moves, by simp, hr⟩
  · rintro e u _ ds ⟨moves, rfl, hr⟩
    exact ⟨moves, rfl, hr⟩

theorem attended_traces (w : World σ) (process : Nat) (program : String)
    (input : Option (List UInt8)) (s : Scene (Recording σ)) :
    Traces (do
      let p : Job := { id := process, program := program }
      let p ← match input with
        | some bytes => p.write w.recorded bytes
        | none => pure p
      let p ← p.closeInput w.recorded
      let (code, _) ← p.wait w.recorded
      return code) s fun r _ _ ds => Attended process (input.getD []) r ds := by
  have hunfed (u : Supervisor) (hu : u.point = .idle)
      (hclose : u.begin .close = begin {} .close) (t : Scene (Recording σ)) :=
    traces_mono (finish_traces w { id := process, program := program, state := u } t hu)
      (Q := fun r _ _ ds => Attended process [] r ds) <| by
        rintro r v _ ds ⟨moves, rfl, rfl⟩
        rw [hclose]
        exact .waited _ [] moves (.nothing rfl)
  cases input with
  | none => exact hunfed {} rfl rfl s
  | some bytes =>
    by_cases hb : bytes = []
    · subst hb
      refine traces_bind (Job.write_traces w _ [] s) ?_ ?_
      · rintro p t _ ds ⟨moves, ⟨rfl, rfl, -⟩ | ⟨-, hnone⟩, hr⟩
        · obtain rfl := Except.ok.inj hr
          exact hunfed _ rfl rfl t
        · contradiction
      · rintro e t _ ds ⟨moves, ⟨rfl, rfl, -⟩ | ⟨-, hnone⟩, hr⟩ <;> contradiction
    · have hasked (moves : List Move) (ds : List Deed)
          (h : Job.Asks { id := process, program := program } (.write bytes) moves ds) :
          ds = [.during process (begin {} (.write bytes)) moves] := by
        obtain ⟨-, -, h⟩ | ⟨rfl, -⟩ := h
        · simp [Supervisor.begin, hb, goTo] at h
        · rfl
      refine traces_bind (Job.write_traces w _ bytes s) ?_ ?_
      · rintro p t _ ds ⟨moves, hasks, hr⟩
        obtain rfl := hasked moves ds hasks
        split at hr
        · contradiction
        next hwrote =>
          obtain rfl := Except.ok.inj hr
          have hidle := (ready_call {} (.write bytes) moves ready_start fun h => by
            simp [h, stop?] at hwrote).idle
          refine traces_mono (finish_traces w _ t hidle) ?_
          rintro r v _ es ⟨moves', rfl, rfl⟩
          exact .waited _ _ moves' (.all moves hb hwrote)
      · rintro e t _ ds ⟨moves, hasks, hr⟩
        obtain rfl := hasked moves ds hasks
        split at hr
        next hstops =>
          obtain rfl := Except.error.inj hr
          exact .unfed moves e hb hstops
        · contradiction

theorem runProgram_traces (w : World σ) (program : String) (args : List String)
    (input : Option (List UInt8)) (s : Scene (Recording σ)) :
    (runProgram w.recorded program args input).Traces s fun r _ _ ds =>
      Venture program args (input.getD []) r ds := by
  refine traces_bind (start_traces w program args s) ?_ ?_
  · rintro p t _ ds (⟨e, h, -⟩ | ⟨process, ⟨⟩, rfl⟩)
    · contradiction
    refine traces_mono (Job.releasing_traces w _ _ t (Attended process (input.getD []))
      (attended_traces w process program input t)) ?_
    rintro r u _ ds ⟨ds', rfl, h⟩
    exact .started process r ds' h
  · rintro e t _ ds (⟨f, ⟨⟩, rfl⟩ | ⟨process, h, -⟩)
    · exact .unstarted f
    · contradiction

end Pipeline

/-- A world that grants every request. Its processes say nothing and end with these codes; the state
is the number of them. -/
def World.granting (code : Nat → ExitCode) : World Nat where
  tempDir := "/tmp"
  lookup _ _ := .ok .other
  read _ _ := .ok []
  readInput n := (.ok [], n)
  create n dir suffix := (.ok (dir ++ "/x" ++ suffix), n)
  fill n _ _ := (.ok (), n)
  remove n _ := (.ok (), n)
  setMode n _ _ := (.ok (), n)
  spawn n _ _ := (.ok n, n + 1)
  during n process _ := ([.exits (code process), .closes .stdout, .closes .stderr, .ends .stdout,
    .notifies .stdout, .ends .stderr, .notifies .stderr] ++ List.replicate 6 .advance ++
    [.reaps .stdout] ++ List.replicate 3 .advance ++ [.reaps .stderr] ++
    List.replicate 8 .advance, n)
  elapse n _ _ _ := ([], n)
  release n _ := n
  pass n _ := n

end CellRunner
