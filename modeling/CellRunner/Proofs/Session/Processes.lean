import CellRunner.Proofs.Session.Yields
import CellRunner.Proofs.Supervisor.Input
import CellRunner.Session.Pipeline

/-!
# The course of one process

Of all that is told of a process, its start and the sight of its end are milestones. Writing
to it and closing its input are none, and a wait that comes to an exit code has seen the end
with that code.
-/

set_option autoImplicit false

namespace CellRunner

/-- What is told of files, of processes and of stages, apart from texts and details. -/
@[simp] def Event.isMilestone : Event → Bool
  | .created .. | .spawned .. | .exited .. | .transition .. => true
  | _ => false

def milestones (es : List Event) : List Event := es.filter Event.isMilestone

@[simp] theorem milestones_nil : milestones [] = [] := rfl

@[simp] theorem milestones_cons (e : Event) (es : List Event) :
    milestones (e :: es) = if e.isMilestone then e :: milestones es else milestones es := by
  simp [milestones, List.filter_cons]

@[simp] theorem milestones_append (es fs : List Event) :
    milestones (es ++ fs) = milestones es ++ milestones fs := by
  simp [milestones]

theorem milestones_wrote {α : Type} (stream : α → Stream) (text : α → String) (xs : List α) :
    milestones (xs.map fun x => .wrote (stream x) (text x)) = [] := by
  simp [milestones, Event.isMilestone]

/-- The stage that is left and the one that is entered. -/
@[simp] def Event.step? : Event → Option (Stage × Stage)
  | .transition source target => some (source, target)
  | _ => none

def steps (es : List Event) : List (Stage × Stage) := es.filterMap Event.step?

@[simp] theorem steps_nil : steps [] = [] := rfl

@[simp] theorem steps_cons (e : Event) (es : List Event) :
    steps (e :: es) = e.step?.toList ++ steps es := by
  rw [steps, List.filterMap_cons]
  cases e.step? <;> rfl

@[simp] theorem steps_append (es fs : List Event) : steps (es ++ fs) = steps es ++ steps fs := by
  simp [steps]

theorem steps_milestones (es : List Event) : steps (milestones es) = steps es := by
  rw [steps, milestones, List.filterMap_filter, steps]
  congr 1
  funext e
  cases e <;> rfl

theorem steps_of_milestones (es : List Event) (h : milestones es = []) : steps es = [] := by
  rw [← steps_milestones, h]
  rfl

namespace Job
open Act

variable {σ : Type}

/-- The end of the process has not been seen, and its owner is in no call. -/
structure Fresh (p : Job) : Prop where
  sound : Supervisor.Sound p.state
  idle : p.state.point = .idle
  unseen : p.state.recorded = none

theorem fresh_start (id : Nat) (program : String) : Fresh { id := id, program := program } :=
  ⟨Supervisor.sound_start, rfl, rfl⟩

theorem milestones_news (p : Job) (u : Supervisor) (h : p.state.recorded = none) :
    milestones (p.news u) = (u.recorded.map (.exited p.id p.program)).toList := by
  simp only [news, h]
  have hw := milestones_wrote Prod.fst Prod.snd (u.sink.drop p.state.sink.length)
  cases u.recorded with
  | none => exact hw
  | some code =>
    simp only [milestones_append]
    exact congrArg (· ++ _) hw

theorem steps_news (p : Job) (u : Supervisor) (h : p.state.recorded = none) :
    steps (p.news u) = [] := by
  rw [← steps_milestones, milestones_news p u h]
  cases u.recorded <;> rfl

/-- The moves that are made in a call lead to its answer, or there is none. -/
def Answers (p : Job) (c : Supervisor.Call) (r : Except Stop (Supervisor.Answer × Job))
    (es : List Event) : Prop :=
  ∃ moves, es = p.news ((p.state.begin c).run moves) ∧
    (r = .error .hung ∨ ∃ a, ((p.state.begin c).run moves).answer = some a ∧
      r = .ok (a, { p with state := (p.state.begin c).run moves }))

theorem answered_yields (p : Job) (c : Supervisor.Call) (moves : List Supervisor.Move)
    (s : Scene σ) :
    (p.answered ((p.state.begin c).run moves)).Yields s fun r _ es => p.Answers c r es := by
  refine yields_bind (P := fun r _ es =>
    r = .ok () ∧ es = p.news ((p.state.begin c).run moves))
    (yields_emitAll _ ⟨rfl, rfl⟩) ?_ (by simp)
  rintro _ t _ ⟨-, rfl⟩
  cases ha : ((p.state.begin c).run moves).answer with
  | some a => exact yields_pure _ ⟨moves, by simp, .inr ⟨a, ha, rfl⟩⟩
  | none => exact yields_hung ⟨moves, by simp, .inl rfl⟩

theorem call_yields (w : World σ) (p : Job) (c : Supervisor.Call) (s : Scene σ) :
    (p.call w c).Yields s fun r _ es => p.Answers c r es := by
  have hmoves (ask : Act σ (List Supervisor.Move))
      (h : ask.Yields s fun r _ es => es = [] ∧ ∃ moves, r = .ok moves) :
      (ask >>= fun moves => p.answered ((p.state.begin c).run moves)).Yields s
        fun r _ es => p.Answers c r es := by
    refine yields_bind h ?_ (by simp)
    rintro moves t _ ⟨rfl, -⟩
    exact answered_yields p c moves t
  unfold call
  dsimp only
  cases (p.state.begin c).answer with
  | some a => exact hmoves _ (yields_pure _ ⟨rfl, _, rfl⟩)
  | none => exact hmoves _ (yields_ask _ ⟨rfl, _, rfl⟩)

theorem steps_of_answers (p : Job) (c : Supervisor.Call)
    (r : Except Stop (Supervisor.Answer × Job)) (es : List Event) (h : p.Answers c r es)
    (hp : p.Fresh) : steps es = [] := by
  obtain ⟨moves, rfl, -⟩ := h
  exact steps_news p _ hp.unseen

/-- A call that has to do with the input leaves the job as fresh as it was. -/
theorem fresh_of_input (p p' : Job) (c : Supervisor.Call) (a : Supervisor.Answer)
    (es : List Event) (h : p.Answers c (.ok (a, p')) es) (hp : p.Fresh)
    (hc : c = .close ∨ ∃ bytes, c = .write bytes) :
    milestones es = [] ∧ p'.Fresh ∧ p'.id = p.id ∧ p'.program = p.program := by
  obtain ⟨moves, rfl, hr⟩ := h
  obtain ⟨hat, hbegun⟩ := Supervisor.input_begin p.state c hp.idle hc
  have hrec : ((p.state.begin c).run moves).recorded = none := by
    rw [Supervisor.input_run _ moves hat, hbegun, hp.unseen]
  have hsound : Supervisor.Sound ((p.state.begin c).run moves) := by
    rw [← Supervisor.live_moves]
    exact Supervisor.live_sound _ _ (Supervisor.turn_sound p.state (.call c) hp.sound)
  obtain hr | ⟨b, hb, hr⟩ := hr
  · contradiction
  · obtain ⟨rfl, rfl⟩ : a = b ∧ p' = { p with state := (p.state.begin c).run moves } := by
      simpa using hr
    refine ⟨by rw [milestones_news p _ hp.unseen, hrec]; rfl, ⟨hsound, ?_, hrec⟩, rfl, rfl⟩
    by_cases hidle : ((p.state.begin c).run moves).point = .idle
    · exact hidle
    · simp [hsound.calm hidle] at hb

/-- A wait that comes to an exit code has told it. -/
theorem exited_of_waited (p p' : Job) (code : Supervisor.ExitCode) (es : List Event)
    (h : p.Answers .wait (.ok (.waited code, p')) es) (hp : p.Fresh) :
    milestones es = [.exited p.id p.program code] := by
  obtain ⟨moves, rfl, hr⟩ := h
  have hsound : Supervisor.Sound ((p.state.begin .wait).run moves) := by
    rw [← Supervisor.live_moves]
    exact Supervisor.live_sound _ _ (Supervisor.turn_sound p.state (.call .wait) hp.sound)
  obtain hr | ⟨b, hb, hr⟩ := hr
  · contradiction
  · obtain ⟨rfl, -⟩ : .waited code = b ∧
        p' = { p with state := (p.state.begin .wait).run moves } := by
      simpa using hr
    rw [milestones_news p _ hp.unseen, (hsound.waited code hb).1]
    rfl

theorem write_yields (w : World σ) (p : Job) (bytes : List UInt8) (s : Scene σ) (hp : p.Fresh) :
    (p.write w bytes).Yields s fun r _ es => steps es = [] ∧ ∀ p', r = .ok p' →
      milestones es = [] ∧ p'.Fresh ∧ p'.id = p.id ∧ p'.program = p.program := by
  unfold write
  refine yields_bind (P := fun r _ es => r = .ok () ∧ es = [.fed p.id bytes])
    (yields_emit _ ⟨rfl, rfl⟩) ?_ (by simp)
  rintro _ t _ ⟨-, rfl⟩
  refine yields_bind (call_yields w p (.write bytes) t) ?_ ?_
  · rintro ⟨a, p'⟩ u es h
    have hsteps := steps_of_answers p _ _ es h hp
    have hkept := fresh_of_input p p' _ a es h hp (.inr ⟨bytes, rfl⟩)
    cases a with
    | failed f => exact yields_fail _ (by simp [hsteps])
    | _ => exact yields_pure _ (by simpa [hsteps] using hkept)
  · rintro e u es h
    simp [steps_of_answers p _ _ es h hp]

theorem closeInput_yields (w : World σ) (p : Job) (s : Scene σ) (hp : p.Fresh) :
    (p.closeInput w).Yields s fun r _ es => steps es = [] ∧ ∀ p', r = .ok p' →
      milestones es = [] ∧ p'.Fresh ∧ p'.id = p.id ∧ p'.program = p.program := by
  unfold closeInput
  refine yields_bind (P := fun r _ es => r = .ok () ∧ es = [.inputClosed p.id])
    (yields_emit _ ⟨rfl, rfl⟩) ?_ (by simp)
  rintro _ t _ ⟨-, rfl⟩
  refine yields_bind (call_yields w p .close t) ?_ ?_
  · rintro ⟨a, p'⟩ u es h
    have hsteps := steps_of_answers p _ _ es h hp
    have hkept := fresh_of_input p p' _ a es h hp (.inl rfl)
    exact yields_pure _ (by simpa [hsteps] using hkept)
  · rintro e u es h
    simp [steps_of_answers p _ _ es h hp]

theorem wait_yields (w : World σ) (p : Job) (s : Scene σ) (hp : p.Fresh) :
    (p.wait w).Yields s fun r _ es => steps es = [] ∧ ∀ code p', r = .ok (code, p') →
      milestones es = [.exited p.id p.program code] := by
  unfold wait
  refine yields_bind (call_yields w p .wait s) ?_ ?_
  · rintro ⟨a, p'⟩ u es h
    have hsteps := steps_of_answers p _ _ es h hp
    cases a with
    | waited code =>
      have hexit := exited_of_waited p p' code es h hp
      exact yields_pure _ (by simp [hsteps, hexit])
    | failed f => exact yields_fail _ (by simp [hsteps])
    | _ => exact yields_hung (by simp [hsteps])
  · rintro e u es h
    simp [steps_of_answers p _ _ es h hp]

theorem release_yields (w : World σ) (p : Job) (s : Scene σ) :
    (p.release w).Yields s fun r _ es => r = .ok () ∧ es = [.released p.id] := by
  unfold release
  refine yields_bind (P := fun r _ es => r = .ok () ∧ es = [])
    (yields_modify _ rfl ⟨rfl, rfl⟩) ?_ (by simp)
  rintro _ t _ ⟨-, rfl⟩
  exact yields_emit _ ⟨rfl, rfl⟩

/-- Letting go of a process is no milestone. -/
theorem releasing_yields {α : Type} (w : World σ) (p : Job) (a : Act σ α) (s : Scene σ)
    (P : Except Stop α → List Event → Prop)
    (h : a.Yields s fun r _ es => steps es = [] ∧ P r (milestones es)) :
    (p.releasing w a).Yields s fun r _ es => steps es = [] ∧ P r (milestones es) := by
  unfold releasing
  refine yields_bind (yields_attempt h) ?_ ?_
  · rintro v t es ⟨r, hr, hsteps, hp⟩
    have hreleased := release_yields w p t
    obtain ⟨v', rfl⟩ | ⟨f, rfl⟩ | rfl :
        (∃ v', r = .ok v') ∨ (∃ f, r = .error (.fault f)) ∨ r = .error .hung := by
      rcases r with (_ | _) | _ <;> simp
    · obtain rfl : v = .ok v' := by simpa [attempted] using hr
      refine yields_bind hreleased ?_ (by simp)
      rintro _ u _ ⟨-, rfl⟩
      exact yields_pure _ (by simpa [hsteps] using hp)
    · obtain rfl : v = .error f := by simpa [attempted] using hr
      refine yields_bind hreleased ?_ (by simp)
      rintro _ u _ ⟨-, rfl⟩
      exact yields_fail _ (by simpa [hsteps] using hp)
    · simp [attempted] at hr
  · rintro e t es ⟨r, hr, hsteps, hp⟩
    obtain ⟨rfl, rfl⟩ : r = .error .hung ∧ e = .hung := by
      rcases r with (_ | _) | _ <;> simp_all [attempted]
    exact ⟨hsteps, hp⟩

end Job

/-- A process was started, and was seen to end. -/
def ran (command : String × List String) (id : Nat) (code : Int) : List Event :=
  [.spawned command.1 command.2 id, .exited id command.1 code]

namespace Pipeline
open Act

variable {σ : Type}

theorem start_yields (w : World σ) (program : String) (args : List String) (s : Scene σ) :
    (Job.start w program args).Yields s fun r _ es => steps es = [] ∧ ∀ p, r = .ok p →
      ∃ id, p = { id := id, program := program } ∧ milestones es = [.spawned program args id] := by
  unfold Job.start
  refine yields_bind (P := fun r _ es => es = [] ∧ ∃ v, r = .ok v)
    (yields_ask _ ⟨rfl, _, rfl⟩) ?_ (by simp)
  rintro v t _ ⟨rfl, -⟩
  cases v with
  | error e =>
    refine yields_bind (P := fun r _ es => r = .ok () ∧ es = [.notSpawned program args e])
      (yields_emit _ ⟨rfl, rfl⟩) ?_ (by simp)
    rintro _ u _ ⟨-, rfl⟩
    exact yields_fail _ (by simp)
  | ok id =>
    refine yields_bind (P := fun r _ es => r = .ok () ∧ es = [.spawned program args id])
      (yields_emit _ ⟨rfl, rfl⟩) ?_ (by simp)
    rintro _ u _ ⟨-, rfl⟩
    exact yields_pure _ (by simp)

/-- The end of the input, and then the end of the process. -/
theorem finish_yields (w : World σ) (p : Job) (s : Scene σ) (hp : p.Fresh) :
    Yields (do
      let p ← p.closeInput w
      let (code, _) ← p.wait w
      return code) s fun r _ es => steps es = [] ∧
        ∀ code, r = .ok code → milestones es = [.exited p.id p.program code] := by
  refine yields_bind (Job.closeInput_yields w p s hp) ?_ (by simp)
  rintro p' t es ⟨hsteps, hkept⟩
  obtain ⟨hm, hp', hid, hprogram⟩ := hkept p' rfl
  refine yields_bind (Job.wait_yields w p' t hp') ?_ ?_
  · rintro ⟨code, q⟩ u more ⟨hmore, hexit⟩
    exact yields_pure _ (by simp [hsteps, hmore, hm, hexit code q rfl, hid, hprogram])
  · rintro e u more ⟨hmore, -⟩
    simp [hsteps, hmore]

/-- A program that comes to an exit code was started once and seen to end once. -/
theorem runProgram_yields (w : World σ) (program : String) (args : List String)
    (input : Option (List UInt8)) (s : Scene σ) :
    (runProgram w program args input).Yields s fun r _ es => steps es = [] ∧
      ∀ code, r = .ok code → ∃ id, milestones es = ran (program, args) id code := by
  unfold runProgram
  refine yields_bind (start_yields w program args s) ?_ (by simp)
  rintro p t es ⟨hsteps, hstart⟩
  obtain ⟨id, rfl, hspawned⟩ := hstart p rfl
  have hp := Job.fresh_start id program
  refine yields_mono (Job.releasing_yields w _ _ t (fun r ms => ∀ code, r = .ok code →
    ms = [.exited id program code]) ?_) ?_
  · cases input with
    | none => exact finish_yields w _ t hp
    | some bytes =>
      refine yields_bind (Job.write_yields w _ bytes t hp) ?_ (by simp)
      rintro p' u more ⟨hmore, hkept⟩
      obtain ⟨hm, hp', hid, hprogram⟩ := hkept p' rfl
      refine yields_mono (finish_yields w p' u hp') ?_
      rintro r v rest ⟨hrest, hexit⟩
      rw [hid, hprogram] at hexit
      exact ⟨by simp [hmore, hrest], fun code hr => by simp [hm, hexit code hr]⟩
  · rintro r u more ⟨hmore, hexit⟩
    refine ⟨by simp [hsteps, hmore], fun code hr => ⟨id, ?_⟩⟩
    simp [hspawned, hexit code hr, ran]

end Pipeline

end CellRunner
