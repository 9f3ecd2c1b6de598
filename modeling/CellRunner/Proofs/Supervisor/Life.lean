import CellRunner.Supervisor.Step

/-!
# The life of a supervised process

A life is a list of turns: the owner makes a call, or the process, a drain or the owner makes
a move. What a turn can do is said once, with what must hold for it; whatever is true in
every state that a life can reach is derived from this list.
-/

set_option autoImplicit false

namespace CellRunner.Supervisor

inductive Turn where
  | call (call : Call)
  | move (move : Move)
  deriving DecidableEq, Repr

def turn (s : Supervisor) : Turn → Supervisor
  | .call c => s.begin c
  | .move m => s.step m

/-- The state after a list of turns. -/
def live (s : Supervisor) (turns : List Turn) : Supervisor := turns.foldl turn s

@[simp] theorem live_nil (s : Supervisor) : s.live [] = s := rfl

@[simp] theorem live_cons (s : Supervisor) (t : Turn) (ts : List Turn) :
    s.live (t :: ts) = (s.turn t).live ts := rfl

@[simp] theorem live_append (s : Supervisor) (ts us : List Turn) :
    s.live (ts ++ us) = (s.live ts).live us := by
  simp [live]

theorem live_moves (s : Supervisor) (moves : List Move) :
    s.live (moves.map .move) = s.run moves := by
  simp [live, run, List.foldl_map, turn]

theorem run_append (s : Supervisor) (moves more : List Move) :
    s.run (moves ++ more) = (s.run moves).run more := List.foldl_append

theorem forall_stream (p : Stream → Prop) : (∀ k, p k) ↔ p .stdout ∧ p .stderr := by
  constructor
  · exact fun h => ⟨h _, h _⟩
  · intro h k
    cases k
    · exact h.1
    · exact h.2

instance (p : Stream → Prop) [DecidablePred p] : Decidable (∀ k, p k) :=
  decidable_of_iff _ (forall_stream p).symm

/-- The text handed on for a stream so far. -/
def delivered (s : Supervisor) (k : Stream) : String :=
  String.join (s.sink.filterMap fun (stream, text) => if stream = k then some text else none)

/-- The bytes that a turn adds to a stream. After the end of a stream nothing is added. -/
def adds (s : Supervisor) (k : Stream) : Turn → List UInt8
  | .move (.writes stream bytes) =>
    if stream = k && !(s.channel k).closed then bytes else []
  | _ => []

/-- All bytes that are written to a stream during some turns. -/
def output (k : Stream) (s : Supervisor) : List Turn → List UInt8
  | [] => []
  | t :: ts => s.adds k t ++ output k (s.turn t) ts

theorem output_append (k : Stream) (s : Supervisor) (ts us : List Turn) :
    output k s (ts ++ us) = output k s ts ++ output k (s.live ts) us := by
  induction ts generalizing s with
  | nil => rfl
  | cons t ts ih => simp [output, ih]

/-- Where a flush looks at a stream. -/
def lookPoint : Stream → Errand → Point
  | .stdout, e => .lookOut e
  | .stderr, e => .lookErr e

/-- How a flush goes on when it has looked at a stream. -/
def looked (s : Supervisor) : Stream → Errand → Supervisor
  | .stdout, e => s.goTo (.lookErr e)
  | .stderr, e => s.afterFlush e

def finishPoint : Stream → Point
  | .stdout => .finishOut
  | .stderr => .finishErr

/-- How a wait goes on when the end of a stream is checked. -/
def finished (s : Supervisor) : Stream → Supervisor
  | .stdout => s.goTo .finishErr
  | .stderr => s.conclude

@[simp] theorem channel_setChannel (s : Supervisor) (k : Stream) (c : Channel) :
    (s.setChannel k c).channel k = c := by
  cases k <;> rfl

theorem channel_setChannel_ne (s : Supervisor) (j k : Stream) (c : Channel) (h : k ≠ j) :
    (s.setChannel j c).channel k = s.channel k := by
  cases j <;> cases k <;> first | rfl | contradiction

@[simp] theorem point_setChannel (s : Supervisor) (k : Stream) (c : Channel) :
    (s.setChannel k c).point = s.point := by
  cases k <;> rfl

@[simp] theorem answer_setChannel (s : Supervisor) (k : Stream) (c : Channel) :
    (s.setChannel k c).answer = s.answer := by
  cases k <;> rfl

@[simp] theorem recorded_setChannel (s : Supervisor) (k : Stream) (c : Channel) :
    (s.setChannel k c).recorded = s.recorded := by
  cases k <;> rfl

@[simp] theorem child_setChannel (s : Supervisor) (k : Stream) (c : Channel) :
    (s.setChannel k c).child = s.child := by
  cases k <;> rfl

@[simp] theorem sink_setChannel (s : Supervisor) (k : Stream) (c : Channel) :
    (s.setChannel k c).sink = s.sink := by
  cases k <;> rfl

theorem deliver_eq (s : Supervisor) (k : Stream) (text : String) :
    s.deliver k text = { s with sink := (s.deliver k text).sink } := by
  unfold deliver
  split <;> rfl

/-- Two states with the same two channels. -/
theorem channel_congr (s u : Supervisor) (k : Stream) (ho : u.stdout = s.stdout)
    (he : u.stderr = s.stderr) : u.channel k = s.channel k := by
  cases k
  · exact ho
  · exact he

@[simp] theorem channel_deliver (s : Supervisor) (j k : Stream) (text : String) :
    (s.deliver j text).channel k = s.channel k := by
  rw [deliver_eq]
  exact channel_congr _ _ k rfl rfl

@[simp] theorem channel_goTo (s : Supervisor) (k : Stream) (p : Point) :
    (s.goTo p).channel k = s.channel k := channel_congr _ _ k rfl rfl

@[simp] theorem channel_reply (s : Supervisor) (k : Stream) (a : Answer) :
    (s.reply a).channel k = s.channel k := channel_congr _ _ k rfl rfl

@[simp] theorem channel_record (s : Supervisor) (k : Stream) (code : ExitCode) :
    (s.record code).channel k = s.channel k := by
  unfold record
  split
  · rfl
  · exact channel_congr _ _ k rfl rfl

/-- What a turn can do. A turn that cannot be taken does nothing; the owner's own step can be
taken wherever the owner does not wait for others. -/
inductive Effect (s : Supervisor) : Turn → Supervisor → Prop where
  | nothing (t : Turn) (waits : t = .move .advance → s.isSuspended = true)
      (silent : ∀ k, s.adds k t = []) : Effect s t s
  | writes (k : Stream) (bytes : List UInt8) :
      Effect s (.move (.writes k bytes)) (s.setChannel k ((s.channel k).write bytes))
  | closes (k : Stream) :
      Effect s (.move (.closes k)) (s.setChannel k (s.channel k).close)
  | reads (k : Stream) (n : Nat) :
      Effect s (.move (.reads k n)) (s.setChannel k ((s.channel k).read n))
  | ends (k : Stream) :
      Effect s (.move (.ends k)) (s.setChannel k (s.channel k).finishReading)
  | notifies (k : Stream) (due : (s.channel k).owesNotice = true) :
      Effect s (.move (.notifies k))
        { s.setChannel k (s.channel k).giveNotice with permit := true }
  | exits (code : ExitCode) (h : s.child = .running) :
      Effect s (.move (.exits code)) { s with child := .exited code }
  | loses (e : SystemError) (h : s.child = .running) :
      Effect s (.move (.loses e)) { s with child := .lost e }
  | breaksInput (e : SystemError) (h : s.input.broken = none) :
      Effect s (.move (.breaksInput e)) { s with input := { s.input with broken := some e } }
  | takesSome (n : Nat) (rest : List UInt8) (i : Input) (at' : s.point = .writing rest) :
      Effect s (.move (.takes n)) { s with input := i, point := .writing (rest.drop n) }
  | takesLast (n : Nat) (rest : List UInt8) (i : Input) (at' : s.point = .writing rest) :
      Effect s (.move (.takes n)) ({ s with input := i }.reply .wrote)
  | learnsBroken (rest : List UInt8) (at' : s.point = .writing rest) :
      Effect s (.move .learns) (s.reply .wrote)
  | learnsError (rest : List UInt8) (e : SystemError) (at' : s.point = .writing rest) :
      Effect s (.move .learns) (s.fail (.io (.system e)))
  | hearsListening (at' : s.point = .listening) (noticed : s.permit = true) :
      Effect s (.move .hears) { s with permit := false, point := .lookOut .live }
  | hearsLingering (at' : s.point = .lingering) (noticed : s.permit = true) :
      Effect s (.move .hears) { s with permit := false, point := .lookOut .settled }
  | learnsExit (code : ExitCode) (at' : s.point = .listening) (h : s.child = .exited code) :
      Effect s (.move .learnsExit) ((s.record code).goTo (.lookOut .live))
  | learnsLoss (e : SystemError) (at' : s.point = .listening) (h : s.child = .lost e) :
      Effect s (.move .learnsExit) (s.fail (.io (.system e)))
  | reaps (k : Stream) (at' : s.point = .lingering) (h : (s.channel k).isReapable = true) :
      Effect s (.move (.reaps k)) ((s.setChannel k (s.channel k).reap).goTo (.lookOut .settled))
  | tires (at' : s.point = .lingering) :
      Effect s (.move .tires) { s with
        stdout := s.stdout.abandon, stderr := s.stderr.abandon, point := .lookOut .last }
  | looks (k : Stream) (e : Errand) (text : String) (at' : s.point = lookPoint k e)
      (h : (s.channel k).look.1 = .ok text) :
      Effect s (.move .advance)
        (((s.setChannel k (s.channel k).look.2).deliver k text).looked k e)
  | looksFailing (k : Stream) (e : Errand) (f : Utf8.Fault) (at' : s.point = lookPoint k e)
      (h : (s.channel k).look.1 = .error f) :
      Effect s (.move .advance) ((s.setChannel k (s.channel k).look.2).fail (.decode k f))
  | seesExit (code : ExitCode) (at' : s.point = .checkExit)
      (h : s.recorded = some code ∨ s.recorded = none ∧ s.child = .exited code) :
      Effect s (.move .advance) ((s.record code).goTo (.lookOut .settled))
  | seesRunning (at' : s.point = .checkExit) (h : s.recorded = none)
      (running : s.child = .running) : Effect s (.move .advance) (s.goTo .listening)
  | seesLoss (e : SystemError) (at' : s.point = .checkExit) (h : s.child = .lost e) :
      Effect s (.move .advance) (s.fail (.io (.system e)))
  | seesDrained (at' : s.point = .checkDrained) (h : ∀ k, (s.channel k).isReleased = true) :
      Effect s (.move .advance) (s.goTo (.lookOut .last))
  | seesUndrained (k : Stream) (at' : s.point = .checkDrained)
      (h : (s.channel k).isReleased = false) : Effect s (.move .advance) (s.goTo .lingering)
  | finishes (k : Stream) (at' : s.point = finishPoint k)
      (h : (s.channel k).finish.1 = .ok ()) :
      Effect s (.move .advance) ((s.setChannel k (s.channel k).finish.2).finished k)
  | finishesFailing (k : Stream) (f : Utf8.Fault) (at' : s.point = finishPoint k)
      (h : (s.channel k).finish.1 = .error f) :
      Effect s (.move .advance) ((s.setChannel k (s.channel k).finish.2).fail (.decode k f))
  | begins (c : Call) (p : Point) (at' : s.point = .idle)
      (h : c = .flush ∧ p = .lookOut .flush ∨ c = .wait ∧ p = .lookOut .live ∨
        ∃ bytes, c = .write bytes ∧ p = .writing bytes) :
      Effect s (.call c) { s with answer := none, point := p }
  | polls (code : Option ExitCode) (at' : s.point = .idle)
      (h : s.recorded = code ∨ s.recorded = none ∧ ∃ n, code = some n ∧ s.child = .exited n) :
      Effect s (.call .poll) ({ s with recorded := code }.reply (.polled code))
  | pollsLoss (e : SystemError) (at' : s.point = .idle) (h : s.child = .lost e) :
      Effect s (.call .poll) (s.fail (.io (.system e)))
  | writesNothing (bytes : List UInt8) (a : Answer) (at' : s.point = .idle)
      (h : a = .wrote ∨ a = .failed (.io .inputClosed)) :
      Effect s (.call (.write bytes)) (s.reply a)
  | closesInput (at' : s.point = .idle) :
      Effect s (.call .close) ({ s with input := { s.input with isOpen := false } }.reply .closed)

theorem look_effect (s : Supervisor) (k : Stream) (e : Errand)
    (at' : s.point = lookPoint k e) :
    Effect s (.move .advance) (s.look k (·.looked k e)) := by
  have hl := Effect.looks (s := s) k e
  have hf := Effect.looksFailing (s := s) k e
  unfold look
  generalize (s.channel k).look = r at hl hf
  obtain ⟨r, c⟩ := r
  cases r with
  | ok text => exact hl text at' rfl
  | error f => exact hf f at' rfl

theorem finish_effect (s : Supervisor) (k : Stream) (at' : s.point = finishPoint k) :
    Effect s (.move .advance) (s.finish k (·.finished k)) := by
  have hl := Effect.finishes (s := s) k
  have hf := Effect.finishesFailing (s := s) k
  unfold finish
  generalize (s.channel k).finish = r at hl hf
  obtain ⟨r, c⟩ := r
  cases r with
  | ok _ => exact hl at' rfl
  | error f => exact hf f at' rfl

theorem advance_effect (s : Supervisor) : Effect s (.move .advance) s.advance := by
  have hwaits (h : s.isSuspended = true) : Effect s (.move .advance) s :=
    .nothing _ (fun _ => h) (fun _ => rfl)
  unfold advance
  cases hp : s.point with
  | lookOut e => exact look_effect s .stdout e hp
  | lookErr e => exact look_effect s .stderr e hp
  | checkExit =>
    simp only [poll]
    cases hr : s.recorded with
    | some code =>
      have h := Effect.seesExit code hp (.inl hr)
      simpa [record, hr] using h
    | none =>
      cases hc : s.child with
      | running => exact .seesRunning hp hr hc
      | exited code => exact .seesExit code hp (.inr ⟨hr, hc⟩)
      | lost e => exact .seesLoss e hp hc
  | checkDrained =>
    dsimp only
    split
    next h =>
      refine .seesDrained hp fun k => ?_
      cases k <;> simp_all [channel]
    next h =>
      cases ho : s.stdout.isReleased with
      | false => exact .seesUndrained .stdout hp ho
      | true =>
        have he : s.stderr.isReleased = false := by simpa [ho] using h
        exact .seesUndrained .stderr hp he
  | finishOut => exact finish_effect s .stdout hp
  | finishErr => exact finish_effect s .stderr hp
  | _ => exact hwaits (by simp [isSuspended, hp])

theorem poll_cases (s : Supervisor) :
    (∃ code, s.poll = (.ok code, { s with recorded := code }) ∧
      (s.recorded = code ∨ s.recorded = none ∧ ∃ n, code = some n ∧ s.child = .exited n)) ∨
    ∃ e, s.poll = (.error e, s) ∧ s.child = .lost e := by
  obtain ⟨_, _, _, child, recorded, _, _, _, _⟩ := s
  cases recorded with
  | some code => exact .inl ⟨some code, rfl, .inl rfl⟩
  | none =>
    cases child with
    | running => exact .inl ⟨none, rfl, .inl rfl⟩
    | exited code => exact .inl ⟨some code, rfl, .inr ⟨rfl, code, rfl, rfl⟩⟩
    | lost e => exact .inr ⟨e, rfl, rfl⟩

theorem begin_effect (s : Supervisor) (c : Call) : Effect s (.call c) (s.begin c) := by
  unfold begin
  by_cases hp : s.point = .idle
  · rw [if_neg (by simp [hp])]
    cases c with
    | flush => exact .begins .flush _ hp (.inl ⟨rfl, rfl⟩)
    | wait => exact .begins .wait _ hp (.inr (.inl ⟨rfl, rfl⟩))
    | poll =>
      dsimp only
      obtain ⟨code, hpoll, h⟩ | ⟨e, hpoll, h⟩ := poll_cases { s with answer := none }
      · rw [hpoll]
        exact .polls code hp h
      · rw [hpoll]
        exact .pollsLoss e hp h
    | write bytes =>
      dsimp only
      split
      · exact .writesNothing bytes _ hp (.inr rfl)
      split
      · exact .writesNothing bytes _ hp (.inl rfl)
      · exact .begins (.write bytes) _ hp (.inr (.inr ⟨bytes, rfl, rfl⟩))
    | close => exact .closesInput hp
  · rw [if_pos (by simpa using hp)]
    exact .nothing _ (by simp) (fun _ => rfl)

theorem take_effect (s : Supervisor) (n : Nat) : Effect s (.move (.takes n)) (s.take n) := by
  unfold take
  split
  next rest hp _ =>
    dsimp only
    split
    · exact .takesLast n rest _ hp
    · exact .takesSome n rest _ hp
  · exact .nothing _ (by simp) (fun _ => rfl)

theorem learn_effect (s : Supervisor) : Effect s (.move .learns) s.learn := by
  unfold learn
  split
  next rest hp _ => exact .learnsBroken rest hp
  next rest e _ hp _ => exact .learnsError rest e hp
  · exact .nothing _ (by simp) (fun _ => rfl)

theorem hear_effect (s : Supervisor) : Effect s (.move .hears) s.hear := by
  have hn : Effect s (.move .hears) s := .nothing _ (by simp) (fun _ => rfl)
  unfold hear
  split
  next hb =>
    split
    next hp => exact .hearsListening hp hb
    next hp => exact .hearsLingering hp hb
    · exact hn
  · exact hn

theorem learnExit_effect (s : Supervisor) : Effect s (.move .learnsExit) s.learnExit := by
  unfold learnExit
  split
  next code hp hc => exact .learnsExit code hp hc
  next e hp hc => exact .learnsLoss e hp hc
  · exact .nothing _ (by simp) (fun _ => rfl)

/-- What each turn does is among the effects. -/
theorem turn_effect (s : Supervisor) (t : Turn) : Effect s t (s.turn t) := by
  have hn (m : Move) (h : m ≠ .advance) (h' : ∀ k, s.adds k (.move m) = []) :
      Effect s (.move m) s :=
    .nothing _ (fun hm => absurd (Turn.move.inj hm) h) h'
  cases t with
  | call c => exact begin_effect s c
  | move m =>
    cases m with
    | writes k bytes => exact .writes k bytes
    | closes k => exact .closes k
    | reads k n => exact .reads k n
    | ends k => exact .ends k
    | advance => exact advance_effect s
    | takes n => exact take_effect s n
    | learns => exact learn_effect s
    | hears => exact hear_effect s
    | learnsExit => exact learnExit_effect s
    | exits code =>
      simp only [turn, step, settleChild]
      split
      next hc => exact .exits code hc
      · exact hn _ (by simp) (fun _ => rfl)
    | loses e =>
      simp only [turn, step, settleChild]
      split
      next hc => exact .loses e hc
      · exact hn _ (by simp) (fun _ => rfl)
    | breaksInput e =>
      simp only [turn, step, breakInput]
      split
      next hi => exact .breaksInput e hi
      · exact hn _ (by simp) (fun _ => rfl)
    | notifies k =>
      simp only [turn, step, notify]
      split
      next hd => exact .notifies k hd
      · exact hn _ (by simp) (fun _ => rfl)
    | reaps k =>
      simp only [turn, step, reap]
      split
      next h =>
        obtain ⟨hp, hr⟩ : s.point = .lingering ∧ (s.channel k).isReapable = true := by
          simpa using h
        exact .reaps k hp hr
      · exact hn _ (by simp) (fun _ => rfl)
    | tires =>
      simp only [turn, step, tire]
      split
      next hp => exact .tires hp
      · exact hn _ (by simp) (fun _ => rfl)

end CellRunner.Supervisor
