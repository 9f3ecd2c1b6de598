import CellRunner.Proofs.Session.Deeds
import CellRunner.Proofs.Supervisor.Rest
import CellRunner.Session.Pipeline

/-!
# What a process writes and what is told of it

The record of a session's requests has in it all that a process does from its start to its end:
the bytes that it writes, and how it ends. When it comes to an exit code, and all that it wrote is
text and was read, then what was told meanwhile is exactly that text.
-/

set_option autoImplicit false

namespace CellRunner
open Supervisor Utf8

namespace Deed

/-- The state in which time began to pass for a process, and the moves that were made meanwhile. -/
def span? (process : Nat) : Deed → Option (Supervisor × List Move)
  | .during p begun moves => if p = process then some (begun, moves) else none
  | .elapse p state _ moves => if p = process then some (state, moves) else none
  | _ => none

def isReleaseOf (process : Nat) : Deed → Bool
  | .release p => p = process
  | _ => false

def isStart : Deed → Bool
  | .spawn _ _ (.ok _) => true
  | _ => false

end Deed

/-- What happened to a process after its start, until it was let go. -/
def spans (process : Nat) (ds : List Deed) : List (Supervisor × List Move) :=
  (ds.takeWhile (!·.isReleaseOf process)).filterMap (Deed.span? process)

/-- A process that was started, and what happened to it. -/
structure Subprocess where
  program : String
  args : List String
  spans : List (Supervisor × List Move)

/-- The processes that were started, in order. -/
def subprocesses : List Deed → List Subprocess
  | [] => []
  | .spawn program args (.ok process) :: ds =>
    { program, args, spans := spans process ds } :: subprocesses ds
  | _ :: ds => subprocesses ds

/-- The bytes that a process wrote to a stream. -/
def writtenIn (k : Stream) (ss : List (Supervisor × List Move)) : List UInt8 :=
  ss.flatMap fun (begun, moves) => output k begun (moves.map .move)

theorem writtenIn_append (k : Stream) (ss ts : List (Supervisor × List Move)) :
    writtenIn k (ss ++ ts) = writtenIn k ss ++ writtenIn k ts := List.flatMap_append

namespace Subprocess

def written (p : Subprocess) (k : Stream) : List UInt8 := writtenIn k p.spans

/-- The text of what it wrote to a stream. -/
def said (p : Subprocess) (k : Stream) : String := String.ofList (scan (p.written k)).text

/-- The state that it was last seen in. -/
def last (p : Subprocess) : Supervisor :=
  match p.spans.getLast? with
  | some (begun, moves) => begun.run moves
  | none => {}

/-- How it ended; a process that a signal ended has a negative code. -/
def code? (p : Subprocess) : Option ExitCode :=
  match p.last.child with
  | .exited code => some code
  | _ => none

/-- All that it wrote is text, and was read, as it is when its streams were read to their ends. -/
structure Heard (p : Subprocess) : Prop where
  text : ∀ k, IsText (p.written k)
  read : ∀ k, (p.last.channel k).pipe = []

instance (bs : List UInt8) : Decidable (IsText bs) := decidable_of_iff _ (isText_iff bs).symm

instance (p : Subprocess) : Decidable p.Heard :=
  decidable_of_iff ((∀ k, IsText (p.written k)) ∧ ∀ k, (p.last.channel k).pipe = [])
    ⟨fun h => ⟨h.1, h.2⟩, fun h => ⟨h.text, h.read⟩⟩

theorem encode_said (p : Subprocess) (k : Stream) (h : IsText (p.written k)) :
    encode (p.said k) = p.written k := by
  obtain ⟨text, ht⟩ := h
  simp [said, ← ht, scan_encode]

end Subprocess

/-- The requests start these processes and let go of each of them. -/
def Starts (ds : List Deed) (ps : List Subprocess) : Prop :=
  ∀ es, subprocesses (ds ++ es) = ps ++ subprocesses es

theorem starts_nil : Starts [] [] := fun _ => rfl

theorem subprocesses_of_starts (ds : List Deed) (ps : List Subprocess) (h : Starts ds ps) :
    subprocesses ds = ps := by
  have hall := h []
  rw [List.append_nil] at hall
  exact hall.trans (List.append_nil ps)

theorem starts_append (ds es : List Deed) (ps qs : List Subprocess) (h : Starts ds ps)
    (h' : Starts es qs) : Starts (ds ++ es) (ps ++ qs) := by
  intro rest
  rw [List.append_assoc, h, h', List.append_assoc]

theorem subprocesses_cons (d : Deed) (ds : List Deed) (hd : d.isStart = false) :
    subprocesses (d :: ds) = subprocesses ds := by
  cases d with
  | spawn program args r =>
    cases r with
    | ok process => contradiction
    | error e => rfl
  | _ => rfl

theorem starts_none (ds : List Deed) (h : ∀ d ∈ ds, d.isStart = false) : Starts ds [] := by
  intro es
  induction ds with
  | nil => rfl
  | cons d ds ih =>
    rw [List.cons_append, subprocesses_cons d _ (h d (by simp))]
    exact ih fun e he => h e (by simp [he])

/-- The requests only let time pass for a process. -/
def Attends (process : Nat) (ds : List Deed) : Prop :=
  ∀ d ∈ ds, ∃ begun moves, d = .during process begun moves

theorem attends_append (process : Nat) (ds es : List Deed) (hd : Attends process ds)
    (he : Attends process es) : Attends process (ds ++ es) := by
  intro d h
  obtain h | h := List.mem_append.mp h
  · exact hd d h
  · exact he d h

/-- The requests are those for one process, from its start until it is let go. -/
def Lifetime (q : Subprocess) (ds : List Deed) : Prop :=
  ∃ process attended, Attends process attended ∧
    ds = .spawn q.program q.args (.ok process) :: (attended ++ [.release process]) ∧
    q.spans = attended.filterMap (Deed.span? process)

theorem starts_lifetime (q : Subprocess) (ds : List Deed) (h : Lifetime q ds) :
    Starts ds [q] := by
  obtain ⟨program, args, ss⟩ := q
  obtain ⟨process, attended, hds, rfl, rfl⟩ := h
  intro es
  have hspans : spans process (attended ++ [.release process] ++ es) =
      attended.filterMap (Deed.span? process) := by
    rw [spans, List.append_assoc, List.takeWhile_append_of_pos]
    · simp [Deed.isReleaseOf]
    · intro d hd
      obtain ⟨begun, moves, rfl⟩ := hds d hd
      rfl
  have hrest : subprocesses (attended ++ [.release process] ++ es) = subprocesses es := by
    refine starts_none _ (fun d hd => ?_) es
    obtain hd | hd := List.mem_append.mp hd
    · obtain ⟨begun, moves, rfl⟩ := hds d hd
      rfl
    · obtain rfl := List.mem_singleton.mp hd
      rfl
  rw [List.cons_append, subprocesses, hspans, hrest]
  rfl

/-- The text that one event hands to a stream. -/
@[simp] def Event.text (k : Stream) : Event → String
  | .wrote stream text => if stream = k then text else ""
  | _ => ""

@[simp] theorem streamText_nil (k : Stream) : streamText k [] = "" := rfl

@[simp] theorem streamText_cons (k : Stream) (e : Event) (es : List Event) :
    streamText k (e :: es) = e.text k ++ streamText k es := by
  rw [streamText, List.filterMap_cons]
  cases e with
  | wrote stream text => by_cases h : stream = k <;> simp [h, streamText]
  | _ => simp [streamText]

@[simp] theorem streamText_append (k : Stream) (es fs : List Event) :
    streamText k (es ++ fs) = streamText k es ++ streamText k fs := by
  simp [streamText, String.join_append]

/-- The texts of these pairs, for one stream. -/
theorem streamText_wrote (k : Stream) (texts : List (Stream × String)) :
    streamText k (texts.map fun (stream, text) => .wrote stream text) = String.join
      (texts.filterMap fun (stream, text) => if stream = k then some text else none) := by
  rw [streamText, List.filterMap_map]
  rfl

namespace Job
open Act

variable {σ : Type}

/-- Between two calls: what happened to the process so far is accounted for, and what was handed
on was told. -/
structure Balanced (p : Job) (ss : List (Supervisor × List Move)) (es : List Event) : Prop where
  sound : Supervisor.Sound p.state
  rests : p.state.Rests
  idle : p.state.point = .idle
  accounts : ∀ k, ¬ p.state.FailedOn k ∧
    (p.state.channel k).Accounts (p.state.delivered k) (writtenIn k ss)
  told : ∀ k, p.state.delivered k = streamText k es

theorem balanced_start (id : Nat) (program : String) :
    Balanced { id := id, program := program } [] [] where
  sound := sound_start
  rests := rests_start
  idle := rfl
  accounts k := ⟨by simp [FailedOn], accounts_start k⟩
  told k := rfl

theorem told_news (p : Job) (u : Supervisor) (k : Stream) (h : p.state.sink <+: u.sink) :
    p.state.delivered k ++ streamText k (p.news u) = u.delivered k := by
  obtain ⟨more, hmore⟩ := h
  have htexts : streamText k (p.news u) =
      streamText k (more.map fun (stream, text) => .wrote stream text) := by
    simp only [news, ← hmore, List.drop_left]
    split
    · rw [streamText_append]
      exact String.append_empty
    · rfl
  rw [htexts, streamText_wrote, delivered, delivered, ← hmore, List.filterMap_append,
    String.join_append]

/-- What a call asks of the world: nothing when it is answered at once. -/
def Asks (p : Job) (c : Supervisor.Call) (moves : List Move) (ds : List Deed) : Prop :=
  (moves = [] ∧ ds = [] ∧ (p.state.begin c).answer ≠ none) ∨
    (ds = [.during p.id (p.state.begin c) moves] ∧ (p.state.begin c).answer = none)

theorem call_returns (w : World σ) (p : Job) (c : Supervisor.Call) (s : Scene (Recording σ)) :
    (p.call w.recorded c).Returns s fun r _ es ds => ∃ moves,
      p.Asks c moves ds ∧ es = p.news ((p.state.begin c).run moves) ∧
      ((p.state.begin c).run moves).answer = some r.1 ∧
      r.2 = { p with state := (p.state.begin c).run moves } := by
  have hanswered (moves : List Move) (s : Scene (Recording σ)) :
      (p.answered ((p.state.begin c).run moves)).Returns s fun r _ es ds => ds = [] ∧
        es = p.news ((p.state.begin c).run moves) ∧
        ((p.state.begin c).run moves).answer = some r.1 ∧
        r.2 = { p with state := (p.state.begin c).run moves } := by
    refine traces_bind_emitAll _ ?_
    cases ha : ((p.state.begin c).run moves).answer with
    | some a => exact returns_pure _ ⟨rfl, by simp, rfl, rfl⟩
    | none => exact returns_hung
  unfold call
  dsimp only
  cases hb : (p.state.begin c).answer with
  | some a =>
    refine returns_bind (P := fun moves _ es ds => moves = [] ∧ es = [] ∧ ds = [])
      (returns_pure _ ⟨rfl, rfl, rfl⟩) ?_
    rintro _ t _ _ ⟨rfl, rfl, rfl⟩
    refine returns_mono (hanswered [] t) ?_
    rintro r u es ds ⟨rfl, hes, hr⟩
    exact ⟨[], .inl ⟨rfl, rfl, by simp [hb]⟩, hes, hr⟩
  | none =>
    refine traces_bind_ask _ (.during p.id (p.state.begin c)) rfl fun moves world => ?_
    refine returns_mono (hanswered moves _) ?_
    rintro r u es ds ⟨rfl, hes, hr⟩
    exact ⟨moves, .inr ⟨rfl, hb⟩, hes, hr⟩

theorem balanced_call (p : Job) (c : Supervisor.Call) (moves : List Move) (ds : List Deed)
    (ss : List (Supervisor × List Move)) (es : List Event) (a : Answer) (hp : p.Balanced ss es)
    (hasks : p.Asks c moves ds) (ha : ((p.state.begin c).run moves).answer = some a)
    (hn : ∀ f, a ≠ .failed f) :
    Balanced { p with state := (p.state.begin c).run moves }
      (ss ++ ds.filterMap (Deed.span? p.id)) (es ++ p.news ((p.state.begin c).run moves)) := by
  have hbegun : Supervisor.Sound (p.state.begin c) := turn_sound p.state (.call c) hp.sound
  have hsound : Supervisor.Sound ((p.state.begin c).run moves) := by
    rw [← live_moves]
    exact live_sound _ _ hbegun
  have hwritten (k : Stream) : writtenIn k (ss ++ ds.filterMap (Deed.span? p.id)) =
      writtenIn k ss ++ output k (p.state.begin c) (moves.map .move) := by
    rw [writtenIn_append]
    obtain ⟨rfl, rfl, -⟩ | ⟨rfl, -⟩ := hasks <;> simp [writtenIn, output, Deed.span?]
  -- the other possibility, an account closed by a failure, is ruled out by the answer
  have hstands := stands_run _ moves _ hbegun (stands_begin p.state c _ hp.sound hp.accounts)
  exact {
    sound := hsound
    rests := rests_run _ moves hbegun (rests_turn p.state (.call c) hp.sound hp.rests)
    idle := by
      by_cases hidle : ((p.state.begin c).run moves).point = .idle
      · exact hidle
      · simp [hsound.calm hidle] at ha
    accounts := fun k => by
      obtain hk | ⟨-, j, given, ⟨f, hf⟩, -⟩ := hstands
      · rw [hwritten]
        exact hk k
      · exact absurd (Option.some.inj (ha.symm.trans hf)) (hn _)
    told := fun k => by
      have hsink := (turn_sink p.state (.call c)).trans (run_sink _ moves)
      rw [streamText_append, ← hp.told]
      exact (told_news p _ k hsink).symm }

/-- What is told besides the texts does not count. -/
theorem balanced_congr (p : Job) (ss : List (Supervisor × List Move)) (es fs : List Event)
    (hp : p.Balanced ss es) (h : ∀ k, streamText k fs = streamText k es) : p.Balanced ss fs :=
  { hp with told := fun k => (hp.told k).trans (h k).symm }

theorem attends_asks (p : Job) (c : Supervisor.Call) (moves : List Move) (ds : List Deed)
    (h : p.Asks c moves ds) : Attends p.id ds := by
  obtain ⟨-, rfl, -⟩ | ⟨rfl, -⟩ := h
  · simp [Attends]
  · simp [Attends]

theorem write_returns (w : World σ) (p : Job) (bytes : List UInt8)
    (ss : List (Supervisor × List Move)) (es : List Event) (s : Scene (Recording σ))
    (hp : p.Balanced ss es) :
    (p.write w.recorded bytes).Returns s fun p' _ es' ds => p'.id = p.id ∧ Attends p.id ds ∧
      p'.Balanced (ss ++ ds.filterMap (Deed.span? p.id)) (es ++ es') := by
  refine traces_bind_emit _ <| returns_bind (call_returns w p (.write bytes) _) ?_
  rintro ⟨a, p'⟩ t es' ds ⟨moves, hasks, rfl, ha, rfl⟩
  have hbalanced (hn : ∀ f, a ≠ .failed f) :=
    balanced_call p (.write bytes) moves ds ss es a hp hasks ha hn
  cases a with
  | failed f => exact returns_fail _
  | _ =>
    refine returns_pure _ ⟨rfl, by simpa using attends_asks p _ moves ds hasks, ?_⟩
    exact balanced_congr _ _ _ _ (by simpa using hbalanced (by simp)) (by simp)

theorem closeInput_returns (w : World σ) (p : Job) (ss : List (Supervisor × List Move))
    (es : List Event) (s : Scene (Recording σ)) (hp : p.Balanced ss es) :
    (p.closeInput w.recorded).Returns s fun p' _ es' ds => p'.id = p.id ∧ Attends p.id ds ∧
      p'.Balanced (ss ++ ds.filterMap (Deed.span? p.id)) (es ++ es') := by
  refine traces_bind_emit _ <| returns_bind (call_returns w p .close _) ?_
  rintro ⟨a, p'⟩ t es' ds ⟨moves, hasks, rfl, ha, rfl⟩
  -- closing takes no time: the call is answered as it begins
  have hclosed : (p.state.begin .close).answer = some .closed := by
    simp [Supervisor.begin, hp.idle, reply]
  obtain rfl : a = .closed := by
    obtain ⟨rfl, -, -⟩ | ⟨-, hnone⟩ := hasks
    · exact Option.some.inj (ha.symm.trans hclosed)
    · simp [hclosed] at hnone
  refine returns_pure _ ⟨rfl, by simpa using attends_asks p _ moves ds hasks, ?_⟩
  have hbalanced := balanced_call p .close moves ds ss es _ hp hasks ha (by simp)
  exact balanced_congr _ _ _ _ (by simpa using hbalanced) (by simp)

/-- What is left of a wait that comes to an exit code. -/
theorem wait_returns (w : World σ) (p : Job) (ss : List (Supervisor × List Move))
    (es : List Event) (s : Scene (Recording σ)) (hp : p.Balanced ss es) :
    (p.wait w.recorded).Returns s fun r _ es' ds =>
      r.2.state.answer = some (.waited r.1) ∧ Attends p.id ds ∧
      (∃ begun moves, ds = [.during p.id begun moves] ∧ r.2.state = begun.run moves) ∧
      r.2.Balanced (ss ++ ds.filterMap (Deed.span? p.id)) (es ++ es') := by
  refine returns_bind (call_returns w p .wait s) ?_
  rintro ⟨a, p'⟩ t es' ds ⟨moves, hasks, rfl, ha, rfl⟩
  have hasked : ds = [.during p.id (p.state.begin .wait) moves] := by
    obtain ⟨-, -, h⟩ | ⟨rfl, -⟩ := hasks
    · simp [begin_wait _ hp.idle] at h
    · rfl
  cases a with
  | waited code =>
    refine returns_pure _ ⟨ha, by simpa using attends_asks p _ moves ds hasks,
      ⟨_, moves, by simpa using hasked, rfl⟩, ?_⟩
    simpa using balanced_call p .wait moves ds ss es _ hp hasks ha (by simp)
  | failed f => exact returns_fail _
  | _ => exact returns_hung

/-- After a wait that came to an exit code, all that was read has been told. -/
theorem balanced_waited (p : Job) (q : Subprocess) (es : List Event) (code : ExitCode)
    (hp : p.Balanced q.spans es) (ha : p.state.answer = some (.waited code))
    (hlast : q.last = p.state) : q.code? = some code ∧
      (q.Heard → ∀ k, streamText k es = q.said k) := by
  have hexit := hp.sound.exited code (hp.sound.waited code ha).1
  refine ⟨by simp [Subprocess.code?, hlast, hexit], fun hq k => ?_⟩
  have hread := waited_read p.state code _ hp.rests (.inl hp.accounts) ha k (hq.text k)
    (hlast ▸ hq.read k)
  rw [← hp.told]
  exact encode_inj _ _ (hread.trans (q.encode_said k (hq.text k)).symm)

theorem release_returns (w : World σ) (p : Job) (s : Scene (Recording σ)) :
    (p.release w.recorded).Returns s fun _ _ es ds =>
      es = [.released p.id] ∧ ds = [.release p.id] :=
  traces_bind_modify _ [.release p.id] rfl rfl <| traces_emit _ (by simp)

theorem releasing_returns {α : Type} (w : World σ) (p : Job) (a : Act (Recording σ) α)
    (s : Scene (Recording σ)) (P : α → List Event → List Deed → Prop)
    (h : a.Returns s fun v _ es ds => P v es ds) :
    (p.releasing w.recorded a).Returns s fun v _ es ds => ∃ es' ds',
      es = es' ++ [.released p.id] ∧ ds = ds' ++ [.release p.id] ∧ P v es' ds' := by
  refine traces_bind (traces_attempt h) ?_ (by simp)
  rintro r t es ds ⟨r', hr, hp⟩
  cases r with
  | ok v =>
    obtain rfl : r' = .ok v := by
      rcases r' with (_ | _) | _ <;> simp_all [attempted]
    refine returns_bind (release_returns w p t) ?_
    rintro _ u _ _ ⟨rfl, rfl⟩
    exact returns_pure _ ⟨es, ds, by simp, by simp, hp v rfl⟩
  | error f => exact returns_bind (release_returns w p t) fun _ _ _ _ _ => returns_fail _

end Job

namespace Pipeline
open Act

variable {σ : Type}

theorem start_returns (w : World σ) (program : String) (args : List String)
    (s : Scene (Recording σ)) :
    (Job.start w.recorded program args).Returns s fun p _ es ds => p.program = program ∧
      es = [.spawned program args p.id] ∧ ds = [.spawn program args (.ok p.id)] ∧
      p.Balanced [] [] := by
  refine traces_bind_ask _ (.spawn program args) rfl fun r world => ?_
  cases r with
  | error e => exact traces_bind_emit _ <| returns_fail _
  | ok id =>
    exact traces_bind_emit _ <| returns_pure _ ⟨rfl, rfl, rfl, Job.balanced_start id program⟩

/-- What is known of a process `q` when it has come to an exit code, and `es` were told. -/
def Ended (q : Subprocess) (code : ExitCode) (es : List Event) : Prop :=
  q.code? = some code ∧ (q.Heard → ∀ k, streamText k es = q.said k)

/-- The end of the input, and then the end of the process. -/
theorem finish_returns (w : World σ) (p : Job) (ss : List (Supervisor × List Move))
    (es : List Event) (s : Scene (Recording σ)) (hp : p.Balanced ss es) :
    Returns (do
      let p ← p.closeInput w.recorded
      let (code, _) ← p.wait w.recorded
      return code) s fun code _ es' ds => Attends p.id ds ∧ ∀ q : Subprocess,
        q.spans = ss ++ ds.filterMap (Deed.span? p.id) → Ended q code (es ++ es') := by
  refine returns_bind (Job.closeInput_returns w p ss es s hp) ?_
  rintro p' t es' ds ⟨hid, hds, hp'⟩
  refine returns_bind (Job.wait_returns w p' _ _ t hp') ?_
  rintro ⟨code, p''⟩ u es'' ds' ⟨ha, hds', ⟨begun, moves, hlast, hstate⟩, hp''⟩
  rw [hid] at hds' hlast hp''
  -- a process is seen last during its wait, so its last state is the one that the wait ended in
  refine returns_pure _ ⟨?_, fun q hq => ?_⟩
  · simpa using attends_append _ _ _ hds hds'
  have hspans : q.spans = ss ++ ds.filterMap (Deed.span? p.id) ++ [(begun, moves)] := by
    simpa [hlast, Deed.span?] using hq
  refine Job.balanced_waited p'' q _ code ?_ ha ?_
  · simpa [hq] using hp''
  · simpa [Subprocess.last, hspans] using hstate.symm

/-- A program that comes to an exit code is one process, which ended with this code; what was told
meanwhile is what it wrote. -/
theorem runProgram_returns (w : World σ) (program : String) (args : List String)
    (input : Option (List UInt8)) (s : Scene (Recording σ)) :
    (runProgram w.recorded program args input).Returns s fun code _ es ds => ∃ q : Subprocess,
      q.program = program ∧ q.args = args ∧ Lifetime q ds ∧ Ended q code es := by
  refine returns_bind (start_returns w program args s) ?_
  rintro p t _ _ ⟨rfl, rfl, rfl, hp⟩
  refine returns_mono (Job.releasing_returns w p _ t (fun code es ds => Attends p.id ds ∧
    ∀ q : Subprocess, q.spans = ds.filterMap (Deed.span? p.id) → Ended q code es) ?_) ?_
  · cases input with
    | none => simpa using finish_returns w p [] [] t hp
    | some bytes =>
      refine returns_bind (Job.write_returns w p bytes [] [] t hp) ?_
      rintro p' u es ds ⟨hid, hds, hp'⟩
      refine returns_mono (finish_returns w p' _ _ u hp') ?_
      rintro code v es' ds' ⟨hds', hended⟩
      rw [hid] at hds' hended
      exact ⟨attends_append _ _ _ hds hds', by simpa using hended⟩
  · rintro code u es ds ⟨es', ds', rfl, rfl, hds, hended⟩
    let q : Subprocess :=
      { program := p.program, args, spans := ds'.filterMap (Deed.span? p.id) }
    obtain ⟨hcode, htold⟩ := hended q rfl
    refine ⟨q, rfl, rfl, ⟨p.id, ds', hds, rfl, rfl⟩, hcode, fun hq k => ?_⟩
    simpa using htold hq k

end Pipeline

end CellRunner
