import CellRunner.Proofs.Supervisor.Afterwards

/-!
# Feeding a process

Bytes that are written to the input before it is closed come to the process in the order of the
calls, and nothing that is written later does. A process that reads no more is told to nobody. All
of this happens beside the streams: they are as they would be without the calls.
-/

set_option autoImplicit false

namespace CellRunner.Supervisor

/-! ## The bytes -/

/-- What a move can do to the input and to a call that has to do with it. -/
inductive InputMove (s : Supervisor) (u : Supervisor) : Move → Prop where
  /-- nothing can be taken from a broken input, and of one that is not there is nothing to learn -/
  | still (m : Move) (point : u.point = s.point) (answer : u.answer = s.answer)
      (input : u.input = s.input)
      (takes : ∀ n rest, m = .takes n → s.point = .writing rest → s.input.broken ≠ none)
      (learns : ∀ rest, m = .learns → s.point = .writing rest → s.input.broken = none) :
      InputMove s u m
  | takesSome (n : Nat) (rest : List UInt8) (at' : s.point = .writing rest)
      (whole : s.input.broken = none) (more : rest.drop n ≠ [])
      (point : u.point = .writing (rest.drop n)) (answer : u.answer = s.answer)
      (input : u.input = { s.input with taken := s.input.taken ++ rest.take n }) :
      InputMove s u (.takes n)
  | takesLast (n : Nat) (rest : List UInt8) (at' : s.point = .writing rest)
      (whole : s.input.broken = none) (all : rest.length ≤ n) (point : u.point = .idle)
      (answer : u.answer = some .wrote)
      (input : u.input = { s.input with taken := s.input.taken ++ rest }) :
      InputMove s u (.takes n)
  | learns (e : SystemError) (rest : List UInt8) (at' : s.point = .writing rest)
      (broken : s.input.broken = some e) (point : u.point = .idle) (answer : u.answer ≠ none)
      (input : u.input = s.input) : InputMove s u .learns
  | breaks (e : SystemError) (whole : s.input.broken = none) (point : u.point = s.point)
      (answer : u.answer = s.answer) (input : u.input = { s.input with broken := some e }) :
      InputMove s u (.breaksInput e)

theorem takes_move (s : Supervisor) (n : Nat) : InputMove s (s.take n) (.takes n) := by
  unfold take
  split
  next rest hp hb =>
    dsimp only
    split
    next hall =>
      have hlength : rest.length ≤ n := by simpa using hall
      refine .takesLast n rest hp hb hlength rfl rfl ?_
      simp [reply, List.take_of_length_le hlength]
    next hmore => exact .takesSome n rest hp hb (by simpa using hmore) rfl rfl rfl
  next hno =>
    exact .still _ rfl rfl rfl (fun _ rest _ hp hb => hno rest hp hb) (by simp)

theorem learns_move (s : Supervisor) : InputMove s s.learn .learns := by
  unfold learn
  split
  next rest hp hb => exact .learns .brokenPipe rest hp hb rfl (by simp [reply]) rfl
  next rest e _ hp hb => exact .learns e rest hp hb rfl (by simp [fail, reply]) rfl
  next hpipe hother =>
    refine .still _ rfl rfl rfl (by simp) fun rest _ hp => ?_
    cases hb : s.input.broken with
    | none => rfl
    | some e => exact absurd hb (hother rest e hp)

theorem breaks_move (s : Supervisor) (e : SystemError) :
    InputMove s (s.breakInput e) (.breaksInput e) := by
  unfold breakInput
  split
  next hb => exact .breaks e hb rfl rfl rfl
  · exact .still _ rfl rfl rfl (by simp) (by simp)

theorem input_move (s : Supervisor) (m : Move) (h : s.AtInput) : InputMove s (s.step m) m := by
  have hstill (htakes : ∀ n, m ≠ .takes n) (hlearns : m ≠ .learns)
      (hbreaks : ∀ e, m ≠ .breaksInput e) : InputMove s (s.step m) m := by
    obtain ⟨hp, ha, hi⟩ := input_still s m h htakes hlearns hbreaks
    exact .still m hp ha hi (fun n _ hm => absurd hm (htakes n)) fun _ hm => absurd hm hlearns
  cases m with
  | takes n => exact takes_move s n
  | learns => exact learns_move s
  | breaksInput e => exact breaks_move s e
  | _ => exact hstill (by simp) (by simp) (by simp)

/-- The bytes that the owner still has to write in the call that it is in. -/
def Point.unwritten : Point → List UInt8
  | .writing rest => rest
  | _ => []

@[simp] theorem Point.unwritten_idle : Point.idle.unwritten = [] := rfl

/-- Of the bytes that were `offered` the process was given the front part, and all that is not being
written if it still reads. -/
structure Fed (s : Supervisor) (offered : List UInt8) : Prop where
  atInput : s.AtInput
  whole : s.input.broken = none → s.input.taken ++ s.point.unwritten = offered
  part : s.input.taken <+: offered

theorem fed_step (s : Supervisor) (m : Move) (offered : List UInt8) (h : s.Fed offered) :
    (s.step m).Fed offered ∧ (s.step m).input.isOpen = s.input.isOpen ∧
      ∀ e, s.input.broken = some e → (s.step m).input.broken = some e := by
  have hat := (input_step s m h.atInput).1
  have hmove := input_move s m h.atInput
  generalize s.step m = u at hat hmove
  cases hmove with
  | still _ hp _ hi =>
    rw [hi]
    exact ⟨⟨hat, by rw [hi, hp]; exact h.whole, by rw [hi]; exact h.part⟩, rfl, fun _ => id⟩
  | takesSome n rest hp hb _ hp' _ hi | takesLast n rest hp hb _ hp' _ hi =>
    have hwhole : s.input.taken ++ rest = offered := by
      have hw := h.whole hb
      rwa [hp] at hw
    have hnow : u.input.taken ++ u.point.unwritten = offered := by
      simp [hi, hp', Point.unwritten, hwhole]
    exact ⟨⟨hat, fun _ => hnow, ⟨_, hnow⟩⟩, by simp [hi], by simp [hb]⟩
  | learns e rest _ hb _ _ hi =>
    rw [hi]
    exact ⟨⟨hat, by simp [hi, hb], by rw [hi]; exact h.part⟩, rfl, fun _ => id⟩
  | breaks e hb _ _ hi =>
    exact ⟨⟨hat, by simp [hi], by rw [hi]; exact h.part⟩, by simp [hi], by simp [hb]⟩

theorem fed_run (s : Supervisor) (moves : List Move) (offered : List UInt8) (h : s.Fed offered) :
    (s.run moves).Fed offered ∧ (s.run moves).input.isOpen = s.input.isOpen ∧
      ∀ e, s.input.broken = some e → (s.run moves).input.broken = some e := by
  induction moves generalizing s with
  | nil => exact ⟨h, rfl, fun _ => id⟩
  | cons m moves ih =>
    obtain ⟨hfed, hopen, hbroken⟩ := fed_step s m offered h
    obtain ⟨hfed', hopen', hbroken'⟩ := ih (s.step m) hfed
    exact ⟨hfed', hopen'.trans hopen, fun e he => hbroken' e (hbroken e he)⟩

/-- An owner that is at the input has offered some bytes. -/
theorem fed_of_atInput (s : Supervisor) (h : s.AtInput) : ∃ offered, s.Fed offered :=
  ⟨s.input.taken ++ s.point.unwritten, h, fun _ => rfl, List.prefix_append _ _⟩

/-! ## When a call ends -/

/-- The bytes that the other end has room for in some moves. -/
def room : List Move → Nat
  | [] => 0
  | .takes n :: moves => n + room moves
  | _ :: moves => room moves

/-- While the process reads, a write ends as soon as there was room for its bytes. -/
theorem takes_answer (s : Supervisor) (moves : List Move) (rest : List UInt8)
    (hp : s.point = .writing rest) (some : rest ≠ [])
    (whole : (s.run moves).input.broken = none) (enough : rest.length ≤ room moves) :
    (s.run moves).answer ≠ none := by
  induction moves generalizing s rest with
  | nil =>
    have hlength : rest.length = 0 := Nat.le_zero.mp enough
    exact absurd (List.length_eq_zero_iff.mp hlength) some
  | cons m moves ih =>
    have hat : s.AtInput := .inr ⟨rest, hp⟩
    -- an input that breaks stays broken, and this one is whole at the end
    have hnow (e : SystemError) : (s.step m).input.broken ≠ .some e := by
      intro hb
      obtain ⟨offered, hfed⟩ := fed_of_atInput _ (input_step s m hat).1
      have hbroken := (fed_run (s.step m) moves offered hfed).2.2 e hb
      have hwhole : ((s.step m).run moves).input.broken = none := whole
      simp [hbroken] at hwhole
    have hdone (hidle : (s.step m).point = .idle) (ha : (s.step m).answer ≠ none) :
        ((s.step m).run moves).answer ≠ none := by
      obtain ⟨-, hsame⟩ := idle_run (s.step m) moves hidle
      rwa [hsame]
    cases input_move s m hat with
    | still _ hp' _ hi htakes _ =>
      refine ih (s.step m) rest (hp'.trans hp) some whole (Nat.le_trans enough ?_)
      cases m with
      | takes n =>
        obtain ⟨e, he⟩ := Option.ne_none_iff_exists'.mp (htakes n rest rfl hp)
        exact absurd (by rw [hi, he]) (hnow e)
      | _ => exact Nat.le_refl _
    | takesSome n rest' hp' _ hmore hnext _ _ =>
      obtain rfl : rest = rest' := Point.writing.inj (hp.symm.trans hp')
      apply ih _ _ hnext hmore whole
      rw [List.length_drop]
      exact Nat.sub_le_of_le_add (by simpa [room, Nat.add_comm] using enough)
    | takesLast n _ _ _ _ hidle ha => exact hdone hidle (by simp [ha])
    | learns e _ _ _ hidle ha => exact hdone hidle ha
    | breaks e _ _ _ hi => exact absurd (by rw [hi]) (hnow e)

/-- In a call that has to do with the input: bytes are left to write, or the call has ended. -/
inductive InCall (s : Supervisor) : Prop where
  | ended (at' : s.point = .idle) (answer : s.answer ≠ none)
  | writing (rest : List UInt8) (at' : s.point = .writing rest) (some : rest ≠ [])
      (answer : s.answer = none)

theorem InCall.atInput {s : Supervisor} (h : s.InCall) : s.AtInput := by
  cases h with
  | ended at' => exact .inl at'
  | writing rest at' => exact .inr ⟨rest, at'⟩

theorem inCall_step (s : Supervisor) (m : Move) (h : s.InCall) : (s.step m).InCall := by
  have hmove := input_move s m h.atInput
  generalize s.step m = u at hmove
  have hsame (hp : u.point = s.point) (ha : u.answer = s.answer) : u.InCall := by
    cases h with
    | ended at' answer => exact .ended (hp.trans at') (by rwa [ha])
    | writing rest at' some answer => exact .writing rest (hp.trans at') some (ha.trans answer)
  cases hmove with
  | still _ hp ha | breaks _ _ hp ha => exact hsame hp ha
  | takesSome n rest at' _ more hp ha =>
    cases h with
    | ended hidle => simp [at'] at hidle
    | writing _ _ _ answer => exact .writing _ hp more (ha.trans answer)
  | takesLast _ _ _ _ _ hp ha => exact .ended hp (by simp [ha])
  | learns _ _ _ _ hp ha => exact .ended hp ha

theorem inCall_run (s : Supervisor) (moves : List Move) (h : s.InCall) : (s.run moves).InCall := by
  induction moves generalizing s with
  | nil => exact h
  | cons m moves ih => exact ih _ (inCall_step s m h)

/-- An answer stands for the rest of the call. -/
theorem answer_stands (s : Supervisor) (past more : List Move) (h : s.InCall)
    (ha : (s.run past).answer ≠ none) : (s.run (past ++ more)).answer ≠ none := by
  rw [run_append]
  cases inCall_run s past h with
  | ended hidle _ => rwa [(idle_run _ more hidle).2]
  | writing _ _ _ answer => exact absurd answer ha

/-- The process does its part in a call: it has room for what is written, or reads no more and the
owner learns of that. A call that is answered when it begins needs no part. -/
inductive Served (begun : Supervisor) (moves : List Move) : Prop where
  | atOnce (answered : begun.answer ≠ none)
  | read (past : List Move) (prior : past <+: moves)
      (whole : (begun.run past).input.broken = none)
      (enough : begun.point.unwritten.length ≤ room past)
  | learned (before after : List Move) (split : moves = before ++ .learns :: after)
      (broken : (begun.run before).input.broken ≠ none)

theorem served_answer (s : Supervisor) (moves : List Move) (h : s.InCall)
    (served : s.Served moves) : (s.run moves).answer ≠ none := by
  cases served with
  | atOnce ha => exact answer_stands s [] moves h ha
  | read past hprior whole enough =>
    obtain ⟨more, rfl⟩ := hprior
    apply answer_stands s past more h
    cases h with
    | ended at' answer => rwa [(idle_run s past at').2]
    | writing rest at' some _ =>
      rw [at'] at enough
      exact takes_answer s past rest at' some whole enough
  | learned before after hsplit broken =>
    have hmoves : moves = (before ++ [.learns]) ++ after := by simp [hsplit]
    rw [hmoves]
    apply answer_stands s _ after h
    rw [run_append]
    have hthen := inCall_run s before h
    generalize s.run before = u at hthen broken
    cases learns_move u with
    | still _ hp ha _ _ learns =>
      cases hthen with
      | writing rest at' => exact absurd (learns rest rfl at') broken
      | ended _ answer => exact ha ▸ answer
    | learns _ _ _ _ _ ha => exact ha

/-- A move that leaves bytes to write is no obstacle: what is served after it is served from it
on. -/
theorem Served.cons {s : Supervisor} {m : Move} {moves : List Move}
    (served : (s.step m).Served moves) (ha : (s.step m).answer = none)
    (unwritten : s.point.unwritten.length ≤
      (s.step m).point.unwritten.length + room [m]) : s.Served (m :: moves) := by
  cases served with
  | atOnce answered => exact absurd ha answered
  | read past hprior whole enough =>
    refine .read (m :: past) (List.cons_prefix_cons.mpr ⟨rfl, hprior⟩) whole ?_
    have hroom : room (m :: past) = room [m] + room past := by cases m <;> simp [room]
    omega
  | learned before after hsplit broken =>
    exact .learned (m :: before) after (by simp [hsplit]) broken

/-- A call that has to do with the input ends exactly when the process does its part. -/
theorem served_iff (s : Supervisor) (moves : List Move) (h : s.InCall) :
    s.Served moves ↔ (s.run moves).answer ≠ none := by
  constructor
  · exact served_answer s moves h
  intro ha
  induction moves generalizing s with
  | nil => exact .atOnce ha
  | cons m moves ih =>
    cases h with
    | ended _ answer => exact .atOnce answer
    | writing rest at' some answer =>
      have hin : s.InCall := .writing rest at' some answer
      have hserved := ih (s.step m) (inCall_step s m hin) ha
      cases input_move s m hin.atInput with
      | still _ hp ha' | breaks _ _ hp ha' =>
        exact hserved.cons (ha'.trans answer) (by rw [hp]; exact Nat.le_add_right _ _)
      | takesSome n rest' hp' _ _ hp ha' =>
        obtain rfl : rest = rest' := Point.writing.inj (at'.symm.trans hp')
        apply hserved.cons (ha'.trans answer)
        rw [hp, at']
        simp only [Point.unwritten, List.length_drop, room]
        omega
      | takesLast n rest' hp' whole all hp ha' hi =>
        obtain rfl : rest = rest' := Point.writing.inj (at'.symm.trans hp')
        refine .read [.takes n] (by simp) ?_ ?_
        · have hbroken : (s.step (.takes n)).input.broken = none := by rw [hi]; exact whole
          exact hbroken
        · simpa [at', Point.unwritten, room] using all
      | learns e _ _ broken => exact .learned [] moves rfl (by simp [run, broken])

/-! ## What a call begins with -/

/-- The calls that have to do with the input. -/
def Call.isInput : Call → Bool
  | .write _ | .close => true
  | _ => false

def Call.bytes : Call → List UInt8
  | .write bytes => bytes
  | _ => []

/-- What a call comes to when the input is closed. -/
def Call.whenClosed : Call → Answer
  | .close => .closed
  | _ => .failed (.io .inputClosed)

theorem begin_close (s : Supervisor) (hp : s.point = .idle) :
    s.begin .close = { s with input := { s.input with isOpen := false } }.reply .closed := by
  simp [begin, hp, reply]

theorem begin_closed (s : Supervisor) (c : Call) (hp : s.point = .idle)
    (closed : s.input.isOpen = false) (hc : c.isInput = true) :
    s.begin c = s.reply c.whenClosed := by
  cases c with
  | write bytes => simp [begin, hp, closed, fail, reply, Call.whenClosed]
  | close =>
    have hinput : { s.input with isOpen := false } = s.input := by rw [← closed]
    rw [begin_close s hp, hinput]
    rfl
  | flush | poll | wait => simp [Call.isInput] at hc

theorem begin_write (s : Supervisor) (bytes : List UInt8) (hp : s.point = .idle)
    (isOpen : s.input.isOpen = true) (some : bytes ≠ []) :
    s.begin (.write bytes) = { s with point := .writing bytes, answer := none } := by
  simp [begin, hp, isOpen, some, goTo]

theorem begin_write_nothing (s : Supervisor) (hp : s.point = .idle)
    (isOpen : s.input.isOpen = true) : s.begin (.write []) = s.reply .wrote := by
  simp [begin, hp, isOpen, reply]

theorem fed_reply (s : Supervisor) (a : Answer) (offered : List UInt8) (h : s.Fed offered)
    (hp : s.point = .idle) : (s.reply a).Fed offered where
  atInput := .inl rfl
  whole := by
    have hw := h.whole
    rwa [hp] at hw
  part := h.part

theorem inCall_reply (s : Supervisor) (a : Answer) : (s.reply a).InCall :=
  .ended rfl (by simp [reply])

/-- A call to do with the input begins with nothing changed but what the owner is about, and the
bytes of a write to an open input are offered. -/
theorem fed_begin (s : Supervisor) (c : Call) (offered : List UInt8) (h : s.Fed offered)
    (hp : s.point = .idle) (hc : c.isInput = true) :
    (s.begin c).Fed (offered ++ if s.input.isOpen then c.bytes else []) ∧ (s.begin c).InCall ∧
      (s.begin c).input = { s.input with isOpen := s.input.isOpen && c ≠ .close } := by
  cases isOpen : s.input.isOpen with
  | false =>
    have hinput : { s.input with isOpen := false } = s.input := by rw [← isOpen]
    rw [begin_closed s c hp isOpen hc]
    refine ⟨?_, inCall_reply s _, by simp [reply, hinput]⟩
    simpa using fed_reply s c.whenClosed offered h hp
  | true =>
    have hinput : { s.input with isOpen := true } = s.input := by rw [← isOpen]
    cases c with
    | close =>
      let t : Supervisor := { s with input := { s.input with isOpen := false } }
      have ht : t.Fed offered := ⟨h.atInput, h.whole, h.part⟩
      rw [begin_close s hp]
      refine ⟨?_, inCall_reply t _, by simp [reply]⟩
      simpa [Call.bytes] using fed_reply t .closed offered ht hp
    | write bytes =>
      by_cases hb : bytes = []
      · subst hb
        rw [begin_write_nothing s hp isOpen]
        refine ⟨?_, inCall_reply s _, by simp [reply, hinput]⟩
        simpa [Call.bytes] using fed_reply s .wrote offered h hp
      · rw [begin_write s bytes hp isOpen hb]
        refine ⟨⟨.inr ⟨bytes, rfl⟩, fun hw => ?_, ?_⟩, .writing bytes rfl hb rfl, ?_⟩
        · have hall := h.whole hw
          rw [hp] at hall
          simpa [Point.unwritten, Call.bytes] using hall
        · exact h.part.trans (List.prefix_append _ _)
        · simp [hinput]
    | flush | poll | wait => simp [Call.isInput] at hc

/-- A write to an open input that has come to its end is no failure, whether the bytes were read or
not. -/
theorem write_answered (s : Supervisor) (bytes : List UInt8) (moves : List Move)
    (hp : s.point = .idle) (isOpen : s.input.isOpen = true)
    (answered : ((s.begin (.write bytes)).run moves).answer ≠ none)
    (read : ∀ e, ((s.begin (.write bytes)).run moves).input.broken = some e → e = .brokenPipe) :
    ((s.begin (.write bytes)).run moves).answer = some .wrote := by
  by_cases hb : bytes = []
  · subst hb
    have hbegun := begin_write_nothing s hp isOpen
    rw [(idle_run _ moves (by rw [hbegun]; rfl)).2, hbegun]
    rfl
  · have hfeeds : (s.begin (.write bytes)).Feeds (s.input.taken ++ bytes) := by
      rw [begin_write s bytes hp isOpen hb]
      exact .writing bytes rfl hb rfl rfl
    cases feeds_run _ _ moves hfeeds with
    | writing _ _ _ answer _ => exact absurd answer answered
    | written _ answer | unread _ answer => exact answer
    | failed e _ _ broken hread => exact absurd (read e broken) hread

/-! ## What the calls leave alone -/

/-- All that has nothing to do with the input and the calls. -/
def outputs (s : Supervisor) : Supervisor := { s with input := {}, point := .idle, answer := none }

/-- What the calls leave alone comes on as it would without them. -/
theorem outputs_step (s : Supervisor) (m : Move) (h : s.AtInput) :
    (s.step m).outputs = (s.outputs.step m).outputs := by
  obtain ⟨hadvance, hhears, hexit, htires, hreaps⟩ := owner_still s h
  obtain ⟨hadvance', hhears', hexit', htires', hreaps'⟩ := owner_still s.outputs (.inl rfl)
  cases m with
  | writes k | closes k | reads k | ends k => cases k <;> rfl
  | notifies k =>
    have hsame : s.outputs.channel k = s.channel k := by cases k <;> rfl
    rw [step, step, notify, notify, hsame]
    dsimp only
    split
    · cases k <;> rfl
    · rfl
  | exits | loses =>
    have hsame : s.outputs.child = s.child := rfl
    rw [step, step, settleChild, settleChild, hsame]
    split <;> rfl
  | breaksInput e =>
    rw [step, step, breakInput, breakInput]
    split <;> rfl
  | takes n =>
    rw [step, step, take, take]
    split
    · dsimp only
      split <;> rfl
    · rfl
  | learns =>
    rw [step, step, learn, learn]
    split <;> rfl
  | advance => rw [step, step, hadvance, hadvance']; rfl
  | hears => rw [step, step, hhears, hhears']; rfl
  | learnsExit => rw [step, step, hexit, hexit']; rfl
  | tires => rw [step, step, htires, htires']; rfl
  | reaps k => rw [step, step, hreaps, hreaps']; rfl

/-- With the same outputs, whatever is written meanwhile, the same moves lead to the same. -/
theorem outputs_run (s t : Supervisor) (moves : List Move) (h : s.AtInput) (ht : t.AtInput)
    (same : s.outputs = t.outputs) :
    (s.run moves).AtInput ∧ (t.run moves).AtInput ∧
      (s.run moves).outputs = (t.run moves).outputs := by
  induction moves generalizing s t with
  | nil => exact ⟨h, ht, same⟩
  | cons m moves ih =>
    refine ih (s.step m) (t.step m) (input_step s m h).1 (input_step t m ht).1 ?_
    rw [outputs_step s m h, outputs_step t m ht, same]

theorem outputs_begin (s : Supervisor) (c : Call) (hc : c.isInput = true) :
    (s.begin c).outputs = s.outputs := by
  rw [begin]
  split
  · rfl
  · cases c with
    | write bytes =>
      dsimp only
      split
      · rfl
      · split <;> rfl
    | close => rfl
    | flush | poll | wait => simp [Call.isInput] at hc

/-! ## Calls one after the other -/

/-- The process does its part in each of some calls that are made one after the other. -/
def EachServed (s : Supervisor) : List (Call × List Move) → Prop
  | [] => True
  | (c, moves) :: talk => (s.begin c).Served moves ∧ ((s.begin c).run moves).EachServed talk

/-- The calls before the input is closed. -/
def early (calls : List Call) : List Call := calls.takeWhile (· ≠ .close)

/-- The calls from the first one on that closes the input. -/
def late (calls : List Call) : List Call := calls.dropWhile (· ≠ .close)

/-- The bytes that some calls are to bring to the process. -/
def offered (calls : List Call) : List UInt8 := (early calls).flatMap Call.bytes

theorem idle_taken (s : Supervisor) (moves : List Move) (hp : s.point = .idle) :
    (s.run moves).input.taken = s.input.taken := by
  induction moves generalizing s with
  | nil => rfl
  | cons m moves ih =>
    refine (ih (s.step m) (idle_step s m hp).1).trans ?_
    cases input_move s m (.inl hp) with
    | still _ _ _ hi => rw [hi]
    | takesSome _ _ at' | takesLast _ _ at' => simp [hp] at at'
    | learns _ _ _ _ _ _ hi => rw [hi]
    | breaks _ _ _ _ hi => rw [hi]

/-- What a call to do with the input comes to, when it begins with some bytes offered. -/
structure Called (s : Supervisor) (c : Call) (moves : List Move) (bytes : List UInt8)
    (u : Supervisor) : Prop where
  fed : u.Fed (bytes ++ if s.input.isOpen then c.bytes else [])
  isOpen : u.input.isOpen = (s.input.isOpen && c ≠ .close)
  broken : ∀ e, s.input.broken = some e → u.input.broken = some e
  served : u.answer ≠ none ↔ (s.begin c).Served moves
  idle : u.answer ≠ none → u.point = .idle
  outputs : u.outputs = (s.run moves).outputs

theorem called (s : Supervisor) (c : Call) (moves : List Move) (bytes : List UInt8)
    (h : s.Fed bytes) (hp : s.point = .idle) (hc : c.isInput = true) :
    s.Called c moves bytes ((s.begin c).run moves) := by
  obtain ⟨hbegun, hin, hinput⟩ := fed_begin s c bytes h hp hc
  obtain ⟨hfed, hopen, hbroken⟩ := fed_run _ moves _ hbegun
  exact {
    fed := hfed
    isOpen := by rw [hopen, hinput]
    broken := fun e he => hbroken e (by rw [hinput]; exact he)
    served := (served_iff _ moves hin).symm
    idle := fun ha => by
      cases inCall_run _ moves hin with
      | ended hidle => exact hidle
      | writing _ _ _ answer => exact absurd answer ha
    outputs := (outputs_run _ s moves hin.atInput h.atInput (outputs_begin s c hc)).2.2 }

theorem eachServed_iff (s : Supervisor) (talk : List (Call × List Move)) (hp : s.point = .idle)
    (calls : ∀ p ∈ talk, p.1.isInput = true) :
    s.EachServed talk ↔ ∀ r ∈ (s.converse talk).1, r.2 ≠ none := by
  induction talk generalizing s with
  | nil => simp [EachServed, converse]
  | cons p talk ih =>
    obtain ⟨c, moves⟩ := p
    obtain ⟨bytes, hfed⟩ := fed_of_atInput s (.inl hp)
    have hcalled := called s c moves bytes hfed hp (calls (c, moves) (by simp))
    have hrest (ha : ((s.begin c).run moves).answer ≠ none) :=
      ih _ (hcalled.idle ha) fun q hq => calls q (by simp [hq])
    constructor
    · rintro ⟨hnow, hlater⟩ r hr
      have ha := hcalled.served.mpr hnow
      obtain rfl | hr : r = (c, _) ∨ r ∈ (((s.begin c).run moves).converse talk).1 := by
        simpa [converse] using hr
      · exact ha
      · exact (hrest ha).mp hlater r hr
    · intro hall
      have ha : ((s.begin c).run moves).answer ≠ none := hall (c, _) (by simp [converse])
      exact ⟨hcalled.served.mp ha, (hrest ha).mpr fun r hr => hall r (by simp [converse, hr])⟩

/-- What calls to do with the input come to together, when they begin with some bytes offered. -/
structure Conversed (s : Supervisor) (talk : List (Call × List Move)) (bytes : List UInt8)
    (u : Supervisor) : Prop where
  idle : u.point = .idle
  fed : u.Fed (bytes ++ if s.input.isOpen then offered (talk.map Prod.fst) else [])
  isOpen : u.input.isOpen = (s.input.isOpen && (late (talk.map Prod.fst)).isEmpty)
  broken : ∀ e, s.input.broken = some e → u.input.broken = some e
  outputs : u.outputs = (s.run (talk.flatMap Prod.snd)).outputs

theorem offered_cons (c : Call) (calls : List Call) :
    offered (c :: calls) = if c = .close then [] else c.bytes ++ offered calls := by
  by_cases hc : c = .close <;> simp [offered, early, hc]

theorem late_cons (c : Call) (calls : List Call) :
    late (c :: calls) = if c = .close then c :: calls else late calls := by
  by_cases hc : c = .close <;> simp [late, hc]

theorem conversed (s : Supervisor) (talk : List (Call × List Move)) (bytes : List UInt8)
    (h : s.Fed bytes) (hp : s.point = .idle) (calls : ∀ p ∈ talk, p.1.isInput = true)
    (served : s.EachServed talk) : s.Conversed talk bytes (s.converse talk).2 := by
  induction talk generalizing s bytes with
  | nil =>
    exact { idle := hp, fed := by simpa [offered, early, converse] using h,
            isOpen := by simp [late, converse], broken := fun _ => id, outputs := rfl }
  | cons p talk ih =>
    obtain ⟨c, moves⟩ := p
    have hcalled := called s c moves bytes h hp (calls (c, moves) (by simp))
    have hidle := hcalled.idle (hcalled.served.mpr served.1)
    have hrest := ih _ _ hcalled.fed hidle (fun q hq => calls q (by simp [hq])) served.2
    refine { idle := hrest.idle, fed := ?_, isOpen := ?_, broken := ?_, outputs := ?_ }
    · have hfed := hrest.fed
      rw [hcalled.isOpen, List.append_assoc] at hfed
      rw [List.map_cons, offered_cons]
      by_cases hc : c = .close <;> cases hopen : s.input.isOpen <;>
        simpa [hc, hopen, Call.bytes, converse] using hfed
    · refine hrest.isOpen.trans ?_
      rw [hcalled.isOpen, List.map_cons, late_cons]
      by_cases hc : c = .close <;> simp [hc]
    · exact fun e he => hrest.broken e (hcalled.broken e he)
    · refine hrest.outputs.trans ?_
      rw [List.flatMap_cons, run_append]
      exact (outputs_run _ _ _ (.inl hidle) (.inl (idle_run s moves hp).1) hcalled.outputs).2.2

/-- The answer of a call that the process does its part in. -/
theorem called_answer (s : Supervisor) (c : Call) (moves : List Move) (hp : s.point = .idle)
    (hc : c.isInput = true) (served : (s.begin c).Served moves)
    (read : ∀ e, ((s.begin c).run moves).input.broken = some e → e = .brokenPipe) :
    ((s.begin c).run moves).answer =
      some (if s.input.isOpen ∧ c ≠ .close then .wrote else c.whenClosed) := by
  have hatOnce (t : Supervisor) (a : Answer) (ht : s.begin c = t.reply a) :
      ((s.begin c).run moves).answer = some a := by
    rw [ht]
    exact (idle_run (t.reply a) moves rfl).2
  cases isOpen : s.input.isOpen with
  | false => simpa using hatOnce s _ (begin_closed s c hp isOpen hc)
  | true =>
    cases c with
    | close => simpa [Call.whenClosed] using hatOnce _ _ (begin_close s hp)
    | write bytes =>
      obtain ⟨offered, hfed⟩ := fed_of_atInput s (.inl hp)
      have ha := (called s (.write bytes) moves offered hfed hp hc).served.mpr served
      simpa using write_answered s bytes moves hp isOpen ha read
    | flush | poll | wait => simp [Call.isInput] at hc

theorem converse_replies (s : Supervisor) (talk : List (Call × List Move)) (hp : s.point = .idle)
    (calls : ∀ p ∈ talk, p.1.isInput = true) (served : s.EachServed talk)
    (read : ∀ e, (s.converse talk).2.input.broken = some e → e = .brokenPipe) :
    (s.converse talk).1 =
      if s.input.isOpen then
        (early (talk.map Prod.fst)).map (fun c => (c, some .wrote)) ++
          (late (talk.map Prod.fst)).map fun c => (c, some c.whenClosed)
      else (talk.map Prod.fst).map fun c => (c, some c.whenClosed) := by
  induction talk generalizing s with
  | nil => simp [converse, early, late]
  | cons p talk ih =>
    obtain ⟨c, moves⟩ := p
    obtain ⟨bytes, hfed⟩ := fed_of_atInput s (.inl hp)
    have hc : c.isInput = true := calls (c, moves) (by simp)
    have hcalls : ∀ q ∈ talk, q.1.isInput = true := fun q hq => calls q (by simp [hq])
    have hcalled := called s c moves bytes hfed hp hc
    have hidle := hcalled.idle (hcalled.served.mpr served.1)
    have hrest := conversed _ talk _ hcalled.fed hidle hcalls served.2
    have ha := called_answer s c moves hp hc served.1 fun e he => read e (hrest.broken e he)
    have hreplies := ih _ hidle hcalls served.2 read
    rw [hcalled.isOpen] at hreplies
    rw [converse]
    dsimp only
    rw [ha, hreplies]
    by_cases hclose : c = .close <;> cases s.input.isOpen <;>
      simp [early, late, hclose, Call.whenClosed]

theorem converse_append (s : Supervisor) (talk more : List (Call × List Move)) :
    (s.converse (talk ++ more)).2 = ((s.converse talk).2.converse more).2 := by
  induction talk generalizing s with
  | nil => rfl
  | cons p talk ih => exact ih _

theorem eachServed_append (s : Supervisor) (talk more : List (Call × List Move)) :
    s.EachServed (talk ++ more) ↔ s.EachServed talk ∧ (s.converse talk).2.EachServed more := by
  induction talk generalizing s with
  | nil => simp [EachServed, converse]
  | cons p talk ih =>
    rw [List.cons_append, EachServed, EachServed, ih, and_assoc]
    rfl

theorem late_eq_nil (calls : List Call) : late calls = [] ↔ .close ∉ calls := by
  induction calls with
  | nil => simp [late]
  | cons c calls ih =>
    rw [late_cons]
    by_cases hc : c = .close
    · simp [hc]
    · rw [if_neg hc, ih, List.mem_cons, not_or]
      exact ⟨fun h => ⟨Ne.symm hc, h⟩, And.right⟩

theorem offered_snoc (calls : List Call) (c : Call) :
    offered (calls ++ [c]) =
      offered calls ++ if (late calls).isEmpty then c.bytes else [] := by
  induction calls with
  | nil => by_cases hc : c = .close <;> simp [offered, early, late, hc, Call.bytes]
  | cons d calls ih =>
    rw [List.cons_append, offered_cons, offered_cons, late_cons, ih]
    by_cases hd : d = .close <;> simp [hd]

/-- To a closed input nothing is delivered. -/
theorem converse_closed (s : Supervisor) (talk : List (Call × List Move)) (hp : s.point = .idle)
    (closed : s.input.isOpen = false) (calls : ∀ p ∈ talk, p.1.isInput = true) :
    (s.converse talk).2.input.taken = s.input.taken := by
  induction talk generalizing s with
  | nil => rfl
  | cons p talk ih =>
    obtain ⟨c, moves⟩ := p
    obtain ⟨bytes, hfed⟩ := fed_of_atInput s (.inl hp)
    have hc : c.isInput = true := calls (c, moves) (by simp)
    have hopen := (called s c moves bytes hfed hp hc).isOpen
    rw [begin_closed s c hp closed hc, closed] at hopen
    rw [converse, begin_closed s c hp closed hc]
    refine (ih _ (idle_run _ moves rfl).1 hopen fun q hq => calls q (by simp [hq])).trans ?_
    exact idle_taken (s.reply c.whenClosed) moves rfl

/-- Of some bytes the process was given the front part, and all else is as it would be after the
moves alone. -/
structure Gives (s : Supervisor) (moves : List Move) (bytes : List UInt8) (u : Supervisor) :
    Prop where
  part : u.input.taken <+: s.input.taken ++ bytes
  channels : ∀ k, u.channel k = (s.run moves).channel k
  recorded : u.recorded = s.recorded

theorem gives_of_outputs (s u : Supervisor) (moves : List Move) (bytes : List UInt8)
    (hp : s.point = .idle) (part : u.input.taken <+: s.input.taken ++ bytes)
    (h : u.outputs = (s.run moves).outputs) : s.Gives moves bytes u where
  part := part
  channels := fun k => by
    have hsame : u.outputs.channel k = (s.run moves).outputs.channel k := by rw [h]
    cases k <;> exact hsame
  recorded := (congrArg Supervisor.recorded h).trans (input_run s moves (.inl hp))

/-- What calls come to that write to an input and close it, one after the other. -/
structure Delivers (s : Supervisor) (talk : List (Call × List Move)) (u : Supervisor) : Prop where
  /-- all that is written before the first close succeeds, and nothing after it -/
  replies : (s.converse talk).1 =
    (early (talk.map Prod.fst)).map (fun c => (c, some .wrote)) ++
      (late (talk.map Prod.fst)).map fun c => (c, some c.whenClosed)
  /-- a process that reads to the end is given all bytes -/
  whole : u.input.broken = none → u.input.taken = s.input.taken ++ offered (talk.map Prod.fst)
  gives : s.Gives (talk.flatMap Prod.snd) (offered (talk.map Prod.fst)) u
  /-- in any further call the process is given nothing else, even if the call does not end -/
  meanwhile : ∀ (c : Call) (moves : List Move), c.isInput = true →
    s.Gives (talk.flatMap Prod.snd ++ moves) (offered (talk.map Prod.fst ++ [c]))
      ((u.begin c).run moves)
  /-- a close that comes again changes nothing, and a write after it delivers nothing -/
  closed : ∀ before moves after, talk = before ++ (.close, moves) :: after →
    u.input.taken = (s.converse before).2.input.taken ∧
      ∀ c : Call, c.isInput = true → u.begin c = u.reply c.whenClosed

/-- After a close. -/
theorem delivers_closed (s : Supervisor) (before after : List (Call × List Move))
    (moves : List Move) (hp : s.point = .idle)
    (calls : ∀ p ∈ before ++ (.close, moves) :: after, p.1.isInput = true)
    (served : s.EachServed (before ++ (.close, moves) :: after)) :
    (s.converse (before ++ (.close, moves) :: after)).2.input.taken =
      (s.converse before).2.input.taken := by
  obtain ⟨bytes, hfed⟩ := fed_of_atInput s (.inl hp)
  have hbefore := conversed s before bytes hfed hp (fun q hq => calls q (by simp [hq]))
    ((eachServed_append s before _).mp served).1
  rw [converse_append, converse]
  generalize (s.converse before).2 = v at hbefore
  let t : Supervisor := { v with input := { v.input with isOpen := false } }
  have hclosed : v.begin .close = t.reply .closed := begin_close v hbefore.idle
  have hopen := (called v .close moves _ hbefore.fed hbefore.idle rfl).isOpen
  refine (converse_closed _ after ?_ (by simpa using hopen) fun q hq =>
    calls q (by simp [hq])).trans ?_
  · rw [hclosed]
    exact (idle_run (t.reply .closed) moves rfl).1
  · rw [hclosed]
    exact idle_taken (t.reply .closed) moves rfl

/-- Calls to write to an open input and to close it are made one after the other, with the others'
moves in between, and no other error than that nobody reads the input. The calls all come to their
ends exactly when the process does its part in each, and then they come to what they should. -/
theorem input_delivers (s : Supervisor) (talk : List (Call × List Move)) (idle : s.point = .idle)
    (isOpen : s.input.isOpen = true) (calls : ∀ p ∈ talk, p.1.isInput = true)
    (read : ∀ e, (s.converse talk).2.input.broken = some e → e = .brokenPipe) :
    (s.EachServed talk ↔ ∀ r ∈ (s.converse talk).1, r.2 ≠ none) ∧
      (s.EachServed talk → s.Delivers talk (s.converse talk).2) := by
  refine ⟨eachServed_iff s talk idle calls, fun served => ?_⟩
  have hfed : s.Fed s.input.taken :=
    ⟨.inl idle, fun _ => by rw [idle, Point.unwritten_idle, List.append_nil], List.prefix_refl _⟩
  have hall := conversed s talk _ hfed idle calls served
  have hreplies := converse_replies s talk idle calls served read
  have hoffered := hall.fed
  have hopen := hall.isOpen
  rw [isOpen, if_pos rfl] at hoffered hreplies
  rw [isOpen, Bool.true_and] at hopen
  constructor
  case replies => exact hreplies
  case whole =>
    intro hwhole
    have htaken := hoffered.whole hwhole
    rwa [hall.idle, Point.unwritten_idle, List.append_nil] at htaken
  case gives => exact gives_of_outputs s _ _ _ idle hoffered.part hall.outputs
  case meanwhile =>
    intro c moves hc
    have hcalled := called _ c moves _ hoffered hall.idle hc
    apply gives_of_outputs s _ _ _ idle
    · have hpart := hcalled.fed.part
      rwa [hopen, List.append_assoc, ← offered_snoc] at hpart
    · rw [run_append, hcalled.outputs]
      exact (outputs_run _ _ moves (.inl hall.idle) (.inl (idle_run s _ idle).1) hall.outputs).2.2
  case closed =>
    intro before moves after htalk
    constructor
    · rw [htalk] at calls served ⊢
      exact delivers_closed s before after moves idle calls served
    · intro c hc
      apply begin_closed _ c hall.idle _ hc
      rw [hopen, htalk]
      simp [late_eq_nil]

/-- The process reads a write to its end and a byte of another, and then no more; two closes and a
write between them come after that. -/
theorem input_delivers_broken_pipe : ∃ talk : List (Call × List Move),
    talk.map Prod.fst = [.write [0x61, 0x62], .write [], .write [0x63, 0x64], .close, .write [],
      .close] ∧
    (converse {} talk).2.input = ⟨false, some .brokenPipe, [0x61, 0x62, 0x63]⟩ ∧
    Delivers {} talk (converse {} talk).2 := by
  let talk : List (Call × List Move) := [(.write [0x61, 0x62], [.takes 1, .takes 5]),
    (.write [], [.writes .stdout [0x78], .reads .stdout 4]),
    (.write [0x63, 0x64], [.takes 1, .breaksInput .brokenPipe, .learns]), (.close, [.exits 0]),
    (.write [], []), (.close, [])]
  have hdelivers := input_delivers {} talk rfl rfl (by decide) (by decide +kernel)
  exact ⟨talk, rfl, by decide +kernel, hdelivers.2 (hdelivers.1.mpr (by decide +kernel))⟩

end CellRunner.Supervisor
