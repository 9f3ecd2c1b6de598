import CellRunner.Proofs.Supervisor.Reaped
import CellRunner.Proofs.Supervisor.Rest

/-!
# Calls after the end

Whatever calls are made after the end of a process and of its streams, and however they fail, they
agree with each other: the exit code stays what it was, each character that lacks its end is told by
one wait, and all waits after that come to the exit code.
-/

set_option autoImplicit false

namespace CellRunner.Supervisor

/-- Both drains were seen to finish, and what is left of the streams at most lacks the ends of
characters. -/
structure Settled (s : Supervisor) : Prop where
  sound : Sound s
  ended : ∀ k, (s.channel k).Ended

theorem settled_turn (s : Supervisor) (t : Turn) (h : s.Settled) : (s.turn t).Settled :=
  ⟨turn_sound s t h.sound, fun k => (ended_turn s t k h.sound (h.ended k)).1⟩

theorem settled_live (s : Supervisor) (ts : List Turn) (h : s.Settled) : (s.live ts).Settled :=
  ⟨live_sound s ts h.sound, fun k => ended_live s ts k h.sound (h.ended k)⟩

/-- The streams that end within a character, in the order in which a wait checks them. -/
def due (s : Supervisor) : List Stream := [.stdout, .stderr].filter fun k => (s.channel k).isCut

theorem due_congr (s u : Supervisor) (h : ∀ k, (u.channel k).isCut = (s.channel k).isCut) :
    u.due = s.due := by
  simp [due, h]

theorem due_nil (s : Supervisor) (h : ∀ k, (s.channel k).unseen = []) : s.due = [] := by
  simp [due, (Channel.clean_nil (h _)).1]

/-- When the end of the second stream is checked, the first one was found to be complete. -/
theorem whole_at_finish (s : Supervisor) (h : s.Settled) (hp : s.point = .finishErr) :
    (s.channel .stdout).isCut = false := by
  have hb := h.sound.point
  rw [hp] at hb
  have hended := h.ended .stdout
  refine (Channel.clean_nil ?_).1
  rw [hended.unseen_eq, hb.checked rfl hended.reaped, hb.emptied .stdout rfl hended.reaped]
  rfl

/-- A turn leaves the streams that lack an end as they are, or tells of the first one of them. -/
theorem due_turn (s : Supervisor) (t : Turn) (h : s.Settled) :
    ((s.turn t).due = s.due ∧ ∀ k, (s.turn t).FailedOn k → s.FailedOn k) ∨
      ∃ k, s.point = finishPoint k ∧ s.due = k :: (s.turn t).due ∧
        (s.turn t).answer = some (.failed (.decode k ⟨0, none⟩)) := by
  have hcases (k : Stream) := (ended_turn s t k h.sound (h.ended k)).2
  obtain ⟨out, hout, hfout⟩ | ⟨-, hout⟩ := hcases .stdout
  · obtain ⟨err, herr, hferr⟩ | ⟨-, herr⟩ := hcases .stderr
    · refine .inl ⟨due_congr _ _ ?_, ?_⟩
      · exact (forall_stream _).mpr ⟨Channel.isCut_of_taken out hout, Channel.isCut_of_taken err herr⟩
      · exact (forall_stream _).mpr ⟨hfout, hferr⟩
    · have hwhole := whole_at_finish s h herr.at'
      refine .inr ⟨.stderr, herr.at', ?_, herr.answer⟩
      simp [due, Channel.isCut_of_taken out hout, hwhole, herr.cut, (Channel.clean_nil herr.left).1]
  · obtain ⟨err, herr, -⟩ | ⟨-, herr⟩ := hcases .stderr
    · refine .inr ⟨.stdout, hout.at', ?_, hout.answer⟩
      simp [due, hout.cut, (Channel.clean_nil hout.left).1, Channel.isCut_of_taken err herr, List.filter_cons]
    · have hpoint := hout.at'.symm.trans herr.at'
      simp [finishPoint] at hpoint

theorem settled_exited (s : Supervisor) (h : s.Settled) :
    ∃ code, s.recorded = some code ∧ s.child = .exited code := by
  have hrec := h.sound.released .stdout (by simp [Channel.isReleased, (h.ended .stdout).reaped])
  obtain ⟨code, hcode⟩ := Option.ne_none_iff_exists'.mp hrec
  exact ⟨code, hcode, h.sound.exited code hcode⟩

/-- What a wait has come to so far that began when the streams `due` lacked an end. -/
inductive Asks (due : List Stream) (s : Supervisor) : Prop where
  | waits (h : s.Waits) (left : s.due = due)
  | tells (k : Stream) (first : due = k :: s.due) (point : s.point = .idle)
      (answer : s.answer = some (.failed (.decode k ⟨0, none⟩)))
  | waited (code : ExitCode) (none : due = []) (left : s.due = []) (point : s.point = .idle)
      (answer : s.answer = some (.waited code))

theorem asks_step (due : List Stream) (s : Supervisor) (m : Move) (hs : s.Settled)
    (h : s.Asks due) : (s.step m).Asks due := by
  have hnext : (s.step m).Settled := settled_turn s (.move m) hs
  have hdue := due_turn s (.move m) hs
  rw [turn] at hdue
  cases h with
  | waits hw hleft =>
    obtain ⟨hsame, hfailed⟩ | ⟨k, -, hfirst, ha⟩ := hdue
    · obtain hwaits | ⟨hp, a, ha, hends⟩ := inWait_step s m (.inl hw)
      · exact .waits hwaits (hsame.trans hleft)
      cases hends with
      | waited code =>
        have hempty : (s.step m).due = [] :=
          due_nil _ fun k => nothing_left _ code k hnext.sound ha (hnext.ended k).reaped
        exact .waited code (hleft.symm.trans (hsame.symm.trans hempty)) hempty hp ha
      | undecoded k f =>
        obtain ⟨g, hg⟩ := hfailed k ⟨f, ha⟩
        simp [hw.answer] at hg
      | lost e hlost =>
        obtain ⟨code, -, hexited⟩ := settled_exited _ hnext
        simp [hlost] at hexited
    · refine .tells k (hleft.symm.trans hfirst) ?_ ha
      exact idle_of_failedOn _ k hnext.sound ⟨_, ha⟩
  | tells k hfirst hp ha =>
    obtain ⟨hp', ha', -⟩ := idle_step s m hp
    obtain ⟨hsame, -⟩ | ⟨j, hat, -⟩ := hdue
    · exact .tells k (hsame ▸ hfirst) hp' (ha' ▸ ha)
    · cases j <;> simp [hp, finishPoint] at hat
  | waited code hnone hleft hp ha =>
    obtain ⟨hp', ha', -⟩ := idle_step s m hp
    obtain ⟨hsame, -⟩ | ⟨j, hat, -⟩ := hdue
    · exact .waited code hnone (hsame.trans hleft) hp' (ha' ▸ ha)
    · cases j <;> simp [hp, finishPoint] at hat

theorem asks_run (due : List Stream) (s : Supervisor) (moves : List Move) (hs : s.Settled)
    (h : s.Asks due) : (s.run moves).Asks due := by
  induction moves generalizing s with
  | nil => exact h
  | cons m moves ih => exact ih _ (settled_turn s (.move m) hs) (asks_step due s m hs h)

/-- In a call other than a wait the owner does not come to where it waits. -/
theorem aside_step (s : Supervisor) (m : Move) (h : s.point.isOfWait = false) :
    (s.step m).point.isOfWait = false := by
  have he := turn_effect s (.move m)
  rw [turn] at he
  generalize s.step m = u at he
  cases he with
  | nothing | exits | loses | breaksInput => exact h
  | writes | closes | reads | ends | notifies => simpa using h
  | takesSome | takesLast | learnsBroken | learnsError | looksFailing | learnsLoss | seesLoss
  | finishesFailing => rfl
  | looks k e text hp =>
    obtain rfl : e = .flush := by
      rw [hp] at h
      cases k <;> cases e <;> first | rfl | simp [lookPoint, Point.isOfWait] at h
    cases k <;> rfl
  | finishes k hp => cases k <;> simp [hp, finishPoint, Point.isOfWait] at h
  | hearsListening hp | hearsLingering hp | learnsExit _ hp | reaps _ hp | tires hp
  | seesExit _ hp | seesRunning hp | seesDrained hp | seesUndrained _ hp =>
    simp [hp, Point.isOfWait] at h

theorem aside_begin (s : Supervisor) (c : Call) (hp : s.point = .idle) (hc : c ≠ .wait) :
    (s.begin c).point.isOfWait = false := by
  have he := turn_effect s (.call c)
  rw [turn] at he
  generalize s.begin c = u at he
  cases he with
  | nothing => rw [hp]; rfl
  | begins c p _ hb =>
    obtain ⟨-, rfl⟩ | ⟨rfl, -⟩ | ⟨bytes, -, rfl⟩ := hb
    · rfl
    · contradiction
    · rfl
  | polls | pollsLoss | writesNothing | closesInput => rfl

/-- A call other than a wait tells of no stream that lacks its end. -/
theorem aside_due (s : Supervisor) (moves : List Move) (hs : s.Settled)
    (h : s.point.isOfWait = false) : (s.run moves).due = s.due := by
  induction moves generalizing s with
  | nil => rfl
  | cons m moves ih =>
    obtain ⟨hsame, -⟩ | ⟨k, hat, -⟩ := due_turn s (.move m) hs
    · exact (ih _ (settled_turn s (.move m) hs) (aside_step s m h)).trans hsame
    · cases k <;> simp [hat, finishPoint, Point.isOfWait] at h

/-- An exit code that the owner has seen stays recorded. -/
theorem recorded_turn (s : Supervisor) (t : Turn) (code : ExitCode)
    (h : s.recorded = some code) : (s.turn t).recorded = some code := by
  have he := turn_effect s t
  generalize s.turn t = u at he
  cases he with
  | looks k e text =>
    have hd : ((s.setChannel k (s.channel k).look.2).deliver k text).recorded = some code := by
      rw [deliver_eq]
      simpa using h
    cases k <;> cases e <;> exact hd
  | finishes k =>
    cases k with
    | stdout => simpa [finished, goTo]
    | stderr => simp [finished, conclude, h, reply]
  | learnsExit n | seesExit n => simp [record, h, goTo]
  | polls n _ hn =>
    obtain rfl | ⟨hnone, -⟩ := hn
    · simpa [reply]
    · simp [h] at hnone
  | _ => simpa [goTo, reply, fail] using h

theorem recorded_live (s : Supervisor) (ts : List Turn) (code : ExitCode)
    (h : s.recorded = some code) : (s.live ts).recorded = some code := by
  induction ts generalizing s with
  | nil => exact h
  | cons t ts ih => exact ih _ (recorded_turn s t code h)

/-- What a poll tells is what is recorded. -/
theorem polled_turn (s : Supervisor) (t : Turn) (hs : Sound s)
    (h : ∀ code, s.answer = some (.polled code) → s.recorded = code) (code : Option ExitCode)
    (hc : (s.turn t).answer = some (.polled code)) : (s.turn t).recorded = code := by
  have he := turn_effect s t
  generalize s.turn t = u at he hc
  have hbusy (hp : s.point ≠ .idle) (ha : u.answer = s.answer ∨ ∃ a, u.answer = some a ∧
      ∀ n, a ≠ .polled n) : u.recorded = code := by
    obtain ha | ⟨a, ha, hn⟩ := ha
    · simp [ha, hs.calm hp] at hc
    · exact absurd (Option.some.inj (ha.symm.trans hc)) (hn code)
  cases he with
  | nothing => exact h code hc
  | writes | closes | reads | ends | notifies => simpa using h code (by simpa using hc)
  | exits | loses | breaksInput => exact h code hc
  | polls n => simpa [reply] using hc
  | takesSome _ _ _ hp | hearsListening hp | hearsLingering hp | seesRunning hp | tires hp
  | seesDrained hp | seesUndrained _ hp => exact hbusy (by simp [hp]) (.inl rfl)
  | reaps _ hp => exact hbusy (by simp [hp]) (.inl (by simp [goTo]))
  | learnsExit _ hp | seesExit _ hp =>
    exact hbusy (by simp [hp]) (.inl (by simp [goTo, answer_record]))
  | looks k e text hp =>
    refine hbusy (by cases k <;> simp [hp, lookPoint]) ?_
    obtain ha | ha := answer_looked ((s.setChannel k (s.channel k).look.2).deliver k text) k e
    · exact .inl (by rw [ha, deliver_eq]; simp)
    · exact .inr ⟨_, ha, by simp⟩
  | finishes k hp =>
    refine hbusy (by cases k <;> simp [hp, finishPoint]) ?_
    obtain ha | ⟨n, ha⟩ := answer_finished (s.setChannel k (s.channel k).finish.2) k
    · exact .inl (by rw [ha]; simp)
    · exact .inr ⟨_, ha, by simp⟩
  | writesNothing _ a _ ha => obtain rfl | rfl := ha <;> simp [reply] at hc
  | _ => simp [reply, fail] at hc

theorem live_polled (s : Supervisor) (ts : List Turn) (hs : Sound s)
    (h : ∀ code, s.answer = some (.polled code) → s.recorded = code) :
    ∀ code, (s.live ts).answer = some (.polled code) → (s.live ts).recorded = code := by
  induction ts generalizing s with
  | nil => exact h
  | cons t ts ih => exact ih _ (turn_sound s t hs) (polled_turn s t hs h)

/-- The process has ended with this code, and all calls that tell a code tell this one. -/
structure Knows (s : Supervisor) (code : ExitCode) : Prop where
  recorded : s.recorded = some code
  exited : s.child = .exited code
  polls : s.point = .idle → (s.begin .poll).answer = some (.polled (some code))
  polled : ∀ c, s.answer = some (.polled c) → c = some code
  waited : ∀ n, s.answer = some (.waited n) → n = code

theorem knows_live (ts : List Turn) (code : ExitCode)
    (h : (live {} ts).recorded = some code) : (live {} ts).Knows code := by
  have hs := live_sound {} ts sound_start
  have hpolled := live_polled {} ts sound_start (by simp)
  refine ⟨h, hs.exited code h, fun hp => ?_, fun c hc => ?_, fun n hn => ?_⟩
  · simp [begin, hp, poll, h, reply]
  · exact (hpolled c hc).symm.trans h
  · exact Option.some.inj ((hs.waited n hn).1.symm.trans h)

/-- What was recorded in a state of a life is known in all later ones. -/
theorem knows_after (ts later : List Turn) (code : ExitCode)
    (h : (live {} ts).recorded = some code) : ((live {} ts).live later).Knows code := by
  rw [← live_append]
  refine knows_live (ts ++ later) code ?_
  rw [live_append]
  exact recorded_live _ later code h

/-- The owner listens only for an exit that it has not seen. -/
theorem listens_turn (s : Supervisor) (t : Turn)
    (h : s.point = .listening → s.recorded = none) (hp : (s.turn t).point = .listening) :
    (s.turn t).recorded = none := by
  have he := turn_effect s t
  generalize s.turn t = u at he hp
  cases he with
  | nothing | exits | loses | breaksInput => exact h hp
  | writes | closes | reads | ends | notifies => simpa using h (by simpa using hp)
  | seesRunning _ hr => exact hr
  | looks k e text => cases k <;> cases e <;> simp [looked, afterFlush, goTo, reply] at hp
  | finishes k hat =>
    cases k with
    | stdout => simp [finished, goTo] at hp
    | stderr =>
      simp only [finished, conclude] at hp
      split at hp
      · simp [reply] at hp
      · simp [hat, finishPoint] at hp
  | begins c p _ hb => obtain ⟨-, rfl⟩ | ⟨-, rfl⟩ | ⟨bytes, -, rfl⟩ := hb <;> simp at hp
  | _ => simp [goTo, reply, fail] at hp

theorem live_listens (s : Supervisor) (ts : List Turn)
    (h : s.point = .listening → s.recorded = none) :
    (s.live ts).point = .listening → (s.live ts).recorded = none := by
  induction ts generalizing s with
  | nil => exact h
  | cons t ts ih => exact ih _ (listens_turn s t h)

/-- The rest of a call after the end. -/
theorem settled_rest (s : Supervisor) (moves : List Move) (hs : s.Settled)
    (hl : s.point = .listening → s.recorded = none) :
    (s.run moves).Settled ∧ (s.point.isOfWait = true → (s.run moves).Asks s.due) ∧
      (s.point.isOfWait = false → (s.run moves).due = s.due) := by
  refine ⟨?_, fun hw => ?_, aside_due s moves hs⟩
  · rw [← live_moves]
    exact settled_live _ _ hs
  · have hanswer : s.answer = none := hs.sound.calm fun hp => by simp [hp, Point.isOfWait] at hw
    exact asks_run _ s moves hs (.waits ⟨hw, hanswer, hl⟩ rfl)

/-- Calls that are made one after the other, each with the moves until the next one: what they come
to, and the state after them. -/
def converse (s : Supervisor) :
    List (Call × List Move) → List (Call × Option Answer) × Supervisor
  | [] => ([], s)
  | (c, moves) :: talk =>
    let u := (s.begin c).run moves
    let (replies, v) := u.converse talk
    ((c, u.answer) :: replies, v)

/-- The answers of the waits among some calls. -/
def waitAnswers (replies : List (Call × Option Answer)) : List Answer :=
  replies.filterMap fun (c, a) => if c = .wait then a else none

/-- What `n` waits or more come to after the end: each stream that lacks an end is told once, and
then the exit code is. -/
def forecast (due : List Stream) (code : ExitCode) (n : Nat) : List Answer :=
  due.map (fun k => .failed (.decode k ⟨0, none⟩)) ++ List.replicate n (.waited code)

/-- The answer of a wait comes first in what was foretold when it began. -/
theorem forecast_asks (s : Supervisor) (due : List Stream) (code : ExitCode)
    (told : List Answer) (hs : s.Settled) (h : s.Asks due) (hp : s.point = .idle)
    (hcode : s.recorded = some code) (htold : ∃ n, told <+: forecast s.due code n) :
    ∃ n, s.answer.toList ++ told <+: forecast due code n := by
  obtain ⟨n, htold⟩ := htold
  cases h with
  | waits hw =>
    have hpoint := hw.point
    simp [hp, Point.isOfWait] at hpoint
  | tells k hfirst _ ha =>
    refine ⟨n, ?_⟩
    rw [ha, hfirst]
    exact List.cons_prefix_cons.mpr ⟨rfl, htold⟩
  | waited m hnone hleft _ ha =>
    obtain rfl : m = code := Option.some.inj ((hs.sound.waited m ha).1.symm.trans hcode)
    refine ⟨n + 1, ?_⟩
    rw [hleft] at htold
    rw [ha, hnone]
    exact List.cons_prefix_cons.mpr ⟨rfl, htold⟩

/-- The waits among any calls after the end come to what was foretold. -/
theorem converse_waits (s : Supervisor) (talk : List (Call × List Move)) (code : ExitCode)
    (hs : s.Settled) (hp : s.point = .idle) (hcode : s.recorded = some code)
    (answered : ∀ r ∈ (s.converse talk).1, r.2 ≠ none) :
    (∃ n, waitAnswers (s.converse talk).1 <+: forecast s.due code n) ∧
      (s.converse talk).2.Settled ∧ (s.converse talk).2.point = .idle := by
  induction talk generalizing s with
  | nil => exact ⟨⟨0, List.nil_prefix⟩, hs, hp⟩
  | cons call talk ih =>
    obtain ⟨c, moves⟩ := call
    have ha : ((s.begin c).run moves).answer ≠ none := answered (c, _) (by simp [converse])
    have hbegun : (s.begin c).Settled := settled_turn s (.call c) hs
    have hlistens := listens_turn s (.call c) (by simp [hp])
    obtain ⟨hend, hwait, haside⟩ := settled_rest (s.begin c) moves hbegun hlistens
    have hidle : ((s.begin c).run moves).point = .idle := by
      by_cases h : ((s.begin c).run moves).point = .idle
      · exact h
      · exact absurd (hend.sound.calm h) ha
    have hrec : ((s.begin c).run moves).recorded = some code := by
      rw [← live_moves]
      exact recorded_live _ _ code (recorded_turn s (.call c) code hcode)
    have hdue : (s.begin c).due = s.due := by
      obtain ⟨h, -⟩ | ⟨k, hat, -⟩ := due_turn s (.call c) hs
      · exact h
      · cases k <;> simp [hp, finishPoint] at hat
    obtain ⟨hrest, hlast⟩ := ih _ hend hidle hrec fun r hr => answered r (by simp [converse, hr])
    refine ⟨?_, hlast⟩
    rw [← hdue]
    by_cases hc : c = .wait
    · subst hc
      have hasks := hwait (by rw [begin_wait s hp]; rfl)
      have htold := forecast_asks _ _ code _ hend hasks hidle hrec hrest
      obtain ⟨a, hanswer⟩ := Option.ne_none_iff_exists'.mp ha
      simpa [converse, waitAnswers, hanswer] using htold
    · rw [← haside (aside_begin s c hp hc)]
      simpa [converse, waitAnswers, hc] using hrest

/-- After the end a wait does not wait. -/
theorem settled_prompt (s : Supervisor) (hs : s.Settled) (hw : s.point.isOfWait = true)
    (hl : s.point = .listening → s.recorded = none) : s.Prompt := by
  have hanswer : s.answer = none := hs.sound.calm fun hp => by simp [hp, Point.isOfWait] at hw
  refine prompt_of_free s ⟨hs.sound, .inl ⟨hw, hanswer, hl⟩, fun k => ?_⟩
  simp [Channel.isReleased, (hs.ended k).reaped]

/-- After the end a wait that is yet to begin will not wait either. -/
theorem settled_begin_prompt (s : Supervisor) (hs : s.Settled) (hp : s.point = .idle) :
    (s.begin .wait).Prompt := by
  refine settled_prompt _ (settled_turn s (.call .wait) hs) ?_
    (listens_turn s (.call .wait) (by simp [hp]))
  rw [begin_wait s hp]
  rfl

/-- The rest of a call after the end and the waits among the calls after it come to what was
foretold. -/
theorem settled_talk (s : Supervisor) (moves : List Move) (talk : List (Call × List Move))
    (code : ExitCode) (hs : s.Settled) (hl : s.point = .listening → s.recorded = none)
    (hcode : s.recorded = some code) (hp : (s.run moves).point = .idle)
    (answered : ∀ r ∈ ((s.run moves).converse talk).1, r.2 ≠ none) :
    (∃ n, (if s.point.isOfWait then (s.run moves).answer.toList else []) ++
        waitAnswers ((s.run moves).converse talk).1 <+: forecast s.due code n) ∧
      ((s.run moves).converse talk).2.Settled ∧
      ((s.run moves).converse talk).2.point = .idle := by
  obtain ⟨hu, hwait, haside⟩ := settled_rest s moves hs hl
  have hrec : (s.run moves).recorded = some code := by
    rw [← live_moves]
    exact recorded_live s _ code hcode
  obtain ⟨htold, hlast⟩ := converse_waits (s.run moves) talk code hu hp hrec answered
  refine ⟨?_, hlast⟩
  by_cases hw : s.point.isOfWait = true
  · rw [if_pos hw]
    exact forecast_asks _ _ code _ hu (hwait hw) hp hrec htold
  · rw [if_neg hw, List.nil_append, ← haside (by simpa using hw)]
    exact htold

theorem settled_of_reaped (ts : List Turn)
    (reaped : ∀ k, ((live {} ts).channel k).hold = .reaped)
    (clean : ∀ k, ((live {} ts).channel k).Clean) : (live {} ts).Settled := by
  have hs := live_sound {} ts sound_start
  have hdecoder := live_decoder {} ts sound_start ready_start.decoder
  exact ⟨hs, fun k => ⟨hs.channel k, reaped k, hdecoder k, clean k⟩⟩

/-- When nothing is left, nothing more is handed on. -/
theorem silent_live (s : Supervisor) (ts : List Turn) (hs : s.Settled)
    (h : ∀ k, (s.channel k).unseen = []) : (s.live ts).sink = s.sink := by
  induction ts generalizing s with
  | nil => rfl
  | cons t ts ih =>
    have hleft (k : Stream) : ((s.turn t).channel k).unseen = [] := by
      obtain ⟨-, ⟨text, htaken, -⟩ | ⟨-, htells⟩⟩ := ended_turn s t k hs.sound (hs.ended k)
      · rw [h k] at htaken
        exact (List.append_eq_nil_iff.mp htaken).2
      · exact htells.left
    refine (ih _ (settled_turn s t hs) hleft).trans ?_
    obtain hsink | ⟨k, text, hl, hsink⟩ := sink_turn s t
    · exact hsink
    · have hq : (s.channel k).queue.flatten = [] := by
        have hunseen := h k
        rw [(hs.ended k).unseen_eq] at hunseen
        exact (List.append_eq_nil_iff.mp hunseen).2
      obtain rfl : "" = text := by simpa [Channel.look, hq] using hl
      simpa [deliver] using hsink

/-- In every state of a life. An exit code that was recorded, or that a poll or a wait has told, is
the one that the process ended with and that all later polls and waits tell. A wait tells one only
after the process has ended. When both drains were seen to finish and nothing that is left is ill
formed, then no wait waits, and the wait that is going on and the waits among any later calls tell
of each stream that ends within a character, of the first stream first, once, and after that tell
the exit code. And when a wait has told the exit code then, nothing more is handed on. -/
theorem exit_stands (ts : List Turn) :
    let s := live {} ts
    (∀ code, s.recorded = some code ∨ s.answer = some (.polled (some code)) ∨
        s.answer = some (.waited code) →
      ∀ later, (s.live later).Knows code) ∧
    (∀ code, s.answer = some (.waited code) → s.child = .exited code) ∧
    ((∀ k, (s.channel k).hold = .reaped) → (∀ k, (s.channel k).Clean) →
      ∃ code, s.recorded = some code ∧
        ∀ (moves : List Move) (talk : List (Call × List Move)),
          let u := s.run moves
          u.point = .idle → (∀ r ∈ (u.converse talk).1, r.2 ≠ none) →
          (∃ n, (if s.point.isOfWait then u.answer.toList else []) ++
              waitAnswers (u.converse talk).1 <+: forecast s.due code n) ∧
            (s.point.isOfWait = true → s.Prompt) ∧ ((u.converse talk).2.begin .wait).Prompt) ∧
    ∀ code, s.answer = some (.waited code) → (∀ k, (s.channel k).hold = .reaped) →
      ∀ later, (s.live later).sink = s.sink := by
  intro s
  have hs : Sound s := live_sound {} ts sound_start
  have hpolled : ∀ c, s.answer = some (.polled c) → s.recorded = c :=
    live_polled {} ts sound_start (by simp)
  have hlistens : s.point = .listening → s.recorded = none := live_listens {} ts (by simp)
  refine ⟨fun code hcode later => ?_, fun code ha => ?_, fun hreaped hclean => ?_,
    fun code ha hreaped later => ?_⟩
  · have hrec : s.recorded = some code := by
      obtain h | h | h := hcode
      · exact h
      · exact hpolled _ h
      · exact (hs.waited code h).1
    exact knows_after ts later code hrec
  · exact hs.exited code (hs.waited code ha).1
  · have hsettled : s.Settled := settled_of_reaped ts hreaped hclean
    obtain ⟨code, hcode, -⟩ := settled_exited s hsettled
    refine ⟨code, hcode, ?_⟩
    intro moves talk u hidle hanswered
    obtain ⟨htold, hlast, hend⟩ :=
      settled_talk s moves talk code hsettled hlistens hcode hidle hanswered
    exact ⟨htold, fun hw => settled_prompt s hsettled hw hlistens,
      settled_begin_prompt _ hlast hend⟩
  · have hempty (k : Stream) : (s.channel k).unseen = [] :=
      nothing_left s code k hs ha (hreaped k)
    have hsettled := settled_of_reaped ts hreaped fun k => (Channel.clean_nil (hempty k)).2
    exact silent_live s later hsettled hempty

/-- Both streams end within a character. The wait that sees the second drain finish and the next one
tell of them, in order; the waits after them tell the exit code, with other calls in between. -/
theorem exit_stands_two_tails : ∃ (ts : List Turn) (moves : List Move)
    (talk : List (Call × List Move)),
    let s := live {} ts
    let u := s.run moves
    (∀ k, (s.channel k).hold = .reaped) ∧ s.due = [.stdout, .stderr] ∧
    u.answer.toList ++ waitAnswers (u.converse talk).1 =
      [.failed (.decode .stdout ⟨0, none⟩), .failed (.decode .stderr ⟨0, none⟩), .waited 3,
        .waited 3] ∧
    (∃ n, u.answer.toList ++ waitAnswers (u.converse talk).1 <+: forecast s.due 3 n) ∧
    s.Prompt ∧ ∀ later, (s.live later).Knows 3 := by
  let go : Turn := .move .advance
  let ts : List Turn := [.move (.writes .stdout [0x61, 0xC3]), .move (.writes .stderr [0xE2, 0x82]),
    .move (.exits 3), .move (.closes .stdout), .move (.closes .stderr), .move (.reads .stdout 9),
    .move (.notifies .stdout), .move (.ends .stdout), .move (.notifies .stdout),
    .move (.reads .stderr 9), .move (.notifies .stderr), .move (.ends .stderr),
    .move (.notifies .stderr), .call .wait, go, go, go, go, go, go, .move (.reaps .stderr),
    go, go, go, .move (.reaps .stdout)]
  let ten : List Move := List.replicate 10 .advance
  let moves : List Move := List.replicate 7 .advance
  let talk : List (Call × List Move) := [(.poll, []), (.wait, ten), (.flush, ten), (.wait, ten),
    (.wait, ten)]
  have hreaped : ∀ k, ((live {} ts).channel k).hold = .reaped := by decide +kernel
  have hends : ∀ k, ((live {} ts).channel k).isCut = true := by decide +kernel
  have hclean : ∀ k, ((live {} ts).channel k).Clean := by
    intro k n hn
    have hcut := hends k
    simp [Channel.isCut, hn] at hcut
  have hrec : (live {} ts).recorded = some 3 := by decide +kernel
  have hwait : (live {} ts).point.isOfWait = true := by decide +kernel
  have h := exit_stands ts
  obtain ⟨code, hcode, hafter⟩ := h.2.2.1 hreaped hclean
  obtain rfl : code = 3 := Option.some.inj (hcode.symm.trans hrec)
  have htold := hafter moves talk (by decide +kernel) (by decide +kernel)
  rw [if_pos hwait] at htold
  exact ⟨ts, moves, talk, hreaped, by decide +kernel, by decide +kernel, htold.1,
    htold.2.1 hwait, h.1 3 (.inl hrec)⟩

end CellRunner.Supervisor
