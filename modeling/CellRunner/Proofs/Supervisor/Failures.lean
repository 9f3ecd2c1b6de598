import CellRunner.Proofs.Supervisor.Input
import CellRunner.Proofs.Supervisor.Wait

/-!
# Why a call fails

A wait fails when a stream is found to be no text, or when the system does not tell how the
process ended; a write fails when the input breaks in another way than by a reader who has gone.
These are all causes there are, and with one of them an answered call has failed.
-/

set_option autoImplicit false

namespace CellRunner.Supervisor
open Utf8

namespace Channel

/-- The bytes that have not become text yet: held back, queued and unread. -/
def unseen (c : Channel) : List UInt8 := c.decoder.held ++ c.queue.flatten ++ c.pipe

/-- The bytes that the owner has not taken yet. -/
def pending (c : Channel) : List UInt8 := c.queue.flatten ++ c.pipe

/-- What the owner has taken of the bytes `written` is found to be no text: it is ill formed at a
sequence of some length, or the drain was seen to finish and a character lacks its end. -/
inductive Undecodable (c : Channel) (written : List UInt8) : Option Nat → Prop where
  | invalid (taken : List UInt8) (n : Nat) (bytes : taken ++ c.pending = written)
      (h : (scan taken).ending = .invalid n) : Undecodable c written (some n)
  | incomplete (held : List UInt8) (reaped : c.hold = .reaped) (pending : c.pending = [])
      (h : (scan written).ending = .incomplete held) : Undecodable c written none

end Channel

/-- A change only takes bytes from the front of a channel and adds bytes at its end. -/
theorem pending_of_change (c d : Channel) (added : List UInt8) (r : Except Fault String)
    (h : Change c d added r) : ∃ taken, c.pending ++ added = taken ++ d.pending := by
  have hsame (d : Channel) (hq : d.queue = c.queue) (hp : d.pipe = c.pipe) :
      ∃ taken, c.pending ++ [] = taken ++ d.pending :=
    ⟨[], by simp [Channel.pending, hq, hp]⟩
  cases h with
  | still => exact hsame c rfl rfl
  | write bytes =>
    refine ⟨[], ?_⟩
    by_cases hc : c.closed <;> simp [Channel.write, Channel.pending, hc]
  | close => exact hsame _ rfl rfl
  | read n =>
    unfold Channel.read
    dsimp only
    split
    · have hp := Channel.take_append_drop_take c.pipe (min n chunkSize)
      generalize c.pipe.take (min n chunkSize) = chunk at hp
      refine ⟨[], ?_⟩
      simp [Channel.pending, hp]
    · exact hsame c rfl rfl
  | finishReading =>
    unfold Channel.finishReading
    split <;> exact hsame _ rfl rfl
  | giveNotice =>
    unfold Channel.giveNotice
    split <;> exact hsame _ rfl rfl
  | reap => exact hsame _ rfl rfl
  | abandon =>
    unfold Channel.abandon
    split <;> exact hsame _ rfl rfl
  | look r _ =>
    rw [look_snd]
    exact ⟨c.queue.flatten, by simp [Channel.pending]⟩
  | finish | finishFailing =>
    rw [finish_snd]
    exact hsame _ rfl rfl

/-- A decoder holds nothing, or the beginning of a character, whatever happens. -/
theorem decoder_of_change (c d : Channel) (added : List UInt8) (r : Except Fault String)
    (hc : c.decoder.Sound) (h : Change c d added r) : d.decoder.Sound := by
  have hfinish (hc : c.decoder.Sound) : c.finish.2.decoder.Sound := by
    unfold Channel.finish
    split
    · exact hc
    · rw [Decoder.finish_sound _ hc]
      exact Decoder.sound_empty
  cases h with
  | still | close | reap => exact hc
  | write bytes =>
    unfold Channel.write
    split <;> exact hc
  | read n =>
    unfold Channel.read
    dsimp only
    split <;> exact hc
  | finishReading =>
    unfold Channel.finishReading
    split <;> exact hc
  | giveNotice =>
    unfold Channel.giveNotice
    split <;> exact hc
  | abandon =>
    unfold Channel.abandon
    split <;> exact hc
  | look r _ =>
    by_cases hq : c.queue.flatten = []
    · simpa [Channel.look, hq] using hc
    · cases hd : c.decoder.decode c.queue.flatten with
      | mk r d =>
      have hlook : c.look.2.decoder = d := by simp [Channel.look, hq, hd]
      rw [hlook]
      cases r with
      | ok text => exact (c.decoder.decode_ok d _ _ hd).2
      | error f =>
        rw [(c.decoder.decode_error d _ _ hd).1]
        exact Decoder.sound_empty
  | finish | finishFailing => exact hfinish hc

theorem live_decoder (s : Supervisor) (ts : List Turn) (hs : Sound s)
    (h : ∀ k, (s.channel k).decoder.Sound) (k : Stream) :
    ((s.live ts).channel k).decoder.Sound := by
  induction ts generalizing s with
  | nil => exact h k
  | cons t ts ih =>
    refine ih _ (turn_sound s t hs) fun j => ?_
    obtain ⟨r, hc, -⟩ := turn_change s t j hs
    exact decoder_of_change _ _ _ r (h j) hc

/-- A stream that was found to be no text does not become one. -/
theorem undecodable_of_change (c d : Channel) (written added : List UInt8) (n : Option Nat)
    (r : Except Fault String) (hs : c.Sound) (h : c.Undecodable written n)
    (hd : Change c d added r) : d.Undecodable (written ++ added) n := by
  obtain ⟨taken', htaken⟩ := pending_of_change c d added r hd
  cases h with
  | invalid taken n bytes h =>
    refine .invalid (taken ++ taken') n ?_ (by rw [scan_append_invalid _ _ n h, h])
    rw [← bytes, List.append_assoc, List.append_assoc, htaken]
  | incomplete held reaped pending h =>
    obtain ⟨hclosed, hreaped⟩ := change_keeps c d added r hd
    obtain ⟨-, rfl⟩ := hclosed (hs.ended (.inr (hs.reaped reaped))).2
    rw [pending, List.append_nil] at htaken
    have hd' : d.hold = .reaped := by rw [hreaped (by simp [reaped]), reaped]
    refine .incomplete held hd' (List.append_eq_nil_iff.mp htaken.symm).2 ?_
    rwa [List.append_nil]

/-- What has become text, and the beginning of a character, is not found to be no text. -/
theorem decodable_of_accounts (c : Channel) (given : String) (written : List UInt8)
    (h : c.Accounts given written) (hr : c.hold = .reaped → c.decoder.held = [])
    (n : Option Nat) : ¬ c.Undecodable written n := by
  have hbytes : encode given ++ c.decoder.held ++ c.pending = written := by
    simpa [Channel.pending] using h.bytes
  intro hn
  cases hn with
  | invalid taken n bytes hn =>
    obtain rfl := List.append_cancel_right (bytes.trans hbytes.symm)
    rw [ending_encode_append] at hn
    obtain hheld | hheld := h.decoder
    · simp [hheld, scan_nil] at hn
    · simp [scan_unfinished _ hheld] at hn
  | incomplete held reaped pending hn =>
    rw [← hbytes, pending, hr reaped, List.append_nil, List.append_nil, scan_encode] at hn
    simp at hn

theorem decodable_of_text (c : Channel) (written : List UInt8) (h : IsText written)
    (n : Option Nat) : ¬ c.Undecodable written n := by
  obtain ⟨text, rfl⟩ := h
  intro hn
  cases hn with
  | invalid taken n bytes hn =>
    have hscan := scan_append_invalid taken c.pending n hn
    simp [bytes, scan_encode, ← hscan] at hn
  | incomplete held reaped pending hn => simp [scan_encode] at hn

/-- What a failed look has taken is ill formed. -/
theorem undecodable_look (c : Channel) (given : String) (written : List UInt8) (f : Fault)
    (h : c.Accounts given written) (hl : c.look.1 = .error f) :
    c.look.2.Undecodable written f.length := by
  obtain ⟨n, hn, hlength⟩ := c.look_error f hl
  rw [hlength]
  refine .invalid (encode given ++ (c.decoder.held ++ c.queue.flatten)) n ?_
    (by rw [ending_encode_append, hn])
  rw [look_snd, ← h.bytes]
  simp [Channel.pending]

/-- A failed end check has met the beginning of a character. -/
theorem undecodable_finish (c : Channel) (given : String) (written : List UInt8) (f : Fault)
    (h : c.Accounts given written) (hf : c.finish.1 = .error f) (hr : c.hold = .reaped)
    (hp : c.pending = []) : c.finish.2.Undecodable written f.length := by
  have hfinish : c.decoder.finish.1 = .error f := by simpa [Channel.finish, hr] using hf
  rw [Decoder.finish_sound _ h.decoder] at hfinish
  obtain ⟨hheld, rfl⟩ : c.decoder.held ≠ [] ∧ (⟨0, none⟩ : Fault) = f := by
    by_cases hheld : c.decoder.held = []
    · simp [hheld] at hfinish
    · exact ⟨hheld, by simpa [hheld] using hfinish⟩
  have hu := h.decoder.resolve_left hheld
  have hbytes : encode given ++ c.decoder.held = written := by
    have hbytes := h.bytes
    rw [List.append_assoc] at hbytes
    rwa [← Channel.pending, hp, List.append_nil] at hbytes
  refine .incomplete c.decoder.held (by rw [finish_snd]; exact hr) (by rw [finish_snd]; exact hp) ?_
  rw [← hbytes, ending_encode_append, scan_unfinished _ hu]

/-- Each stream is accounted for since the beginning of the call, or the call has failed at one
that was found to be no text. -/
def Tracks (s : Supervisor) (written : Stream → List UInt8) : Prop :=
  (∀ k, ¬ s.FailedOn k ∧ ∃ given, (s.channel k).Accounts given (written k)) ∨
    s.point = .idle ∧ ∃ k f, s.answer = some (.failed (.decode k f)) ∧
      (s.channel k).Undecodable (written k) f.length

/-- Where a call fails at a stream: at a look, or at the end check of a drain that was seen to
finish. -/
inductive Fails (s : Supervisor) (k : Stream) (f : Fault) (u : Supervisor) : Prop where
  | atLook (e : Errand) (at' : s.point = lookPoint k e) (h : (s.channel k).look.1 = .error f)
      (left : u.channel k = (s.channel k).look.2)
  | atEnd (at' : s.point = finishPoint k) (h : (s.channel k).finish.1 = .error f)
      (reaped : (s.channel k).hold = .reaped) (left : u.channel k = (s.channel k).finish.2)

theorem reaped_at_finish (s : Supervisor) (k : Stream) (f : Fault) (hs : Sound s)
    (hp : s.point = finishPoint k) (h : (s.channel k).finish.1 = .error f) :
    (s.channel k).hold = .reaped := by
  have hrel := hs.point.last (by rw [hp]; cases k <;> rfl) k
  cases hc : (s.channel k).hold with
  | held => simp [Channel.isReleased, hc] at hrel
  | reaped => rfl
  | abandoned => simp [Channel.finish, hc] at h

/-- A call fails at a stream by the owner's own step. -/
theorem failing_cause (s : Supervisor) (t : Turn) (k : Stream) (f : Fault) (hs : Sound s)
    (hf : (s.turn t).answer = some (.failed (.decode k f))) :
    s.answer = some (.failed (.decode k f)) ∨
      t = .move .advance ∧ s.Fails k f (s.turn t) := by
  have he := turn_effect s t
  generalize s.turn t = u at he hf
  have hsame (ha : u.answer = s.answer) : s.answer = some (.failed (.decode k f)) := ha ▸ hf
  have hnever (a : Answer) (ha : u.answer = some a) (hn : a ≠ .failed (.decode k f)) : False :=
    hn (Option.some.inj (ha.symm.trans hf))
  cases he with
  | looksFailing j e g hp hl =>
    obtain ⟨rfl, rfl⟩ : j = k ∧ g = f := by simpa [fail, reply] using hf
    exact .inr ⟨rfl, .atLook e hp hl (by simp [fail])⟩
  | finishesFailing j g hp hl =>
    obtain ⟨rfl, rfl⟩ : j = k ∧ g = f := by simpa [fail, reply] using hf
    exact .inr ⟨rfl, .atEnd hp hl (reaped_at_finish s j g hs hp hl) (by simp [fail])⟩
  | nothing => exact .inl (hsame rfl)
  | writes | closes | reads | ends | notifies => exact .inl (hsame (by simp))
  | exits | loses | breaksInput | takesSome | hearsListening | hearsLingering | seesRunning
  | seesDrained | seesUndrained | tires => exact .inl (hsame rfl)
  | reaps => exact .inl (hsame (by simp [goTo]))
  | learnsExit code | seesExit code => exact .inl (hsame (by simp [goTo, answer_record]))
  | takesLast | learnsBroken | polls | closesInput | learnsError | learnsLoss | seesLoss
  | pollsLoss => exact (hnever _ rfl (by simp)).elim
  | begins => simp at hf
  | writesNothing bytes a _ ha => obtain rfl | rfl := ha <;> exact (hnever _ rfl (by simp)).elim
  | looks j e text =>
    obtain ha | ha := answer_looked ((s.setChannel j (s.channel j).look.2).deliver j text) j e
    · exact .inl (hsame (by rw [ha, deliver_eq]; simp))
    · exact (hnever _ ha (by simp)).elim
  | finishes j =>
    obtain ha | ⟨code, ha⟩ := answer_finished (s.setChannel j (s.channel j).finish.2) j
    · exact .inl (hsame (by rw [ha]; simp))
    · exact (hnever _ ha (by simp)).elim

/-- A call that fails at a stream has found it to be no text. -/
theorem failing_turn (s : Supervisor) (t : Turn) (k : Stream) (given : String)
    (written : List UInt8) (f : Fault) (hs : Sound s)
    (h : (s.channel k).Accounts given written)
    (hf : (s.turn t).answer = some (.failed (.decode k f))) :
    s.FailedOn k ∨
      ((s.turn t).channel k).Undecodable (written ++ s.adds k t) f.length := by
  obtain hsame | ⟨rfl, hfails⟩ := failing_cause s t k f hs hf
  · exact .inl ⟨f, hsame⟩
  have hadds : written ++ s.adds k (.move .advance) = written := List.append_nil _
  rw [hadds]
  cases hfails with
  | atLook e _ hl hleft =>
    rw [hleft]
    exact .inr (undecodable_look _ _ _ _ h hl)
  | atEnd hp hl hreaped hleft =>
    obtain ⟨hq, hpipe, -⟩ := settled_at_finish s k hs hp (by simp [hreaped])
    rw [hleft]
    exact .inr (undecodable_finish _ _ _ _ h hl hreaped (by simp [Channel.pending, hq, hpipe]))

theorem tracks_step (s : Supervisor) (m : Move) (written : Stream → List UInt8)
    (hs : Sound s) (h : s.Tracks written) :
    (s.step m).Tracks fun k => written k ++ s.adds k (.move m) := by
  have hsound := turn_sound s (.move m) hs
  obtain h | ⟨hp, k, f, hf, hno⟩ := h
  · by_cases hall : ∀ k, ¬ (s.step m).FailedOn k
    · refine .inl fun k => ⟨hall k, ?_⟩
      obtain ⟨-, given, hacc⟩ := h k
      obtain ⟨r, hc, hshows⟩ := turn_change s (.move m) k hs
      cases r with
      | ok text => exact ⟨given ++ text, accounts_of_change _ _ _ _ _ _ hacc hc⟩
      | error f => exact absurd ⟨f, hshows.2.2⟩ (hall k)
    · obtain ⟨k, f, hf⟩ : ∃ k, (s.step m).FailedOn k := by simpa using hall
      obtain ⟨hunfailed, given, hacc⟩ := h k
      obtain hfailed | hno := failing_turn s (.move m) k given _ f hs hacc hf
      · exact absurd hfailed hunfailed
      · exact .inr ⟨idle_of_failedOn _ k hsound ⟨f, hf⟩, k, f, hf, hno⟩
  · obtain ⟨hp', ha, -⟩ := idle_step s m hp
    obtain ⟨r, hc, -⟩ := turn_change s (.move m) k hs
    exact .inr ⟨hp', k, f, ha ▸ hf, undecodable_of_change _ _ _ _ _ r (hs.channel k) hno hc⟩

theorem tracks_run (s : Supervisor) (moves : List Move) (written : Stream → List UInt8)
    (hs : Sound s) (h : s.Tracks written) :
    (s.run moves).Tracks fun k => written k ++ output k s (moves.map .move) := by
  induction moves generalizing s written with
  | nil => simpa [run, output] using h
  | cons m moves ih =>
    have hrest := ih (s.step m) _ (turn_sound s (.move m) hs) (tracks_step s m written hs h)
    simpa [run, output, turn] using hrest

/-- In a call that begins in the state `begun`, what was taken of a stream is found to be no
text. -/
def Undecodable (begun : Supervisor) (moves : List Move) (k : Stream) (n : Option Nat) : Prop :=
  ((begun.run moves).channel k).Undecodable
    ((begun.channel k).unseen ++ output k begun (moves.map .move)) n

/-- What can go wrong, in a call that begins in the state `begun` and is answered. -/
inductive Breaks (begun : Supervisor) (moves : List Move) : Failure → Prop where
  /-- a stream is no text -/
  | undecodable (k : Stream) (f : Fault) (waits : begun.point = .lookOut .live)
      (answered : (begun.run moves).answer ≠ none) (h : begun.Undecodable moves k f.length) :
      Breaks begun moves (.decode k f)
  /-- the system does not tell how the process ended -/
  | lost (e : SystemError) (waits : begun.point = .lookOut .live)
      (answered : (begun.run moves).answer ≠ none) (h : (begun.run moves).child = .lost e)
      (decodable : ∀ k n, ¬ begun.Undecodable moves k n) : Breaks begun moves (.io (.system e))
  /-- not all bytes can be written, and not because nobody reads them -/
  | unfed (rest : List UInt8) (e : SystemError) (writes : begun.point = .writing rest)
      (answered : (begun.run moves).answer ≠ none)
      (h : (begun.run moves).input.broken = some e) (read : e ≠ .brokenPipe)
      (left : (begun.run moves).input.taken ≠ begun.input.taken ++ rest) :
      Breaks begun moves (.io (.system e))

/-- The owner is in no call, and the decoders hold nothing, or the beginning of a character. -/
structure Ready (s : Supervisor) : Prop where
  sound : Sound s
  idle : s.point = .idle
  decoder : ∀ k, (s.channel k).decoder.Sound

theorem ready_start : Ready {} :=
  ⟨sound_start, rfl, fun k => by cases k <;> exact Decoder.sound_empty⟩

theorem ready_call (s : Supervisor) (c : Call) (moves : List Move) (hs : s.Ready)
    (ha : ((s.begin c).run moves).answer ≠ none) : Ready ((s.begin c).run moves) := by
  have hlive : (s.begin c).run moves = s.live (.call c :: moves.map .move) := by
    rw [live_cons, live_moves, turn]
  rw [hlive] at ha ⊢
  have hsound := live_sound s (.call c :: moves.map .move) hs.sound
  refine ⟨hsound, ?_, live_decoder s _ hs.sound hs.decoder⟩
  by_cases hp : (s.live (.call c :: moves.map .move)).point = .idle
  · exact hp
  · exact absurd (hsound.calm hp) ha

/-- A wait that is answered has come to an exit code and nothing went wrong, or it has failed and
something went wrong. -/
theorem wait_breaks (s : Supervisor) (moves : List Move) (a : Answer) (hs : s.Ready)
    (ha : ((s.begin .wait).run moves).answer = some a) :
    (∃ code, a = .waited code ∧ ((s.begin .wait).run moves).child = .exited code ∧
      ∀ f, ¬ (s.begin .wait).Breaks moves f) ∨
    ∃ f, a = .failed f ∧ (s.begin .wait).Breaks moves f := by
  have hbegun : s.begin .wait = { s with answer := none, point := .lookOut .live } :=
    begin_wait s hs.idle
  have hchannel (k : Stream) : (s.begin .wait).channel k = s.channel k := by
    rw [hbegun]
    exact channel_congr _ _ k rfl rfl
  have hwaits : (s.begin .wait).point = .lookOut .live := by rw [hbegun]
  have hsound : Sound (s.begin .wait) := turn_sound s (.call .wait) hs.sound
  have hstart : (s.begin .wait).Tracks fun k => ((s.begin .wait).channel k).unseen := by
    refine .inl fun k => ⟨by simp [FailedOn, hbegun], "", ⟨by simp [Channel.unseen, encode], ?_⟩⟩
    rw [hchannel]
    exact hs.decoder k
  have htracks := tracks_run _ moves _ hsound hstart
  have hend : Sound ((s.begin .wait).run moves) := by
    rw [← live_moves]
    exact live_sound _ _ hsound
  have hin : ((s.begin .wait).run moves).InWait := by
    refine inWait_run _ moves ?_
    rw [hbegun]
    exact waits_awake _ rfl rfl rfl
  have hanswered : ((s.begin .wait).run moves).answer ≠ none := by simp [ha]
  -- a stream that was seen to finish has nothing held back, unless its end was found missing
  have hdecodable (hn : ∀ k f, a ≠ .failed (.decode k f))
      (hheld : ∀ k, (((s.begin .wait).run moves).channel k).hold = .reaped →
        (((s.begin .wait).run moves).channel k).decoder.held = []) (k : Stream)
      (n : Option Nat) : ¬ (s.begin .wait).Undecodable moves k n := by
    obtain h | ⟨-, j, f, hf, -⟩ := htracks
    · obtain ⟨-, given, hacc⟩ := h k
      exact decodable_of_accounts _ given _ hacc (hheld k) n
    · exact absurd (Option.some.inj (ha.symm.trans hf)) (hn j f)
  obtain hw | ⟨-, b, hb, hends⟩ := hin
  · rw [hw.answer] at ha
    contradiction
  obtain rfl : b = a := Option.some.inj (hb.symm.trans ha)
  cases hends with
  | waited code =>
    have hexited := hend.exited code (hend.waited code ha).1
    refine .inl ⟨code, rfl, hexited, fun f hf => ?_⟩
    cases hf with
    | undecodable k f _ _ hno =>
      refine hdecodable (by simp) (fun j hj => ?_) k f.length hno
      exact (((hend.waited code ha).2 j).2 hj).2
    | lost e _ _ hl _ => simp [hexited] at hl
    | unfed rest e hp => simp [hwaits] at hp
  | undecoded k f =>
    refine .inr ⟨_, rfl, .undecodable k f hwaits hanswered ?_⟩
    obtain h | ⟨-, j, g, hg, hno⟩ := htracks
    · exact absurd ⟨f, ha⟩ (h k).1
    · obtain ⟨rfl, rfl⟩ : k = j ∧ f = g := by simpa [ha] using hg
      exact hno
  | lost e hl =>
    refine .inr ⟨_, rfl, .lost e hwaits hanswered hl ?_⟩
    refine hdecodable (by simp) fun k hk => ?_
    -- a drain is seen to finish only after the exit
    obtain ⟨code, hcode⟩ := Option.ne_none_iff_exists'.mp
      (hend.released k (by simp [Channel.isReleased, hk]))
    simp [hend.exited code hcode] at hl

/-- The bytes `goal` are being written, or the call has ended: with all of them written, with
nobody left to read them, or with another error. -/
inductive Feeds (goal : List UInt8) (s : Supervisor) : Prop where
  | writing (rest : List UInt8) (at' : s.point = .writing rest) (some : rest ≠ [])
      (answer : s.answer = none) (bytes : s.input.taken ++ rest = goal)
  | written (at' : s.point = .idle) (answer : s.answer = some .wrote)
      (bytes : s.input.taken = goal)
  | unread (at' : s.point = .idle) (answer : s.answer = some .wrote)
      (broken : s.input.broken = some .brokenPipe)
  | failed (e : SystemError) (at' : s.point = .idle)
      (answer : s.answer = some (.failed (.io (.system e))))
      (broken : s.input.broken = some e) (read : e ≠ .brokenPipe)
      (left : s.input.taken ≠ goal)

/-- Only three moves have to do with the input. -/
theorem input_still (s : Supervisor) (m : Move) (h : s.AtInput) (htakes : ∀ n, m ≠ .takes n)
    (hlearns : m ≠ .learns) (hbreaks : ∀ e, m ≠ .breaksInput e) :
    (s.step m).point = s.point ∧ (s.step m).answer = s.answer ∧ (s.step m).input = s.input := by
  have hset (k : Stream) (c : Channel) : (s.setChannel k c).input = s.input := by cases k <;> rfl
  obtain ⟨hadvance, hhears, hexit, htires, hreaps⟩ := owner_still s h
  cases m with
  | takes n => exact absurd rfl (htakes n)
  | learns => exact absurd rfl hlearns
  | breaksInput e => exact absurd rfl (hbreaks e)
  | hears => simp [step, hhears]
  | advance => simp [step, hadvance]
  | learnsExit => simp [step, hexit]
  | tires => simp [step, htires]
  | reaps k => simp [step, hreaps]
  | writes k | closes k | reads k | ends k => exact ⟨by simp [step], by simp [step], hset k _⟩
  | notifies k =>
    simp only [step, notify]
    split
    · exact ⟨by simp, by simp, hset k _⟩
    · exact ⟨rfl, rfl, rfl⟩
  | exits code | loses e =>
    simp only [step, settleChild]
    split <;> exact ⟨rfl, rfl, rfl⟩

theorem feeds_step (goal : List UInt8) (s : Supervisor) (m : Move) (h : s.Feeds goal) :
    (s.step m).Feeds goal := by
  have hat : s.AtInput := by
    cases h with
    | writing rest at' => exact .inr ⟨rest, at'⟩
    | written at' | unread at' | failed _ at' => exact .inl at'
  have hsame (u : Supervisor) (hp : u.point = s.point) (ha : u.answer = s.answer)
      (hi : u.input = s.input) : u.Feeds goal := by
    cases h with
    | writing rest at' some answer bytes =>
      exact .writing rest (hp.trans at') some (ha.trans answer) (by rw [hi, bytes])
    | written at' answer bytes =>
      exact .written (hp.trans at') (ha.trans answer) (by rw [hi, bytes])
    | unread at' answer broken =>
      exact .unread (hp.trans at') (ha.trans answer) (by rw [hi, broken])
    | failed e at' answer broken read left =>
      exact .failed e (hp.trans at') (ha.trans answer) (by rw [hi, broken]) read (by rwa [hi])
  have hrest (m : Move) (htakes : ∀ n, m ≠ .takes n) (hlearns : m ≠ .learns)
      (hbreaks : ∀ e, m ≠ .breaksInput e) : (s.step m).Feeds goal := by
    obtain ⟨hp, ha, hi⟩ := input_still s m hat htakes hlearns hbreaks
    exact hsame _ hp ha hi
  cases m with
  | takes n =>
    simp only [step, take]
    split
    next rest at' hb =>
      cases h with
      | writing rest' hp some answer bytes =>
        obtain rfl : rest = rest' := by simpa [at'] using hp
        split
        next hempty =>
          refine .written rfl rfl ?_
          have hall : rest.take n = rest := by
            rw [List.take_of_length_le]
            simpa using hempty
          simpa [reply, hall] using bytes
        next hmore =>
          exact .writing _ rfl (by simpa using hmore) answer (by simpa [goTo] using bytes)
      | written hp | unread hp | failed _ hp => simp [hp] at at'
    · exact hsame s rfl rfl rfl
  | learns =>
    simp only [step, learn]
    split
    next rest at' hb => exact .unread rfl rfl hb
    next rest e hne at' hb =>
      cases h with
      | writing rest' hp some answer bytes =>
        refine .failed e rfl rfl hb hne ?_
        rw [← bytes]
        simpa [fail, reply] using some
      | written hp | unread hp | failed _ hp => simp [hp] at at'
    · exact hsame s rfl rfl rfl
  | breaksInput e =>
    simp only [step, breakInput]
    split
    next hb =>
      cases h with
      | writing rest at' some answer bytes => exact .writing rest at' some answer bytes
      | written at' answer bytes => exact .written at' answer bytes
      | unread _ _ broken => simp [hb] at broken
      | failed _ _ _ broken => simp [hb] at broken
    · exact hsame s rfl rfl rfl
  | _ => exact hrest _ (by simp) (by simp) (by simp)

theorem feeds_run (goal : List UInt8) (s : Supervisor) (moves : List Move) (h : s.Feeds goal) :
    (s.run moves).Feeds goal := by
  induction moves generalizing s with
  | nil => exact h
  | cons m moves ih => exact ih _ (feeds_step goal s m h)

/-- A write that is answered is done and nothing went wrong, or it has failed and something went
wrong. -/
theorem write_breaks (s : Supervisor) (bytes : List UInt8) (moves : List Move) (a : Answer)
    (hs : s.Ready) (hopen : s.input.isOpen = true) (hne : bytes ≠ [])
    (ha : ((s.begin (.write bytes)).run moves).answer = some a) :
    (a = .wrote ∧ ∀ f, ¬ (s.begin (.write bytes)).Breaks moves f) ∨
    ∃ f, a = .failed f ∧ (s.begin (.write bytes)).Breaks moves f := by
  have hbegun : s.begin (.write bytes) = { s with answer := none, point := .writing bytes } := by
    simp [begin, hs.idle, hopen, hne, goTo]
  have hwrites : (s.begin (.write bytes)).point = .writing bytes := by rw [hbegun]
  have hinput : (s.begin (.write bytes)).input = s.input := by rw [hbegun]
  have hfeeds : ((s.begin (.write bytes)).run moves).Feeds (s.input.taken ++ bytes) := by
    refine feeds_run _ _ moves (.writing bytes hwrites hne (by rw [hbegun]) (by rw [hinput]))
  have hfine (h : ((s.begin (.write bytes)).run moves).input.taken = s.input.taken ++ bytes ∨
      ((s.begin (.write bytes)).run moves).input.broken = some .brokenPipe) (f : Failure) :
      ¬ (s.begin (.write bytes)).Breaks moves f := by
    intro hf
    cases hf with
    | undecodable k f hp | lost e hp => simp [hwrites] at hp
    | unfed rest e hp _ hb hread hleft =>
      obtain rfl : bytes = rest := by simpa [hwrites] using hp
      obtain h | h := h
      · exact hleft (by rw [h, hinput])
      · exact hread (by simpa [h] using hb.symm)
  cases hfeeds with
  | writing rest at' some answer => simp [answer] at ha
  | written at' answer bytes =>
    obtain rfl : a = .wrote := by simpa [ha] using answer
    exact .inl ⟨rfl, hfine (.inl bytes)⟩
  | unread at' answer broken =>
    obtain rfl : a = .wrote := by simpa [ha] using answer
    exact .inl ⟨rfl, hfine (.inr broken)⟩
  | failed e at' answer broken read left =>
    obtain rfl : a = .failed (.io (.system e)) := by simpa [ha] using answer
    exact .inr ⟨_, rfl, .unfed bytes e hwrites (by simp [ha]) broken read (by rwa [hinput])⟩

end CellRunner.Supervisor
