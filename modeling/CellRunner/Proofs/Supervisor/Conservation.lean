import CellRunner.Proofs.Supervisor.Decoder
import CellRunner.Proofs.Supervisor.Soundness

/-!
# Nothing of a stream is lost

What has been written to a stream is, in this order, what was handed on, what the decoder
holds back, what is queued and what is unread. Each turn keeps this, unless it fails at the
stream, and then no turns that follow can make a text of the bytes of the stream.
-/

set_option autoImplicit false

namespace CellRunner.Supervisor
open Utf8

/-- The bytes `written` have become the text `given`, and the rest is still in the channel. -/
structure Channel.Accounts (c : Channel) (given : String) (written : List UInt8) : Prop where
  bytes : encode given ++ c.decoder.held ++ c.queue.flatten ++ c.pipe = written
  decoder : c.decoder.Sound

/-- The bytes `written` have become the text `given` up to a place that is in no text: what
follows it is ill formed, or the stream has ended within a character. -/
inductive Channel.Spoilt (c : Channel) (given : String) : List UInt8 → Prop where
  | broken (rest : List UInt8) (h : ∀ more, ¬ IsText (encode given ++ rest ++ more)) :
      Spoilt c given (encode given ++ rest)
  | unfinished (rest : List UInt8) (h : Unfinished rest) (closed : c.closed = true) :
      Spoilt c given (encode given ++ rest)

namespace Channel

variable {c : Channel} {given : String} {written : List UInt8}

theorem accounts_write (h : c.Accounts given written) (bytes : List UInt8) :
    (c.write bytes).Accounts given (written ++ if c.closed then [] else bytes) := by
  unfold write
  split
  · simpa using h
  · exact ⟨by simp [← h.bytes], h.decoder⟩

theorem accounts_close (h : c.Accounts given written) : c.close.Accounts given written :=
  ⟨h.bytes, h.decoder⟩

theorem take_append_drop_take (ps : List UInt8) (n : Nat) :
    ps.take n ++ ps.drop (ps.take n).length = ps := by
  conv => rhs; rw [← List.take_append_drop n ps]
  obtain h | h := Nat.le_total n ps.length
  · rw [List.length_take, Nat.min_eq_left h]
  · rw [List.take_of_length_le h, List.drop_length, List.drop_of_length_le h]

theorem accounts_read (h : c.Accounts given written) (n : Nat) :
    (c.read n).Accounts given written := by
  unfold read
  dsimp only
  split
  · have hp := take_append_drop_take c.pipe (min n chunkSize)
    generalize c.pipe.take (min n chunkSize) = chunk at hp
    refine ⟨?_, h.decoder⟩
    rw [← h.bytes]
    conv => rhs; rw [← hp]
    simp
  · exact h

theorem accounts_finishReading (h : c.Accounts given written) :
    c.finishReading.Accounts given written := by
  unfold finishReading
  split
  · exact ⟨h.bytes, h.decoder⟩
  · exact h

theorem accounts_giveNotice (h : c.Accounts given written) :
    c.giveNotice.Accounts given written := by
  unfold giveNotice
  split
  · exact ⟨h.bytes, h.decoder⟩
  · exact ⟨h.bytes, h.decoder⟩
  · exact h

theorem accounts_reap (h : c.Accounts given written) : c.reap.Accounts given written :=
  ⟨h.bytes, h.decoder⟩

theorem accounts_abandon (h : c.Accounts given written) : c.abandon.Accounts given written := by
  unfold abandon
  split
  · exact ⟨h.bytes, h.decoder⟩
  · exact h

theorem accounts_look (h : c.Accounts given written) (text : String)
    (hl : c.look.1 = .ok text) : c.look.2.Accounts (given ++ text) written := by
  by_cases hq : c.queue.flatten = []
  · have hlook : c.look = (.ok "", { c with queue := [] }) := by simp [look, hq]
    rw [hlook] at hl ⊢
    obtain rfl : "" = text := by simpa using hl
    refine ⟨?_, h.decoder⟩
    rw [← h.bytes, hq]
    simp
  · cases hd : c.decoder.decode c.queue.flatten with
    | mk r d =>
    have hlook : c.look = (r, { c with queue := [], decoder := d }) := by simp [look, hq, hd]
    rw [hlook] at hl ⊢
    obtain rfl : r = .ok text := hl
    obtain ⟨hb, hs⟩ := c.decoder.decode_ok d _ _ hd
    refine ⟨?_, hs⟩
    rw [← h.bytes, List.append_assoc (encode given), hb]
    simp

/-- What a look that fails has found. -/
theorem look_error (c : Channel) (f : Utf8.Fault) (hl : c.look.1 = .error f) :
    ∃ n, (scan (c.decoder.held ++ c.queue.flatten)).ending = .invalid n ∧ f.length = some n := by
  by_cases hq : c.queue.flatten = []
  · simp [look, hq] at hl
  · cases hd : c.decoder.decode c.queue.flatten with
    | mk r d =>
    obtain rfl : r = .error f := by simpa [look, hq, hd] using hl
    obtain ⟨-, n, hn, rfl⟩ := c.decoder.decode_error d _ _ hd
    exact ⟨n, hn, rfl⟩

/-- A look fails only at bytes that nothing can make well formed. -/
theorem spoilt_look (h : c.Accounts given written) (f : Fault) (hl : c.look.1 = .error f) :
    c.look.2.Spoilt given written := by
  obtain ⟨n, hn, -⟩ := c.look_error f hl
  rw [← h.bytes, List.append_assoc (encode given), List.append_assoc (encode given)]
  refine .broken _ fun more => ?_
  have hno := not_isText_of_invalid given _ (c.pipe ++ more) n hn
  simpa using hno

theorem accounts_finish (h : c.Accounts given written) (hf : c.finish.1 = .ok ()) :
    c.finish.2.Accounts given written := by
  unfold finish at hf ⊢
  split at hf
  next ha => simpa [ha] using h
  next ha =>
    rw [if_neg ha]
    rw [Decoder.finish_sound _ h.decoder] at hf ⊢
    have hheld : c.decoder.held = [] := by
      by_cases hh : c.decoder.held = []
      · exact hh
      · simp [hh] at hf
    exact ⟨by simp [← h.bytes, hheld], Decoder.sound_empty⟩

/-- An end check fails only at the beginning of a character that is not finished. -/
theorem spoilt_finish (h : c.Accounts given written) (f : Fault) (hf : c.finish.1 = .error f)
    (hq : c.queue = []) (hp : c.pipe = []) (hc : c.closed = true) :
    c.finish.2.Spoilt given written := by
  have hu : Unfinished c.decoder.held := by
    refine h.decoder.resolve_left fun hheld => ?_
    unfold finish at hf
    split at hf
    · simp at hf
    · simp [Decoder.finish_sound _ h.decoder, hheld] at hf
  rw [← h.bytes, hq, hp]
  simp only [List.flatten_nil, List.append_nil]
  exact .unfinished _ hu (by rw [finish_snd]; exact hc)

end Channel

/-- What one turn may do to a channel: the bytes that it adds, and the text that it takes out
or the fault that it meets. -/
inductive Change (c : Channel) : Channel → List UInt8 → Except Fault String → Prop where
  | still : Change c c [] (.ok "")
  | write (bytes : List UInt8) :
      Change c (c.write bytes) (if c.closed then [] else bytes) (.ok "")
  | close : Change c c.close [] (.ok "")
  | read (n : Nat) : Change c (c.read n) [] (.ok "")
  | finishReading : Change c c.finishReading [] (.ok "")
  | giveNotice : Change c c.giveNotice [] (.ok "")
  | reap (h : c.isReapable = true) : Change c c.reap [] (.ok "")
  | abandon : Change c c.abandon [] (.ok "")
  | look (r : Except Fault String) (h : c.look.1 = r) : Change c c.look.2 [] r
  | finish (h : c.finish.1 = .ok ()) : Change c c.finish.2 [] (.ok "")
  | finishFailing (f : Fault) (h : c.finish.1 = .error f) (queue : c.queue = [])
      (pipe : c.pipe = []) (closed : c.closed = true) : Change c c.finish.2 [] (.error f)

/-- The last call has failed at a stream that does not decode. -/
def FailedOn (s : Supervisor) (k : Stream) : Prop :=
  ∃ f, s.answer = some (.failed (.decode k f))

instance (s : Supervisor) (k : Stream) : Decidable (s.FailedOn k) :=
  match h : s.answer with
  | some (.failed (.decode j f)) =>
    decidable_of_iff (j = k) ⟨fun hj => ⟨f, hj ▸ h⟩, fun ⟨g, hg⟩ => by simp_all⟩
  | some (.failed (.io _)) | some .flushed | some (.polled _) | some (.waited _) | some .wrote
  | some .closed | none => .isFalse fun ⟨f, hf⟩ => by simp [h] at hf

/-- How a change of the channel `k` shows between two states. -/
def Shows (s u : Supervisor) (k : Stream) : Except Fault String → Prop
  | .ok text => u.delivered k = s.delivered k ++ text ∧ (u.FailedOn k → s.FailedOn k)
  | .error f => u.delivered k = s.delivered k ∧ s.answer = none ∧
      u.answer = some (.failed (.decode k f))

theorem shows_quiet (s u : Supervisor) (k : Stream) (hs : u.sink = s.sink)
    (ha : u.FailedOn k → s.FailedOn k) : s.Shows u k (.ok "") := by
  refine ⟨?_, ha⟩
  rw [String.append_empty, delivered, delivered, hs]

theorem not_failedOn (s : Supervisor) (k : Stream) (a : Answer) (h : s.answer = some a)
    (ha : ∀ f, a ≠ .failed (.decode k f)) : ¬ s.FailedOn k := by
  rintro ⟨f, hf⟩
  exact ha f (Option.some.inj (h.symm.trans hf))

theorem delivered_deliver (s : Supervisor) (j k : Stream) (text : String) :
    (s.deliver j text).delivered k =
      s.delivered k ++ (if j = k then text else "") := by
  by_cases ht : text = ""
  · simp [deliver, ht]
  · by_cases hj : j = k <;> simp [deliver, ht, hj, delivered, String.join_append]

/-- A step that leaves the streams alone, and does not fail at one. -/
theorem change_quiet (s u : Supervisor) (k : Stream) (hc : u.channel k = s.channel k)
    (hs : u.sink = s.sink) (ha : u.FailedOn k → s.FailedOn k) :
    ∃ r, Change (s.channel k) (u.channel k) [] r ∧ s.Shows u k r :=
  ⟨_, hc ▸ .still, shows_quiet s u k hs ha⟩

/-- A step of the process or of a drain in the channel `j`. -/
theorem change_behind (s u : Supervisor) (j k : Stream) (c : Channel) (added : List UInt8)
    (hc : Change (s.channel j) c added (.ok ""))
    (hu : ∀ i, u.channel i = (s.setChannel j c).channel i) (hs : u.sink = s.sink)
    (ha : u.answer = s.answer) :
    ∃ r, Change (s.channel k) (u.channel k) (if j = k then added else []) r ∧
      s.Shows u k r := by
  have hf : u.FailedOn k → s.FailedOn k := by simp [FailedOn, ha]
  by_cases hj : j = k
  · subst hj
    rw [hu, channel_setChannel, if_pos rfl]
    exact ⟨_, hc, shows_quiet s u j hs hf⟩
  · rw [hu, channel_setChannel_ne s j k c (Ne.symm hj), if_neg hj]
    exact ⟨_, .still, shows_quiet s u k hs hf⟩

theorem answer_looked (s : Supervisor) (k : Stream) (e : Errand) :
    (s.looked k e).answer = s.answer ∨ (s.looked k e).answer = some .flushed := by
  cases k <;> cases e <;> simp [looked, afterFlush, goTo, reply]

theorem channel_looked (s : Supervisor) (j k : Stream) (e : Errand) :
    (s.looked j e).channel k = s.channel k ∧ (s.looked j e).sink = s.sink := by
  cases j <;> cases e <;> exact ⟨channel_congr _ _ k rfl rfl, rfl⟩

theorem channel_finished (s : Supervisor) (j k : Stream) :
    (s.finished j).channel k = s.channel k ∧ (s.finished j).sink = s.sink := by
  cases j with
  | stdout => exact ⟨channel_congr _ _ k rfl rfl, rfl⟩
  | stderr =>
    simp only [finished, conclude]
    split
    · exact ⟨channel_congr _ _ k rfl rfl, rfl⟩
    · exact ⟨rfl, rfl⟩

theorem answer_finished (s : Supervisor) (k : Stream) :
    (s.finished k).answer = s.answer ∨ ∃ code, (s.finished k).answer = some (.waited code) := by
  cases k with
  | stdout => exact .inl rfl
  | stderr =>
    simp only [finished, conclude]
    split
    next code _ => exact .inr ⟨code, rfl⟩
    · exact .inl rfl

/-- A step that ends a call without a fault of a stream. -/
theorem change_reply (s u : Supervisor) (k : Stream) (a : Answer)
    (hc : u.channel k = s.channel k) (hs : u.sink = s.sink) (ha : u.answer = some a)
    (hn : ∀ f, a ≠ .failed (.decode k f)) :
    ∃ r, Change (s.channel k) (u.channel k) [] r ∧ s.Shows u k r :=
  change_quiet s u k hc hs fun hf => absurd hf (not_failedOn u k a ha hn)

theorem change_looks (s : Supervisor) (j k : Stream) (e : Errand) (text : String)
    (hl : (s.channel j).look.1 = .ok text) :
    ∃ r, Change (s.channel k)
        ((((s.setChannel j (s.channel j).look.2).deliver j text).looked j e).channel k) [] r ∧
      s.Shows (((s.setChannel j (s.channel j).look.2).deliver j text).looked j e) k r := by
  obtain ⟨hc, hs⟩ := channel_looked ((s.setChannel j (s.channel j).look.2).deliver j text) j k e
  have ha := answer_looked ((s.setChannel j (s.channel j).look.2).deliver j text) j e
  generalize ((s.setChannel j (s.channel j).look.2).deliver j text).looked j e = u at hc hs ha
  have hd : u.delivered k = s.delivered k ++ if j = k then text else "" := by
    have hd := delivered_deliver (s.setChannel j (s.channel j).look.2) j k text
    unfold delivered at hd ⊢
    rw [hs, hd, sink_setChannel]
  have hf : u.FailedOn k → s.FailedOn k := by
    obtain ha | ha := ha
    · rw [deliver_eq, answer_setChannel] at ha
      simp [FailedOn, ha]
    · exact fun hf => absurd hf (not_failedOn u k _ ha (by simp))
  rw [hc, channel_deliver]
  by_cases hj : j = k
  · subst hj
    rw [channel_setChannel]
    exact ⟨_, .look _ hl, by simpa using hd, hf⟩
  · rw [channel_setChannel_ne s j k _ (Ne.symm hj)]
    exact ⟨_, .still, by simpa [hj] using hd, hf⟩

/-- A step that fails at the stream `j`. -/
theorem change_fails (s : Supervisor) (j k : Stream) (c : Channel) (f : Fault)
    (ha : s.answer = none) (hc : Change (s.channel j) c [] (.error f)) :
    ∃ r, Change (s.channel k) (((s.setChannel j c).fail (.decode j f)).channel k) [] r ∧
      s.Shows ((s.setChannel j c).fail (.decode j f)) k r := by
  have hd : ((s.setChannel j c).fail (.decode j f)).delivered k = s.delivered k := by
    simp [delivered, fail, reply]
  rw [fail, channel_reply]
  by_cases hj : j = k
  · subst hj
    rw [channel_setChannel]
    exact ⟨_, hc, hd, ha, rfl⟩
  · rw [channel_setChannel_ne s j k _ (Ne.symm hj)]
    refine ⟨_, .still, by rw [String.append_empty]; exact hd, fun hf => ?_⟩
    exact absurd hf (not_failedOn _ k _ rfl (by simp [hj]))

theorem change_finishes (s : Supervisor) (j k : Stream) (hf : (s.channel j).finish.1 = .ok ()) :
    ∃ r, Change (s.channel k)
        (((s.setChannel j (s.channel j).finish.2).finished j).channel k) [] r ∧
      s.Shows ((s.setChannel j (s.channel j).finish.2).finished j) k r := by
  obtain ⟨hc, hs⟩ := channel_finished (s.setChannel j (s.channel j).finish.2) j k
  have ha := answer_finished (s.setChannel j (s.channel j).finish.2) j
  generalize (s.setChannel j (s.channel j).finish.2).finished j = u at hc hs ha
  have hq : s.Shows u k (.ok "") := by
    refine shows_quiet s u k (by simpa using hs) ?_
    obtain ha | ⟨code, ha⟩ := ha
    · simp [FailedOn, ha]
    · exact fun hf => absurd hf (not_failedOn u k _ ha (by simp))
  rw [hc]
  by_cases hj : j = k
  · subst hj
    rw [channel_setChannel]
    exact ⟨_, .finish hf, hq⟩
  · rw [channel_setChannel_ne s j k _ (Ne.symm hj)]
    exact ⟨_, .still, hq⟩

/-- At its end check a stream that is not let go has been read to its end. -/
theorem settled_at_finish (s : Supervisor) (k : Stream) (hs : Sound s)
    (hp : s.point = finishPoint k) (hh : (s.channel k).hold ≠ .abandoned) :
    (s.channel k).queue = [] ∧ (s.channel k).pipe = [] ∧ (s.channel k).closed = true := by
  have hb := hs.point
  rw [hp] at hb
  have hrel := hb.last (by cases k <;> rfl) k
  have hreaped : (s.channel k).hold = .reaped := by
    cases hc : (s.channel k).hold with
    | held => simp [Channel.isReleased, hc] at hrel
    | reaped => rfl
    | abandoned => exact absurd hc hh
  have hk := hs.channel k
  have hend := hk.ended (.inr (hk.reaped hreaped))
  exact ⟨hb.emptied k (by cases k <;> rfl) hreaped, hend⟩

theorem turn_change (s : Supervisor) (t : Turn) (k : Stream) (hs : Sound s) :
    ∃ r, Change (s.channel k) ((s.turn t).channel k) (s.adds k t) r ∧
      s.Shows (s.turn t) k r := by
  have he := turn_effect s t
  generalize s.turn t = u at he
  have hquiet (u : Supervisor) (ho : u.stdout = s.stdout) (he : u.stderr = s.stderr)
      (hs : u.sink = s.sink) (ha : u.FailedOn k → s.FailedOn k) :=
    change_quiet s u k (channel_congr s u k ho he) hs ha
  have hreply (u : Supervisor) (a : Answer) (ho : u.stdout = s.stdout)
      (he : u.stderr = s.stderr) (hs : u.sink = s.sink) (ha : u.answer = some a)
      (hn : ∀ f, a ≠ .failed (.decode k f)) :=
    change_reply s u k a (channel_congr s u k ho he) hs ha hn
  have hbehind (j : Stream) (c : Channel) (hc : Change (s.channel j) c [] (.ok ""))
      (u : Supervisor) (hu : ∀ i, u.channel i = (s.setChannel j c).channel i)
      (hs : u.sink = s.sink) (ha : u.answer = s.answer) :
      ∃ r, Change (s.channel k) (u.channel k) [] r ∧ s.Shows u k r := by
    have h := change_behind s u j k c [] hc hu hs ha
    rwa [ite_self] at h
  cases he with
  | nothing t _ silent =>
    rw [silent]
    exact change_quiet s s k rfl rfl id
  | writes j bytes =>
    have h := change_behind s _ j k _ _ (.write bytes) (fun _ => rfl) (by simp) (by simp)
    have hadds : s.adds k (.move (.writes j bytes)) =
        if j = k then if (s.channel j).closed then [] else bytes else [] := by
      by_cases hj : j = k
      · subst hj
        by_cases hc : (s.channel j).closed <;> simp [adds, hc]
      · simp [adds, hj]
    rw [hadds]
    exact h
  | closes j => exact hbehind j _ .close _ (fun _ => rfl) (by simp) (by simp)
  | reads j n => exact hbehind j _ (.read n) _ (fun _ => rfl) (by simp) (by simp)
  | ends j => exact hbehind j _ .finishReading _ (fun _ => rfl) (by simp) (by simp)
  | notifies j _ =>
    exact hbehind j _ .giveNotice _ (fun i => channel_congr _ _ i rfl rfl) (by simp) (by simp)
  | reaps j _ h =>
    exact hbehind j _ (.reap h) _ (fun _ => by simp) (by simp [goTo]) (by simp [goTo])
  | tires =>
    refine ⟨_, ?_, shows_quiet s _ k rfl id⟩
    cases k <;> exact .abandon
  | looks j e text _ hl => exact change_looks s j k e text hl
  | looksFailing j e f hp hl =>
    have ha : s.answer = none := hs.calm (by cases j <;> simp [hp, lookPoint])
    exact change_fails s j k _ f ha (.look _ hl)
  | finishes j _ hf => exact change_finishes s j k hf
  | finishesFailing j f hp hf =>
    have hh : (s.channel j).hold ≠ .abandoned := by
      intro ha
      simp [Channel.finish, ha] at hf
    obtain ⟨hq, hpipe, hclosed⟩ := settled_at_finish s j hs hp hh
    have ha : s.answer = none := hs.calm (by cases j <;> simp [hp, finishPoint])
    exact change_fails s j k _ f ha (.finishFailing f hf hq hpipe hclosed)
  | exits | loses | breaksInput | takesSome | hearsListening | hearsLingering | seesRunning
  | seesDrained | seesUndrained => exact hquiet _ rfl rfl rfl id
  | takesLast | learnsBroken | polls | pollsLoss | closesInput | learnsLoss | seesLoss
  | learnsError => exact hreply _ _ rfl rfl rfl rfl (by simp)
  | learnsExit code | seesExit code =>
    refine change_quiet s _ k (by simp) ?_ ?_
    · unfold record
      split <;> rfl
    · unfold record
      split <;> exact id
  | begins c p _ _ => exact hquiet _ rfl rfl rfl (by simp [FailedOn])
  | writesNothing bytes a _ ha =>
    exact hreply _ _ rfl rfl rfl rfl (by obtain rfl | rfl := ha <;> simp)

/-- A closed stream stays closed, and nothing is added to it; and what the owner has once done with
a drain stays done. -/
theorem change_keeps (c d : Channel) (added : List UInt8) (r : Except Fault String)
    (h : Change c d added r) :
    (c.closed = true → d.closed = true ∧ added = []) ∧ (c.hold ≠ .held → d.hold = c.hold) := by
  have hsame (d : Channel) (hc : d.closed = c.closed) (hh : d.hold = c.hold) :
      (c.closed = true → d.closed = true ∧ ([] : List UInt8) = []) ∧
        (c.hold ≠ .held → d.hold = c.hold) :=
    ⟨fun h => ⟨hc.trans h, rfl⟩, fun _ => hh⟩
  cases h with
  | still => exact hsame c rfl rfl
  | close => exact ⟨fun _ => ⟨rfl, rfl⟩, fun _ => rfl⟩
  | reap hr =>
    obtain ⟨hh, -⟩ : c.hold = .held ∧ c.drain = .finished := by
      simpa [Channel.isReapable] using hr
    exact ⟨fun hc => ⟨hc, rfl⟩, fun hn => absurd hh hn⟩
  | abandon =>
    unfold Channel.abandon
    split
    next hh => exact ⟨fun hc => ⟨hc, rfl⟩, fun hn => absurd hh hn⟩
    · exact hsame c rfl rfl
  | write bytes =>
    unfold Channel.write
    split
    · exact ⟨fun hc => ⟨hc, rfl⟩, fun _ => rfl⟩
    next hc => exact ⟨fun h => absurd h hc, fun _ => rfl⟩
  | read n =>
    unfold Channel.read
    dsimp only
    split <;> exact hsame _ rfl rfl
  | finishReading =>
    unfold Channel.finishReading
    split <;> exact hsame _ rfl rfl
  | giveNotice =>
    unfold Channel.giveNotice
    split <;> exact hsame _ rfl rfl
  | look r _ =>
    rw [look_snd]
    exact hsame _ rfl rfl
  | finish | finishFailing =>
    rw [finish_snd]
    exact hsame _ rfl rfl

/-- A drain that was seen to finish, or that was let go, stays so. -/
theorem turn_hold (s : Supervisor) (t : Turn) (k : Stream) (hs : Sound s)
    (h : (s.channel k).hold ≠ .held) : ((s.turn t).channel k).hold = (s.channel k).hold := by
  obtain ⟨r, hc, -⟩ := turn_change s t k hs
  exact (change_keeps _ _ _ r hc).2 h

theorem turn_closed (s : Supervisor) (t : Turn) (k : Stream) (hs : Sound s)
    (hc : (s.channel k).closed = true) :
    ((s.turn t).channel k).closed = true ∧ s.adds k t = [] := by
  obtain ⟨r, h, -⟩ := turn_change s t k hs
  exact (change_keeps _ _ _ r h).1 hc

theorem output_closed (s : Supervisor) (ts : List Turn) (k : Stream) (hs : Sound s)
    (hc : (s.channel k).closed = true) : output k s ts = [] := by
  induction ts generalizing s with
  | nil => rfl
  | cons t ts ih =>
    obtain ⟨hclosed, hadds⟩ := turn_closed s t k hs hc
    rw [output, hadds, ih _ (turn_sound s t hs) hclosed, List.append_nil]

/-- A channel that has not failed accounts for the bytes of its stream. -/
theorem accounts_of_change (c d : Channel) (given text : String) (written added : List UInt8)
    (h : c.Accounts given written) (hd : Change c d added (.ok text)) :
    d.Accounts (given ++ text) (written ++ added) := by
  cases hd with
  | look r hl => simpa using Channel.accounts_look h text hl
  | still => simpa using h
  | write bytes => simpa using Channel.accounts_write h bytes
  | close => simpa using Channel.accounts_close h
  | read n => simpa using Channel.accounts_read h n
  | finishReading => simpa using Channel.accounts_finishReading h
  | giveNotice => simpa using Channel.accounts_giveNotice h
  | reap _ => simpa using Channel.accounts_reap h
  | abandon => simpa using Channel.accounts_abandon h
  | finish hf => simpa using Channel.accounts_finish h hf

theorem spoilt_of_change (c d : Channel) (given : String) (written added : List UInt8)
    (f : Fault) (h : c.Accounts given written) (hd : Change c d added (.error f)) :
    d.Spoilt given (written ++ added) := by
  cases hd with
  | look r hl => simpa using Channel.spoilt_look h f hl
  | finishFailing _ hf hq hp hc => simpa using Channel.spoilt_finish h f hf hq hp hc

/-- A turn keeps the account of a stream, unless a call fails at the stream. -/
theorem turn_accounts (s : Supervisor) (t : Turn) (k : Stream) (written : List UInt8)
    (hs : Sound s) (h : (s.channel k).Accounts (s.delivered k) written) :
    (((s.turn t).channel k).Accounts ((s.turn t).delivered k) (written ++ s.adds k t) ∧
      ((s.turn t).FailedOn k → s.FailedOn k)) ∨
    ((s.turn t).FailedOn k ∧
      ((s.turn t).channel k).Spoilt ((s.turn t).delivered k) (written ++ s.adds k t)) := by
  obtain ⟨r, hc, hshows⟩ := turn_change s t k hs
  cases r with
  | ok text =>
    obtain ⟨hd, hf⟩ := hshows
    rw [hd]
    exact .inl ⟨accounts_of_change _ _ _ _ _ _ h hc, hf⟩
  | error f =>
    obtain ⟨hd, -, hf⟩ := hshows
    rw [hd]
    exact .inr ⟨⟨f, hf⟩, spoilt_of_change _ _ _ _ _ f h hc⟩

/-- No call fails at a stream that does not decode, at the beginning or during the turns. -/
def Unfailed (s : Supervisor) : List Turn → Prop
  | [] => ∀ k, ¬ s.FailedOn k
  | t :: ts => (∀ k, ¬ s.FailedOn k) ∧ Unfailed (s.turn t) ts

instance decideUnfailed (s : Supervisor) (ts : List Turn) : Decidable (s.Unfailed ts) :=
  match ts with
  | [] => inferInstanceAs (Decidable (∀ k, ¬ s.FailedOn k))
  | t :: ts =>
    have := decideUnfailed (s.turn t) ts
    inferInstanceAs (Decidable ((∀ k, ¬ s.FailedOn k) ∧ Unfailed (s.turn t) ts))

/-- No call fails at the stream, at the beginning or during the turns. -/
def UnfailedOn (k : Stream) (s : Supervisor) : List Turn → Prop
  | [] => ¬ s.FailedOn k
  | t :: ts => ¬ s.FailedOn k ∧ UnfailedOn k (s.turn t) ts

instance decideUnfailedOn (k : Stream) (s : Supervisor) (ts : List Turn) :
    Decidable (s.UnfailedOn k ts) :=
  match ts with
  | [] => inferInstanceAs (Decidable (¬ s.FailedOn k))
  | t :: ts =>
    have := decideUnfailedOn k (s.turn t) ts
    inferInstanceAs (Decidable (¬ s.FailedOn k ∧ UnfailedOn k (s.turn t) ts))

theorem unfailedOn_of_unfailed (k : Stream) (s : Supervisor) (ts : List Turn)
    (h : s.Unfailed ts) : s.UnfailedOn k ts := by
  induction ts generalizing s with
  | nil => exact h k
  | cons t ts ih => exact ⟨h.1 k, ih _ h.2⟩

/-- The account of a stream at which no call has failed. -/
theorem live_accounts_on (s : Supervisor) (ts : List Turn) (k : Stream) (written : List UInt8)
    (hs : Sound s) (h : (s.channel k).Accounts (s.delivered k) written)
    (hu : s.UnfailedOn k ts) :
    ((s.live ts).channel k).Accounts ((s.live ts).delivered k) (written ++ output k s ts) := by
  induction ts generalizing s written with
  | nil => simpa [output] using h
  | cons t ts ih =>
    obtain ⟨-, hu⟩ := hu
    have hnow : ¬ (s.turn t).FailedOn k := by
      cases ts with
      | nil => exact hu
      | cons _ _ => exact hu.1
    rcases turn_accounts s t k written hs h with ⟨hacc, -⟩ | ⟨hf, -⟩
    · have hrest := ih (s.turn t) (written ++ s.adds k t) (turn_sound s t hs) hacc hu
      simpa [output] using hrest
    · exact absurd hf hnow

theorem live_accounts (s : Supervisor) (ts : List Turn) (k : Stream) (written : List UInt8)
    (hs : Sound s) (h : (s.channel k).Accounts (s.delivered k) written)
    (hu : s.Unfailed ts) :
    ((s.live ts).channel k).Accounts ((s.live ts).delivered k) (written ++ output k s ts) :=
  live_accounts_on s ts k written hs h (unfailedOn_of_unfailed k s ts hu)

theorem accounts_start (k : Stream) :
    (({} : Supervisor).channel k).Accounts (({} : Supervisor).delivered k) [] := by
  cases k <;> exact ⟨by simp [Supervisor.channel, delivered], Decoder.sound_empty⟩

theorem turn_spoilt (s : Supervisor) (t : Turn) (k : Stream) (given : String)
    (written : List UInt8) (hs : Sound s) (h : (s.channel k).Spoilt given written) :
    ((s.turn t).channel k).Spoilt given (written ++ s.adds k t) := by
  cases h with
  | broken rest h =>
    rw [List.append_assoc]
    refine .broken _ fun more => ?_
    simpa using h (s.adds k t ++ more)
  | unfinished rest h hc =>
    obtain ⟨hc', hadds⟩ := turn_closed s t k hs hc
    rw [hadds, List.append_nil]
    exact .unfinished rest h hc'

/-- A spoilt stream stays spoilt. -/
theorem live_spoilt (s : Supervisor) (ts : List Turn) (k : Stream) (given : String)
    (written : List UInt8) (hs : Sound s) (h : (s.channel k).Spoilt given written) :
    ((s.live ts).channel k).Spoilt given (written ++ output k s ts) := by
  induction ts generalizing s written with
  | nil => simpa [output] using h
  | cons t ts ih =>
    have hrest := ih (s.turn t) _ (turn_sound s t hs) (turn_spoilt s t k given written hs h)
    simpa [output] using hrest

theorem spoilt_not_isText (c : Channel) (given : String) (written : List UInt8)
    (h : c.Spoilt given written) : ¬ IsText written := by
  cases h with
  | broken rest h => simpa using h []
  | unfinished rest h _ => exact not_isText_of_unfinished given rest h

end CellRunner.Supervisor
