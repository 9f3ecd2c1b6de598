import CellRunner.Proofs.Supervisor.Life

/-!
# What holds in every state of a life

The drain of a channel that was seen to finish has met the end of its stream. The owner has
recorded the exit wherever it no longer waits for it, has let go of both drains before its
last flush, and has emptied the queues of finished streams when it checks their ends.
-/

set_option autoImplicit false

namespace CellRunner.Supervisor

/-- A drain meets the end of a stream when nothing is unread and no writer is left, and it is
seen to finish only after that. -/
structure Channel.Sound (c : Channel) : Prop where
  ended : c.drain = .ended ∨ c.drain = .finished → c.pipe = [] ∧ c.closed = true
  reaped : c.hold = .reaped → c.drain = .finished

/-- The owner is past the loop that waits for the exit. -/
def Point.isSettled : Point → Bool
  | .lookOut .settled | .lookErr .settled | .lookOut .last | .lookErr .last => true
  | .checkDrained | .lingering | .finishOut | .finishErr => true
  | _ => false

/-- The owner is past the loop that waits for the drains. -/
def Point.isLast : Point → Bool
  | .lookOut .last | .lookErr .last | .finishOut | .finishErr => true
  | _ => false

/-- The last flush has looked at the stream. -/
def Point.isPast : Stream → Point → Bool
  | .stdout, .lookErr .last => true
  | _, .finishOut | _, .finishErr => true
  | _, _ => false

/-- What the owner relies on at a point. -/
structure Admits (s : Supervisor) (p : Point) : Prop where
  settled : p.isSettled = true → s.recorded ≠ none
  lingers : p = .lingering → ∃ k, (s.channel k).isReleased = false
  last : p.isLast = true → ∀ k, (s.channel k).isReleased = true
  emptied : ∀ k, p.isPast k = true → (s.channel k).hold = .reaped → (s.channel k).queue = []
  checked : p = .finishErr → (s.channel .stdout).hold = .reaped →
    (s.channel .stdout).decoder.held = []

structure Sound (s : Supervisor) : Prop where
  channel : ∀ k, (s.channel k).Sound
  calm : s.point ≠ .idle → s.answer = none
  exited : ∀ code, s.recorded = some code → s.child = .exited code
  released : ∀ k, (s.channel k).isReleased = true → s.recorded ≠ none
  point : s.Admits s.point
  waited : ∀ code, s.answer = some (.waited code) → s.recorded = some code ∧
    ∀ k, (s.channel k).isReleased = true ∧ ((s.channel k).hold = .reaped →
      (s.channel k).queue = [] ∧ (s.channel k).decoder.held = [])

theorem admits_plain (s : Supervisor) (p : Point) (h : p.isSettled = false) : s.Admits p where
  settled hp := by simp [h] at hp
  lingers hp := by simp [hp, Point.isSettled] at h
  last hp := by
    unfold Point.isLast at hp
    split at hp <;> simp_all [Point.isSettled]
  emptied k hp := by
    unfold Point.isPast at hp
    split at hp <;> simp_all [Point.isSettled]
  checked hp := by simp [hp, Point.isSettled] at h

theorem sound_start : Sound {} where
  channel k := by cases k <;> exact ⟨by simp [Supervisor.channel], by simp [Supervisor.channel]⟩
  calm := by simp
  exited := by simp
  released k := by cases k <;> simp [Supervisor.channel, Channel.isReleased]
  point := admits_plain _ _ rfl
  waited := by simp

/-- A step behind the owner's back: a queue may grow, but not that of a reaped channel. -/
theorem sound_behind (s u : Supervisor) (h : Sound s) (hp : u.point = s.point)
    (ha : u.answer = s.answer) (hr : u.recorded = s.recorded)
    (hc : s.child ≠ .running → u.child = s.child)
    (hk : ∀ k, (u.channel k).Sound ∧ (u.channel k).hold = (s.channel k).hold ∧
      (u.channel k).decoder = (s.channel k).decoder ∧
      ((s.channel k).hold = .reaped → (u.channel k).queue = (s.channel k).queue)) :
    Sound u where
  channel k := (hk k).1
  calm := by rw [hp, ha]; exact h.calm
  exited code hu := by
    have hs := h.exited code (hr ▸ hu)
    rw [hc (by simp [hs]), hs]
  released k := by simpa [Channel.isReleased, (hk k).2.1, hr] using h.released k
  point := by
    have hb := h.point
    refine ⟨?_, ?_, ?_, ?_, ?_⟩
    · simpa [hp, hr] using hb.settled
    · simpa [hp, Channel.isReleased, hk] using hb.lingers
    · simpa [hp, Channel.isReleased, hk] using hb.last
    · intro k hpast hreaped
      rw [hp] at hpast
      rw [(hk k).2.1] at hreaped
      rw [(hk k).2.2.2 hreaped]
      exact hb.emptied k hpast hreaped
    · simpa [hp, hk] using hb.checked
  waited code hw := by
    obtain ⟨hrec, hall⟩ := h.waited code (ha ▸ hw)
    refine ⟨hr ▸ hrec, fun k => ?_⟩
    obtain ⟨hrel, hempty⟩ := hall k
    refine ⟨by simpa [Channel.isReleased, (hk k).2.1] using hrel, fun hreaped => ?_⟩
    rw [(hk k).2.1] at hreaped
    rw [(hk k).2.2.2 hreaped, (hk k).2.2.1]
    exact hempty hreaped

theorem sound_goTo (s : Supervisor) (p : Point) (h : Sound s) (ha : s.answer = none)
    (hp : s.Admits p) : Sound (s.goTo p) where
  channel := h.channel
  calm _ := ha
  exited := h.exited
  released := h.released
  point := ⟨hp.settled, hp.lingers, hp.last, hp.emptied, hp.checked⟩
  waited code hw := by
    have hw' : s.answer = some (.waited code) := hw
    simp [ha] at hw'

theorem sound_reply (s : Supervisor) (a : Answer) (h : Sound s)
    (ha : ∀ code, a = .waited code → s.recorded = some code ∧
      ∀ k, (s.channel k).isReleased = true ∧ ((s.channel k).hold = .reaped →
        (s.channel k).queue = [] ∧ (s.channel k).decoder.held = [])) : Sound (s.reply a) where
  channel := h.channel
  calm hp := absurd rfl hp
  exited := h.exited
  released := h.released
  point := admits_plain _ _ rfl
  waited code hw := ha code (by simpa [reply] using hw)

theorem sound_record (s : Supervisor) (code : ExitCode) (h : Sound s)
    (hc : s.recorded = some code ∨ s.recorded = none ∧ s.child = .exited code) :
    Sound (s.record code) ∧ (s.record code).recorded = some code := by
  obtain hr | ⟨hr, hc⟩ := hc
  · simpa [record, hr] using h
  have hu : s.record code = { s with recorded := some code } := by simp [record, hr]
  refine ⟨⟨?_, ?_, ?_, ?_, ?_, ?_⟩, by rw [hu]⟩
  · simpa using h.channel
  · rw [hu]
    exact h.calm
  · intro n hn
    have hn' : code = n := by simpa [hu] using hn
    rw [hu, ← hn']
    exact hc
  · intro k _
    simp [hu]
  · have hb := h.point
    have hp : (s.record code).point = s.point := by rw [hu]
    rw [hp]
    exact ⟨by simp [hu], by simpa using hb.lingers, by simpa using hb.last,
      by simpa using hb.emptied, by simpa using hb.checked⟩
  · intro n hn
    have hn' : s.answer = some (.waited n) := by simpa [hu] using hn
    simpa [hr] using (h.waited n hn').1

theorem look_snd (c : Channel) :
    c.look.2 = { c with queue := [], decoder := c.look.2.decoder } := by
  by_cases h : c.queue.flatten.isEmpty <;> simp [Channel.look, h]

theorem finish_snd (c : Channel) : c.finish.2 = { c with decoder := c.finish.2.decoder } := by
  by_cases h : c.hold = .abandoned
  · have hc : c.finish.2 = c := by simp [Channel.finish, h]
    rw [hc]
  · simp [Channel.finish, h]

theorem finish_empty (c : Channel) (h : c.hold ≠ .abandoned) :
    c.finish.2.decoder.held = [] := by
  simp only [Channel.finish, h, if_false, Decoder.finish]
  split <;> rfl

/-- A state in which a call is still going on has no answer to account for. -/
theorem sound_active (u : Supervisor) (ha : u.answer = none) (hk : ∀ k, (u.channel k).Sound)
    (hc : ∀ code, u.recorded = some code → u.child = .exited code)
    (hr : ∀ k, (u.channel k).isReleased = true → u.recorded ≠ none)
    (hp : u.Admits u.point) : Sound u :=
  ⟨hk, fun _ => ha, hc, hr, hp, by simp [ha]⟩

/-- The owner changes one channel, but neither its drain nor what is unread. -/
theorem sound_touch (s : Supervisor) (k : Stream) (c : Channel) (h : Sound s)
    (ha : s.answer = none) (hk : c.Sound) (hh : c.hold = (s.channel k).hold)
    (hq : (s.channel k).queue = [] → c.queue = [])
    (hp : s.point ≠ .finishErr ∨ k = .stderr) : Sound (s.setChannel k c) := by
  have hother (j : Stream) (hj : j ≠ k) : (s.setChannel k c).channel j = s.channel j :=
    channel_setChannel_ne s k j c hj
  have hold (j : Stream) : ((s.setChannel k c).channel j).hold = (s.channel j).hold := by
    by_cases hj : j = k
    · rw [hj, channel_setChannel, hh]
    · rw [hother j hj]
  have hb := h.point
  refine sound_active _ (by simpa using ha) (fun j => ?_) (by simpa using h.exited)
    (fun j => ?_) ⟨?_, ?_, ?_, ?_, ?_⟩
  · by_cases hj : j = k
    · rw [hj, channel_setChannel]
      exact hk
    · rw [hother j hj]
      exact h.channel j
  · simpa [Channel.isReleased, hold] using h.released j
  · simpa using hb.settled
  · simpa [Channel.isReleased, hold] using hb.lingers
  · simpa [Channel.isReleased, hold] using hb.last
  · intro j hpast hreaped
    rw [hold] at hreaped
    have hempty := hb.emptied j (by simpa using hpast) hreaped
    by_cases hj : j = k
    · subst hj
      rw [channel_setChannel]
      exact hq hempty
    · rw [hother j hj]
      exact hempty
  · intro hpt hreaped
    have hpt' : s.point = .finishErr := by simpa using hpt
    obtain rfl : k = .stderr := hp.resolve_left (not_not_intro hpt')
    rw [hother .stdout (by simp)] at hreaped ⊢
    exact hb.checked hpt' hreaped

theorem sound_deliver (s : Supervisor) (k : Stream) (text : String) (h : Sound s) :
    Sound (s.deliver k text) := by
  rw [deliver_eq]
  refine sound_behind s _ h rfl rfl rfl (fun _ => rfl) fun j => ?_
  rw [channel_congr s _ j rfl rfl]
  exact ⟨h.channel j, rfl, rfl, fun _ => rfl⟩

theorem sound_look (s : Supervisor) (k : Stream) (e : Errand) (h : Sound s)
    (hp : s.point = lookPoint k e) : Sound (s.setChannel k (s.channel k).look.2) := by
  have hl := look_snd (s.channel k)
  have hs := h.channel k
  refine sound_touch s k _ h (h.calm ?_) ?_ ?_ (fun _ => ?_) (.inl ?_)
  · cases k <;> simp [hp, lookPoint]
  · rw [hl]
    exact ⟨hs.ended, hs.reaped⟩
  · rw [hl]
  · rw [hl]
  · cases k <;> simp [hp, lookPoint]

theorem sound_finish (s : Supervisor) (k : Stream) (h : Sound s)
    (hp : s.point = finishPoint k) : Sound (s.setChannel k (s.channel k).finish.2) := by
  have hl := finish_snd (s.channel k)
  have hs := h.channel k
  refine sound_touch s k _ h (h.calm ?_) ?_ ?_ ?_ ?_
  · cases k <;> simp [hp, finishPoint]
  · rw [hl]
    exact ⟨hs.ended, hs.reaped⟩
  · rw [hl]
  · rw [hl]
    exact id
  · cases k <;> simp [hp, finishPoint]

/-- After the look at a stream its queue is empty, which the last flush relies on. -/
theorem sound_looked (s : Supervisor) (k : Stream) (e : Errand) (h : Sound s)
    (hp : s.point = lookPoint k e) (hq : (s.channel k).queue = []) : Sound (s.looked k e) := by
  have hb := h.point
  rw [hp] at hb
  have ha : s.answer = none := h.calm (by cases k <;> simp [hp, lookPoint])
  cases k with
  | stdout =>
    refine sound_goTo s _ h ha ⟨?_, by simp, ?_, ?_, by simp⟩
    · intro he
      exact hb.settled (by cases e <;> exact he)
    · intro he
      exact hb.last (by cases e <;> exact he)
    · intro j hj _
      cases j with
      | stdout => exact hq
      | stderr => cases e <;> simp [Point.isPast] at hj
  | stderr =>
    cases e with
    | flush => exact sound_reply s .flushed h (by simp)
    | live => exact sound_goTo s .checkExit h ha (admits_plain s _ rfl)
    | settled =>
      exact sound_goTo s .checkDrained h ha ⟨fun _ => hb.settled rfl, by simp,
        by simp [Point.isLast], by simp [Point.isPast], by simp⟩
    | last =>
      refine sound_goTo s .finishOut h ha ⟨fun _ => hb.settled rfl, by simp,
        fun _ => hb.last rfl, ?_, by simp⟩
      intro j _ hreaped
      cases j with
      | stdout => exact hb.emptied .stdout rfl hreaped
      | stderr => exact hq

theorem sound_finished (s : Supervisor) (k : Stream) (h : Sound s)
    (hp : s.point = finishPoint k)
    (he : (s.channel k).hold = .reaped → (s.channel k).decoder.held = []) :
    Sound (s.finished k) := by
  have hb := h.point
  rw [hp] at hb
  have ha : s.answer = none := h.calm (by cases k <;> simp [hp, finishPoint])
  cases k with
  | stdout =>
    exact sound_goTo s .finishErr h ha ⟨fun _ => hb.settled rfl, by simp,
      fun _ => hb.last rfl, fun j _ => hb.emptied j (by cases j <;> rfl), fun _ => he⟩
  | stderr =>
    cases hr : s.recorded with
    | none => exact absurd hr (hb.settled rfl)
    | some code =>
      have hu : s.finished .stderr = s.reply (.waited code) := by simp [finished, conclude, hr]
      rw [hu]
      refine sound_reply s _ h fun n hn => ⟨by rw [hr, Answer.waited.inj hn], fun j => ?_⟩
      refine ⟨hb.last rfl j, fun hreaped => ⟨hb.emptied j (by cases j <;> rfl) hreaped, ?_⟩⟩
      cases j with
      | stdout => exact hb.checked rfl hreaped
      | stderr => exact he hreaped

/-- The steps of a process and of a drain leave alone what the owner has seen and taken. -/
structure Channel.Behind (c d : Channel) : Prop where
  sound : c.Sound → d.Sound
  hold : d.hold = c.hold
  decoder : d.decoder = c.decoder
  queue : c.Sound → c.hold = .reaped → d.queue = c.queue

theorem behind_write (c : Channel) (bytes : List UInt8) : c.Behind (c.write bytes) := by
  by_cases h : c.closed
  · rw [Channel.write, if_pos h]
    exact ⟨id, rfl, rfl, fun _ _ => rfl⟩
  · rw [Channel.write, if_neg h]
    exact ⟨fun hs => ⟨fun hd => absurd (hs.ended hd).2 h, hs.reaped⟩, rfl, rfl, fun _ _ => rfl⟩

theorem behind_close (c : Channel) : c.Behind c.close :=
  ⟨fun hs => ⟨fun hd => ⟨(hs.ended hd).1, rfl⟩, hs.reaped⟩, rfl, rfl, fun _ _ => rfl⟩

theorem behind_read (c : Channel) (n : Nat) : c.Behind (c.read n) := by
  unfold Channel.read
  dsimp only
  split
  next h =>
    have hd : c.drain = .reading := by simp_all
    refine ⟨fun hs => ⟨by simp, fun hr => ?_⟩, rfl, rfl, fun hs hr => ?_⟩
    · have hf := hs.reaped hr
      simp [hd] at hf
    · have hf := hs.reaped hr
      simp [hd] at hf
  · exact ⟨id, rfl, rfl, fun _ _ => rfl⟩

theorem behind_finishReading (c : Channel) : c.Behind c.finishReading := by
  unfold Channel.finishReading
  split
  next h =>
    obtain ⟨⟨hd, hp⟩, hc⟩ : (c.drain = .reading ∧ c.pipe = []) ∧ c.closed = true := by
      simpa using h
    refine ⟨fun hs => ⟨fun _ => ⟨hp, hc⟩, fun hr => ?_⟩, rfl, rfl, fun _ _ => rfl⟩
    have hf := hs.reaped hr
    simp [hd] at hf
  · exact ⟨id, rfl, rfl, fun _ _ => rfl⟩

theorem behind_giveNotice (c : Channel) : c.Behind c.giveNotice := by
  unfold Channel.giveNotice
  split
  next hd =>
    refine ⟨fun hs => ⟨fun h => ?_, fun hr => ?_⟩, rfl, rfl, fun _ _ => rfl⟩
    · simp only [Channel.resumed] at h
      split at h <;> simp at h
    · have hf := hs.reaped hr
      simp [hd] at hf
  next hd =>
    exact ⟨fun hs => ⟨fun _ => hs.ended (.inl hd), fun _ => rfl⟩, rfl, rfl, fun _ _ => rfl⟩
  · exact ⟨id, rfl, rfl, fun _ _ => rfl⟩

theorem sound_reap (c : Channel) (h : c.Sound) (hr : c.isReapable = true) : c.reap.Sound := by
  obtain ⟨-, hd⟩ : c.hold = .held ∧ c.drain = .finished := by
    simpa [Channel.isReapable] using hr
  exact ⟨h.ended, fun _ => hd⟩

theorem sound_abandon (c : Channel) (h : c.Sound) :
    c.abandon.Sound ∧ c.abandon.isReleased = true := by
  unfold Channel.abandon
  split
  · refine ⟨⟨fun hd => ?_, by simp⟩, by simp [Channel.isReleased]⟩
    simp only at hd
    split at hd
    · simp at hd
    · exact h.ended hd
  next hh => exact ⟨h, by simpa [Channel.isReleased] using hh⟩

/-- A step behind the owner's back, in one channel. -/
theorem sound_setChannel (s : Supervisor) (k : Stream) (c : Channel) (h : Sound s)
    (hc : (s.channel k).Behind c) : Sound (s.setChannel k c) := by
  refine sound_behind s _ h (by simp) (by simp) (by simp) (by simp) fun j => ?_
  by_cases hj : j = k
  · subst hj
    rw [channel_setChannel]
    exact ⟨hc.sound (h.channel j), hc.hold, hc.decoder, hc.queue (h.channel j)⟩
  · rw [channel_setChannel_ne s k j c hj]
    exact ⟨h.channel j, rfl, rfl, fun _ => rfl⟩

/-- What the owner has no part in: the process, its input and the notices. -/
theorem sound_elsewhere (s u : Supervisor) (h : Sound s) (hp : u.point = s.point)
    (ha : u.answer = s.answer) (hr : u.recorded = s.recorded)
    (hc : s.child ≠ .running → u.child = s.child)
    (ho : u.stdout = s.stdout) (he : u.stderr = s.stderr) : Sound u :=
  sound_behind s u h hp ha hr hc fun k => by
    rw [channel_congr s u k ho he]
    exact ⟨h.channel k, rfl, rfl, fun _ => rfl⟩

theorem sound_exit_seen (s : Supervisor) (p : Point) (code : ExitCode) (h : Sound s)
    (hc : s.recorded = some code ∨ s.recorded = none ∧ s.child = .exited code)
    (ha : s.answer = none) (hp : p = .lookOut .live ∨ p = .lookOut .settled) :
    Sound ((s.record code).goTo p) := by
  obtain ⟨hu, hr⟩ := sound_record s code h hc
  have ha' : (s.record code).answer = none := by
    unfold record
    split <;> exact ha
  refine sound_goTo _ p hu ha' ?_
  obtain rfl | rfl := hp
  · exact admits_plain _ _ rfl
  · exact ⟨fun _ => by simp [hr], by simp, by simp [Point.isLast], by simp [Point.isPast],
      by simp⟩

theorem turn_sound (s : Supervisor) (t : Turn) (h : Sound s) : Sound (s.turn t) := by
  have he := turn_effect s t
  generalize s.turn t = u at he
  have hb := h.point
  cases he with
  | nothing => exact h
  | writes k bytes => exact sound_setChannel s k _ h (behind_write _ bytes)
  | closes k => exact sound_setChannel s k _ h (behind_close _)
  | reads k n => exact sound_setChannel s k _ h (behind_read _ n)
  | ends k => exact sound_setChannel s k _ h (behind_finishReading _)
  | notifies k _ =>
    have hu := sound_setChannel s k _ h (behind_giveNotice (s.channel k))
    exact sound_elsewhere _ _ hu rfl rfl rfl (fun _ => rfl) rfl rfl
  | exits code hc =>
    exact sound_elsewhere s _ h rfl rfl rfl (fun hn => absurd hc hn) rfl rfl
  | loses e hc =>
    exact sound_elsewhere s _ h rfl rfl rfl (fun hn => absurd hc hn) rfl rfl
  | breaksInput e _ => exact sound_elsewhere s _ h rfl rfl rfl (fun _ => rfl) rfl rfl
  | takesSome n rest i hp =>
    have hu := sound_elsewhere s { s with input := i } h rfl rfl rfl (fun _ => rfl) rfl rfl
    exact sound_goTo _ _ hu (h.calm (by simp [hp])) (admits_plain _ _ rfl)
  | takesLast n rest i hp =>
    have hu := sound_elsewhere s { s with input := i } h rfl rfl rfl (fun _ => rfl) rfl rfl
    exact sound_reply _ _ hu (by simp)
  | learnsBroken rest hp => exact sound_reply s _ h (by simp)
  | learnsError rest e hp => exact sound_reply s _ h (by simp)
  | hearsListening hp _ =>
    have hu := sound_elsewhere s { s with permit := false } h rfl rfl rfl (fun _ => rfl) rfl rfl
    exact sound_goTo _ (.lookOut .live) hu (h.calm (by simp [hp])) (admits_plain _ _ rfl)
  | hearsLingering hp _ =>
    have hu := sound_elsewhere s { s with permit := false } h rfl rfl rfl (fun _ => rfl) rfl rfl
    have hset := hu.point.settled (by simp [hp, Point.isSettled])
    exact sound_goTo _ (.lookOut .settled) hu (h.calm (by simp [hp]))
      ⟨fun _ => hset, by simp, by simp [Point.isLast], by simp [Point.isPast], by simp⟩
  | learnsExit code hp hc =>
    refine sound_exit_seen s _ code h ?_ (h.calm (by simp [hp])) (.inl rfl)
    cases hr : s.recorded with
    | none => exact .inr ⟨rfl, hc⟩
    | some n =>
      have hn := (h.exited n hr).symm.trans hc
      exact .inl (by rw [Child.exited.inj hn])
  | learnsLoss e hp _ => exact sound_reply s _ h (by simp)
  | reaps k hp hr =>
    have hset := hb.settled (by simp [hp, Point.isSettled])
    refine sound_active _ (by simpa [goTo] using h.calm (by simp [hp])) (fun j => ?_)
      (by simpa [goTo] using h.exited) (fun _ _ => by simpa [goTo] using hset)
      ⟨fun _ => by simpa [goTo] using hset, by simp [goTo], by simp [goTo, Point.isLast],
        by simp [goTo, Point.isPast], by simp [goTo]⟩
    by_cases hj : j = k
    · subst hj
      simpa using sound_reap _ (h.channel j) hr
    · simpa [channel_setChannel_ne s k j _ hj] using h.channel j
  | tires hp =>
    have hset := hb.settled (by simp [hp, Point.isSettled])
    have ho := sound_abandon s.stdout (h.channel .stdout)
    have he := sound_abandon s.stderr (h.channel .stderr)
    refine sound_active _ (h.calm (by simp [hp])) (fun j => ?_) h.exited (fun _ _ => hset)
      ⟨fun _ => hset, by simp, fun _ j => ?_, by simp [Point.isPast], by simp⟩
    · cases j with
      | stdout => exact ho.1
      | stderr => exact he.1
    · cases j with
      | stdout => exact ho.2
      | stderr => exact he.2
  | looks k e text hp hl =>
    have hu := sound_deliver _ k text (sound_look s k e h hp)
    refine sound_looked _ k e hu (by rw [deliver_eq]; simpa using hp) ?_
    rw [channel_deliver, channel_setChannel, look_snd]
  | looksFailing k e f hp hl => exact sound_reply _ _ (sound_look s k e h hp) (by simp)
  | seesExit code hp hc =>
    exact sound_exit_seen s _ code h hc (h.calm (by simp [hp])) (.inr rfl)
  | seesRunning hp hr hc =>
    exact sound_goTo s _ h (h.calm (by simp [hp])) (admits_plain _ _ rfl)
  | seesLoss e hp _ => exact sound_reply s _ h (by simp)
  | seesDrained hp hall =>
    have hset := hb.settled (by simp [hp, Point.isSettled])
    exact sound_goTo s _ h (h.calm (by simp [hp])) ⟨fun _ => hset, by simp, fun _ => hall,
      by simp [Point.isPast], by simp⟩
  | seesUndrained k hp hk =>
    have hset := hb.settled (by simp [hp, Point.isSettled])
    exact sound_goTo s _ h (h.calm (by simp [hp])) ⟨fun _ => hset, fun _ => ⟨k, hk⟩,
      by simp [Point.isLast], by simp [Point.isPast], by simp⟩
  | finishes k hp hf =>
    refine sound_finished _ k (sound_finish s k h hp) (by simpa using hp) fun hr => ?_
    rw [channel_setChannel] at hr ⊢
    refine finish_empty _ fun habandoned => ?_
    rw [finish_snd, habandoned] at hr
    simp at hr
  | finishesFailing k f hp hf => exact sound_reply _ _ (sound_finish s k h hp) (by simp)
  | begins c p hp hc =>
    have hk (k : Stream) : ({ s with answer := none, point := p } : Supervisor).channel k =
        s.channel k := channel_congr _ _ k rfl rfl
    refine sound_active _ rfl (fun k => hk k ▸ h.channel k) h.exited
      (fun k => hk k ▸ h.released k) (admits_plain _ p ?_)
    obtain ⟨-, rfl⟩ | ⟨-, rfl⟩ | ⟨bytes, -, rfl⟩ := hc <;> rfl
  | polls code hp hc =>
    refine sound_reply _ _ ?_ (by simp)
    obtain rfl | ⟨hr, n, rfl, hn⟩ := hc
    · exact h
    · have hu := (sound_record s n h (.inr ⟨hr, hn⟩)).1
      simpa [record, hr] using hu
  | pollsLoss e hp hc => exact sound_reply s _ h (by simp)
  | writesNothing bytes a hp ha =>
    exact sound_reply s a h (by obtain rfl | rfl := ha <;> simp)
  | closesInput hp =>
    have hu := sound_elsewhere s { s with input := { s.input with isOpen := false } } h
      rfl rfl rfl (fun _ => rfl) rfl rfl
    exact sound_reply _ _ hu (by simp)

theorem live_sound (s : Supervisor) (ts : List Turn) (h : Sound s) : Sound (s.live ts) := by
  induction ts generalizing s with
  | nil => exact h
  | cons t ts ih => exact ih _ (turn_sound s t h)

end CellRunner.Supervisor
