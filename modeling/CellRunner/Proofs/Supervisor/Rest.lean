import CellRunner.Proofs.Supervisor.Wait

/-!
# After the last look

A drain that the owner has let go of, or has seen to finish, reads no more. So what the owner
finds at its last look at a stream is all that there will ever be in the queue, and a wait that
comes to an exit code has handed on whatever was read, also when its patience has ended.
-/

set_option autoImplicit false

namespace CellRunner.Supervisor
open Utf8

/-- The drain does not read, unless the owner still holds it. -/
def Channel.Retires (c : Channel) : Prop := c.isReleased = true → c.drain ≠ .reading

theorem retires_of_change (c d : Channel) (added : List UInt8) (r : Except Fault String)
    (hs : c.Sound) (hc : c.Retires) (h : Change c d added r) : d.Retires := by
  have hsame (d : Channel) (hh : d.hold = c.hold) (hd : d.drain = c.drain) : d.Retires := by
    simpa [Channel.Retires, Channel.isReleased, hh, hd] using hc
  cases h with
  | still => exact hc
  | write bytes =>
    unfold Channel.write
    split
    · exact hc
    · exact hsame _ rfl rfl
  | close => exact hsame _ rfl rfl
  | read n =>
    unfold Channel.read
    dsimp only
    split
    · simp [Channel.Retires]
    · exact hc
  | finishReading =>
    unfold Channel.finishReading
    split
    · simp [Channel.Retires]
    · exact hc
  | giveNotice =>
    unfold Channel.giveNotice
    split
    next hsent =>
      -- a notice of a chunk is still owed only by a drain that was not seen to finish
      intro hrel
      cases hh : c.hold with
      | held => simp [Channel.isReleased, hh] at hrel
      | reaped => simp [hs.reaped hh] at hsent
      | abandoned => simp [Channel.resumed, hh]
    · simp [Channel.Retires]
    · exact hc
  | reap h =>
    have hfinished : c.drain = .finished := by
      simp only [Channel.isReapable, Bool.and_eq_true, decide_eq_true_eq] at h
      exact h.2
    simp [Channel.Retires, Channel.reap, hfinished]
  | abandon =>
    unfold Channel.abandon
    split
    · by_cases hd : c.drain = .reading <;> simp [Channel.Retires, hd]
    · exact hc
  | look r _ =>
    rw [look_snd]
    exact hsame _ rfl rfl
  | finish | finishFailing =>
    rw [finish_snd]
    exact hsame _ rfl rfl

/-- Only a drain that reads puts anything into the queue. -/
theorem queue_of_change (c d : Channel) (added : List UInt8) (r : Except Fault String)
    (hd : c.drain ≠ .reading) (hq : c.queue = []) (h : Change c d added r) : d.queue = [] := by
  cases h with
  | still | close | reap => exact hq
  | write bytes =>
    unfold Channel.write
    split <;> exact hq
  | read n => simpa [Channel.read, hd] using hq
  | finishReading =>
    unfold Channel.finishReading
    split <;> exact hq
  | giveNotice =>
    unfold Channel.giveNotice
    split <;> exact hq
  | abandon =>
    unfold Channel.abandon
    split <;> exact hq
  | look r _ => rw [look_snd]
  | finish | finishFailing =>
    rw [finish_snd]
    exact hq

/-- The last look at the stream is over. -/
def Past (s : Supervisor) (k : Stream) : Prop :=
  s.point.isPast k = true ∨ ∃ code, s.answer = some (.waited code)

/-- What the last look leaves behind. -/
structure Rests (s : Supervisor) : Prop where
  retires : ∀ k, (s.channel k).Retires
  emptied : ∀ k, s.Past k → (s.channel k).queue = []

theorem rests_start : Rests {} where
  retires k := by cases k <;> simp [Supervisor.channel, Channel.Retires, Channel.isReleased]
  emptied k := by cases k <;> simp [Supervisor.channel]

theorem released_of_past (s : Supervisor) (k : Stream) (hs : Sound s) (h : s.Past k) :
    (s.channel k).isReleased = true := by
  obtain h | ⟨code, h⟩ := h
  · refine hs.point.last ?_ k
    unfold Point.isPast at h
    split at h <;> simp_all [Point.isLast]
  · exact ((hs.waited code h).2 k).1

/-- A look brings the owner past the last look at no other stream. -/
theorem past_looked (s : Supervisor) (j k : Stream) (e : Errand) (hp : s.point = lookPoint j e)
    (hj : j ≠ k) (h : (s.looked j e).Past k) : s.Past k := by
  obtain h | ⟨code, h⟩ := h
  · cases j <;> cases k <;> first | contradiction | skip
    all_goals cases e <;> simp_all [looked, afterFlush, goTo, reply, lookPoint, Point.isPast, Past]
  · obtain ha | ha := answer_looked s j e
    · exact .inr ⟨code, ha ▸ h⟩
    · simp [ha] at h

/-- The owner comes past the last look only by looking. -/
theorem past_turn (s : Supervisor) (t : Turn) (k : Stream) (h : (s.turn t).Past k) :
    s.Past k ∨ t = .move .advance ∧ s.point = lookPoint k .last ∧
      ((s.turn t).channel k).queue = [] := by
  have he := turn_effect s t
  generalize s.turn t = u at he h
  have hsame (hp : u.point = s.point) (ha : u.answer = s.answer) : s.Past k := by
    simpa [Past, hp, ha] using h
  have hnever (hp : u.point.isPast k = false) (ha : ∀ code, u.answer = some (.waited code) →
      s.answer = some (.waited code)) : s.Past k := by
    obtain h | ⟨code, h⟩ := h
    · simp [hp] at h
    · exact .inr ⟨code, ha code h⟩
  cases he with
  | nothing => exact .inl h
  | writes | closes | reads | ends | notifies => exact .inl (hsame (by simp) (by simp))
  | exits | loses | breaksInput => exact .inl (hsame rfl rfl)
  | takesSome | hearsListening | hearsLingering | seesRunning | seesUndrained | tires
  | seesDrained => exact .inl (hnever (by cases k <;> rfl) fun _ => id)
  | takesLast | learnsBroken | learnsError | learnsLoss | seesLoss | polls | pollsLoss
  | closesInput | looksFailing | finishesFailing =>
    exact .inl (hnever (by cases k <;> rfl) (by simp [reply, fail]))
  | learnsExit code | seesExit code =>
    exact .inl (hnever (by cases k <;> rfl) (by simp [goTo, answer_record]))
  | reaps => exact .inl (hnever (by cases k <;> rfl) (by simp [goTo]))
  | looks j e text hp =>
    obtain ⟨hc, -⟩ := channel_looked ((s.setChannel j (s.channel j).look.2).deliver j text) j k e
    by_cases hj : j = k
    · subst hj
      by_cases he : e = .last
      · exact .inr ⟨rfl, he ▸ hp, by rw [hc, channel_deliver, channel_setChannel, look_snd]⟩
      · refine .inl (hnever ?_ fun code ha => ?_)
        · cases j <;> cases e <;> first | contradiction | rfl
        · obtain hd | hd :=
            answer_looked ((s.setChannel j (s.channel j).look.2).deliver j text) j e
          · rw [hd, deliver_eq] at ha
            simpa using ha
          · simp [hd] at ha
    · have hpast := past_looked _ j k e (by rw [deliver_eq]; simpa using hp) hj h
      rw [deliver_eq] at hpast
      exact .inl (by simpa [Past] using hpast)
  | finishes j hp =>
    exact .inl (.inl (by cases j <;> cases k <;> simp [hp, finishPoint, Point.isPast]))
  | begins c p _ hb =>
    refine .inl (hnever ?_ (by simp))
    obtain ⟨-, rfl⟩ | ⟨-, rfl⟩ | ⟨bytes, -, rfl⟩ := hb <;> cases k <;> rfl
  | writesNothing bytes a _ ha =>
    refine .inl (hnever (by cases k <;> rfl) ?_)
    obtain rfl | rfl := ha <;> simp [reply]

theorem rests_turn (s : Supervisor) (t : Turn) (hs : Sound s) (h : s.Rests) :
    (s.turn t).Rests where
  retires k := by
    obtain ⟨r, hc, -⟩ := turn_change s t k hs
    exact retires_of_change _ _ _ r (hs.channel k) (h.retires k) hc
  emptied k hpast := by
    obtain hpast | ⟨-, -, hempty⟩ := past_turn s t k hpast
    · obtain ⟨r, hc, -⟩ := turn_change s t k hs
      have hstill := h.retires k (released_of_past s k hs hpast)
      exact queue_of_change _ _ _ r hstill (h.emptied k hpast) hc
    · exact hempty

theorem rests_live (s : Supervisor) (ts : List Turn) (hs : Sound s) (h : s.Rests) :
    (s.live ts).Rests := by
  induction ts generalizing s with
  | nil => exact h
  | cons t ts ih => exact ih _ (turn_sound s t hs) (rests_turn s t hs h)

theorem rests_run (s : Supervisor) (moves : List Move) (hs : Sound s) (h : s.Rests) :
    (s.run moves).Rests := by
  rw [← live_moves]
  exact rests_live s _ hs h

theorem sink_deliver (s : Supervisor) (k : Stream) (text : String) :
    s.sink <+: (s.deliver k text).sink := by
  unfold deliver
  split
  · exact List.prefix_refl _
  · exact List.prefix_append _ _

theorem sink_record (s : Supervisor) (code : ExitCode) : (s.record code).sink = s.sink := by
  unfold record
  split <;> rfl

/-- Only a look that gives a text hands anything on. -/
theorem sink_turn (s : Supervisor) (t : Turn) :
    (s.turn t).sink = s.sink ∨
      ∃ k text, (s.channel k).look.1 = .ok text ∧ (s.turn t).sink = (s.deliver k text).sink := by
  have he := turn_effect s t
  generalize s.turn t = u at he
  cases he with
  | nothing => exact .inl rfl
  | looks k e text _ hl =>
    refine .inr ⟨k, text, hl, ?_⟩
    rw [(channel_looked _ k k e).2]
    unfold deliver
    split <;> simp
  | finishes k => exact .inl (by rw [(channel_finished _ k k).2, sink_setChannel])
  | learnsExit code | seesExit code => exact .inl (sink_record s code)
  | _ => exact .inl (by simp [reply, fail, goTo])

/-- What was handed on stays handed on. -/
theorem turn_sink (s : Supervisor) (t : Turn) : s.sink <+: (s.turn t).sink := by
  obtain h | ⟨k, text, -, h⟩ := sink_turn s t
  · exact h ▸ List.prefix_refl _
  · exact h ▸ sink_deliver s k text

theorem run_sink (s : Supervisor) (moves : List Move) : s.sink <+: (s.run moves).sink := by
  induction moves generalizing s with
  | nil => exact List.prefix_refl _
  | cons m moves ih => exact (turn_sink s (.move m)).trans (ih _)

/-- A call that begins keeps the account of both streams. -/
theorem stands_begin (s : Supervisor) (c : Call) (written : Stream → List UInt8) (hs : Sound s)
    (h : ∀ k, ¬ s.FailedOn k ∧ (s.channel k).Accounts (s.delivered k) (written k)) :
    (s.begin c).Stands written := by
  have hfresh (k : Stream) : ¬ (s.begin c).FailedOn k := by
    have he := begin_effect s c
    generalize s.begin c = u at he
    cases he with
    | nothing => exact (h k).1
    | writesNothing bytes a _ ha => obtain rfl | rfl := ha <;> simp [FailedOn, reply]
    | _ => simp [FailedOn, reply, fail]
  refine .inl fun k => ⟨hfresh k, ?_⟩
  obtain ⟨hacc, -⟩ | ⟨hf, -⟩ := turn_accounts s (.call c) k _ hs (h k).2
  · simpa [adds, turn] using hacc
  · exact absurd hf (hfresh k)

/-- A wait that comes to an exit code has handed on all that was read, whether or not it has seen
the drains finish. -/
theorem waited_read (s : Supervisor) (code : ExitCode) (written : Stream → List UInt8)
    (hr : s.Rests) (h : s.Stands written) (ha : s.answer = some (.waited code)) (k : Stream)
    (htext : IsText (written k)) (hpipe : (s.channel k).pipe = []) :
    encode (s.delivered k) = written k := by
  obtain h | ⟨-, j, given, ⟨f, hf⟩, -⟩ := h
  rotate_left
  · simp [ha] at hf
  have hacc := (h k).2
  have hbytes := hacc.bytes
  simp only [hr.emptied k (.inr ⟨code, ha⟩), hpipe, List.flatten_nil, List.append_nil] at hbytes
  obtain hheld | hheld := hacc.decoder
  · simpa [hheld] using hbytes
  · rw [← hbytes] at htext
    exact absurd htext (not_isText_of_unfinished _ _ hheld)

end CellRunner.Supervisor
