import CellRunner.Proofs.Supervisor.Flush

/-!
# Notices

Both drains give their notices in one permit, in which all notices that come before the owner
wakes are one. Each chunk is followed by a notice, and the owner takes the permit only when it goes
on to look at both queues. So an owner that sleeps while chunks are queued has the permit, or the
drain that queued them is about to give it.
-/

set_option autoImplicit false

namespace CellRunner.Supervisor

/-- The owner sleeps within a wait. -/
def Point.isAsleep : Point → Bool
  | .listening | .lingering => true
  | _ => false

/-- The owner looks at the stream before it sleeps in a wait. -/
def Point.looksAt : Stream → Point → Bool
  | _, .idle | _, .writing _ | _, .lookOut _ | .stderr, .lookErr _ => true
  | _, _ => false

/-- Chunks are queued, and the notice of the last of them was given. -/
def Channel.Told (c : Channel) : Prop := c.queue ≠ [] ∧ c.drain ≠ .sent

/-- The owner has not slept since it last looked at a queue that it was told of, or will not. -/
def Heeds (s : Supervisor) (k : Stream) : Prop :=
  (s.channel k).Told → s.permit = true ∨ s.point.looksAt k = true

namespace Channel

variable {c : Channel}

theorem told_write (bytes : List UInt8) (h : (c.write bytes).Told) : c.Told := by
  unfold write at h
  split at h
  · exact h
  · exact h

theorem told_read (n : Nat) (h : (c.read n).Told) : c.Told := by
  unfold read at h
  dsimp only at h
  split at h
  · exact absurd rfl h.2
  · exact h

theorem told_finishReading (h : c.finishReading.Told) : c.Told := by
  unfold finishReading at h
  split at h
  next hc =>
    have hd : c.drain = .reading := by simp_all
    exact ⟨h.1, by simp [hd]⟩
  · exact h

theorem not_told_look : ¬ c.look.2.Told := by
  intro h
  rw [look_snd] at h
  exact h.1 rfl

theorem told_finish (h : c.finish.2.Told) : c.Told := by
  rw [finish_snd] at h
  exact h

end Channel

theorem told_setChannel (s : Supervisor) (j k : Stream) (c : Channel)
    (hc : c.Told → (s.channel j).Told) (h : ((s.setChannel j c).channel k).Told) :
    (s.channel k).Told := by
  by_cases hj : j = k
  · subst hj
    rw [channel_setChannel] at h
    exact hc h
  · rwa [channel_setChannel_ne s j k c (Ne.symm hj)] at h

@[simp] theorem permit_setChannel (s : Supervisor) (k : Stream) (c : Channel) :
    (s.setChannel k c).permit = s.permit := by
  cases k <;> rfl

theorem permit_looked (s : Supervisor) (k : Stream) (e : Errand) :
    (s.looked k e).permit = s.permit := by
  cases k <;> cases e <;> rfl

theorem permit_finished (s : Supervisor) (k : Stream) : (s.finished k).permit = s.permit := by
  cases k with
  | stdout => rfl
  | stderr =>
    rw [finished, conclude]
    cases s.recorded <;> rfl

/-- A step after which the owner will look anyway. -/
theorem heeds_looking (u : Supervisor) (k : Stream) (h : u.point.looksAt k = true) :
    u.Heeds k := fun _ => .inr h

/-- A step that tells of no new chunk, takes no permit, and leaves a point from which the owner
would not have looked, or no point at all. -/
theorem heeds_still (s u : Supervisor) (k : Stream) (h : s.Heeds k)
    (hc : (u.channel k).Told → (s.channel k).Told) (hn : u.permit = s.permit)
    (hp : u.point = s.point ∨ s.point.looksAt k = false) : u.Heeds k := by
  intro htold
  obtain hpermit | hlooks := h (hc htold)
  · exact .inl (hn.trans hpermit)
  · obtain hp | hp := hp
    · exact .inr (hp ▸ hlooks)
    · simp [hp] at hlooks

theorem heeds_looks (s : Supervisor) (j k : Stream) (e : Errand) (text : String)
    (h : s.Heeds k) (hp : s.point = lookPoint j e) :
    (((s.setChannel j (s.channel j).look.2).deliver j text).looked j e).Heeds k := by
  by_cases hj : j = k
  · subst hj
    intro htold
    rw [(channel_looked _ _ _ _).1, channel_deliver, channel_setChannel] at htold
    exact absurd htold Channel.not_told_look
  · cases j with
    | stdout =>
      cases k with
      | stdout => contradiction
      | stderr => exact heeds_looking _ _ rfl
    | stderr =>
      refine heeds_still s _ k h (fun htold => ?_) ?_ (.inr ?_)
      · rw [(channel_looked _ _ _ _).1, channel_deliver] at htold
        exact told_setChannel s _ k _ (fun hl => absurd hl Channel.not_told_look) htold
      · rw [permit_looked, deliver_eq]
        exact permit_setChannel s _ _
      · cases k with
        | stdout => rw [hp]; rfl
        | stderr => contradiction

/-- No turn leaves chunks behind of which the owner will not hear before it sleeps on. -/
theorem heeds_turn (s : Supervisor) (t : Turn) (k : Stream) (h : s.Heeds k) :
    (s.turn t).Heeds k := by
  have he := turn_effect s t
  generalize s.turn t = u at he
  -- what happens behind the owner's back queues a chunk only with its notice still owed
  have hbehind (j : Stream) (c : Channel) (hc : c.Told → (s.channel j).Told) :
      (s.setChannel j c).Heeds k :=
    heeds_still s _ k h (told_setChannel s j k c hc) (by simp) (.inl (by simp))
  cases he with
  | nothing | exits | loses | breaksInput => exact h
  | writes j bytes => exact hbehind j _ (Channel.told_write bytes)
  | closes j => exact hbehind j (s.channel j).close id
  | reads j n => exact hbehind j _ (Channel.told_read n)
  | ends j => exact hbehind j _ Channel.told_finishReading
  | notifies j => exact fun _ => .inl rfl
  | takesSome | takesLast | learnsBroken | learnsError | hearsListening | hearsLingering
  | learnsExit | learnsLoss | reaps | tires | looksFailing | seesExit | seesLoss | seesDrained
  | finishesFailing | polls | pollsLoss | writesNothing | closesInput =>
    exact heeds_looking _ k (by cases k <;> rfl)
  | looks j e text hp => exact heeds_looks s j k e text h hp
  | seesRunning hp | seesUndrained _ hp =>
    exact heeds_still s _ k h id rfl (.inr (by rw [hp]; cases k <;> rfl))
  | finishes j hp =>
    refine heeds_still s _ k h (fun htold => ?_) ?_ (.inr ?_)
    · rw [(channel_finished _ _ _).1] at htold
      exact told_setChannel s j k _ Channel.told_finish htold
    · rw [permit_finished, permit_setChannel]
    · rw [hp]
      cases j <;> cases k <;> rfl
  | begins c p _ hb =>
    obtain ⟨-, rfl⟩ | ⟨-, rfl⟩ | ⟨bytes, -, rfl⟩ := hb
    all_goals exact heeds_looking _ k (by cases k <;> rfl)

theorem heeds_live (s : Supervisor) (ts : List Turn) (k : Stream) (h : s.Heeds k) :
    (s.live ts).Heeds k := by
  induction ts generalizing s with
  | nil => exact h
  | cons t ts ih => exact ih _ (heeds_turn s t k h)

theorem heeds_start (k : Stream) : Heeds {} k := by
  intro htold
  cases k <;> exact absurd rfl htold.1

theorem noticed_asleep (s : Supervisor) (k : Stream) (h : s.Heeds k)
    (asleep : s.point.isAsleep = true) (queued : (s.channel k).queue ≠ []) :
    s.permit = true ∨ (s.channel k).drain = .sent := by
  by_cases hd : (s.channel k).drain = .sent
  · exact .inr hd
  · obtain hpermit | hlooks := h ⟨queued, hd⟩
    · exact .inl hpermit
    · cases hp : s.point <;> cases k <;> simp [hp, Point.isAsleep, Point.looksAt] at asleep hlooks

/-- The drain that has queued a chunk does nothing before it gives its notice. -/
theorem sent_steps (s : Supervisor) (k : Stream) (h : (s.channel k).drain = .sent) :
    (∀ n, s.step (.reads k n) = s) ∧ s.step (.ends k) = s ∧
      (s.step (.notifies k)).permit = true := by
  have hset : s.setChannel k (s.channel k) = s := by cases k <;> rfl
  refine ⟨fun n => ?_, ?_, ?_⟩
  · have hread : (s.channel k).read n = s.channel k := by simp [Channel.read, h]
    rw [step, hread, hset]
  · have hend : (s.channel k).finishReading = s.channel k := by simp [Channel.finishReading, h]
    rw [step, hend, hset]
  · simp [step, notify, Channel.owesNotice, h]

theorem hears_permit (s : Supervisor) (asleep : s.point.isAsleep = true)
    (h : s.permit = true) : ∃ e, (s.step .hears).point = .lookOut e ∧
      ∀ k, (s.step .hears).channel k = s.channel k := by
  have hheard (e : Errand) (hs : s.step .hears = { s with permit := false, point := .lookOut e }) :
      ∃ e, (s.step .hears).point = .lookOut e ∧
        ∀ k, (s.step .hears).channel k = s.channel k := by
    rw [hs]
    exact ⟨e, rfl, fun k => channel_congr _ _ k rfl rfl⟩
  cases hp : s.point with
  | listening => exact hheard .live (by simp [step, hear, h, hp])
  | lingering => exact hheard .settled (by simp [step, hear, h, hp])
  | _ => simp [hp, Point.isAsleep] at asleep

/-- While the owner sleeps on, its permit stays and the queues only grow. -/
theorem asleep_step (s : Supervisor) (m : Move) (k : Stream)
    (asleep : s.point.isAsleep = true) (still : (s.step m).point.isAsleep = true) :
    (s.permit = true → (s.step m).permit = true) ∧
      ((s.channel k).queue ≠ [] → ((s.step m).channel k).queue ≠ []) := by
  by_cases hm : m = .advance
  · subst hm
    have hsame : s.step .advance = s := by
      rw [step, advance]
      cases hp : s.point <;> simp [hp, Point.isAsleep] at asleep ⊢
    rw [hsame]
    exact ⟨id, id⟩
  · obtain ⟨-, hqueue, -⟩ := unlooked_turn s (.move m) k (by simpa using hm)
    refine ⟨?_, fun hq => by rw [turn] at hqueue; simp [hqueue, hq]⟩
    have he := turn_effect s (.move m)
    rw [turn] at he
    generalize s.step m = u at he still
    cases he with
    | hearsListening | hearsLingering => simp [Point.isAsleep] at still
    | notifies => exact fun _ => rfl
    | tires | reaps | learnsExit | takesSome => simp [goTo, Point.isAsleep] at still
    | looks | looksFailing | finishes | finishesFailing | seesExit | seesRunning | seesLoss
    | seesDrained | seesUndrained => exact absurd rfl hm
    | _ => simp [fail, reply]

theorem asleep_run (s : Supervisor) (moves : List Move) (k : Stream)
    (h : ∀ past, past <+: moves → (s.run past).point.isAsleep = true) :
    (s.permit = true → (s.run moves).permit = true) ∧
      ((s.channel k).queue ≠ [] → ((s.run moves).channel k).queue ≠ []) := by
  induction moves generalizing s with
  | nil => exact ⟨id, id⟩
  | cons m moves ih =>
    have hstep := asleep_step s m k (h [] (List.nil_prefix)) (h [m] (by simp))
    have hrest := ih (s.step m) fun past hpast => h (m :: past) (by simpa using hpast)
    exact ⟨fun hp => hrest.1 (hstep.1 hp), fun hq => hrest.2 (hstep.2 hq)⟩

/-- When the drain's notice is given and the owner may hear it after that, the owner wakes. -/
theorem not_slept_through (s : Supervisor) (before after : List Move) (k : Stream)
    (heeds : s.Heeds k) (queued : (s.channel k).queue ≠ []) :
    ∃ past, past <+: before ++ .notifies k :: after ++ [.hears] ∧
      (s.run past).point.isAsleep = false := by
  apply Classical.byContradiction
  intro hno
  have hasleep (past : List Move) (hp : past <+: before ++ .notifies k :: after ++ [.hears]) :
      (s.run past).point.isAsleep = true := by
    cases hpoint : (s.run past).point.isAsleep with
    | true => rfl
    | false => exact absurd ⟨past, hp, hpoint⟩ hno
  -- the owner sleeps all the time, so no chunk is taken and no permit is used up
  let u := s.run before
  have hu : u.point.isAsleep = true := hasleep before (by simp)
  have hqueue : (u.channel k).queue ≠ [] := by
    refine (asleep_run s before k fun past hp => hasleep past ?_).2 queued
    exact hp.trans (by simp)
  have hheeds : u.Heeds k := by
    have hlive := heeds_live s (before.map .move) k heeds
    rwa [live_moves] at hlive
  have hnotice : (u.step (.notifies k)).permit = true := by
    obtain hpermit | hsent := noticed_asleep u k hheeds hu hqueue
    · refine (asleep_step u (.notifies k) k hu ?_).1 hpermit
      have hstep := hasleep (before ++ [.notifies k]) (by simp)
      rwa [run_append] at hstep
    · exact (sent_steps u k hsent).2.2
  have hpermit : (s.run (before ++ .notifies k :: after)).permit = true := by
    rw [run_append]
    refine (asleep_run (u.step (.notifies k)) after k fun past hp => ?_).1 hnotice
    have hpast := hasleep (before ++ .notifies k :: past) (by simpa using hp.trans (by simp))
    rwa [run_append] at hpast
  obtain ⟨e, hlook, -⟩ := hears_permit _ (hasleep (before ++ .notifies k :: after) (by simp)) hpermit
  have hheard := hasleep (before ++ .notifies k :: after ++ [.hears]) (List.prefix_refl _)
  rw [run_append] at hheard
  simp [run, Point.isAsleep] at hlook hheard
  simp [hlook] at hheard

/-- A sleeping owner is woken for the chunks of a stream. -/
structure Wakes (s : Supervisor) (k : Stream) : Prop where
  /-- the permit is there, or the drain stands between its chunk and the notice of it -/
  noticed : s.permit = true ∨ (s.channel k).drain = .sent
  /-- a drain that has queued a chunk gives the permit with its next step -/
  next : ∀ j, (s.channel j).drain = .sent →
    (∀ n, s.step (.reads j n) = s) ∧ s.step (.ends j) = s ∧ (s.step (.notifies j)).permit = true
  /-- with the permit the owner can go on to look at both queues as they are -/
  hears : s.permit = true → ∃ e, (s.step .hears).point = .lookOut e ∧
    ∀ j, (s.step .hears).channel j = s.channel j
  /-- whatever else happens, the owner does not sleep on past the notice -/
  wakes : ∀ before after : List Move, ∃ past,
    past <+: before ++ .notifies k :: after ++ [.hears] ∧ (s.run past).point.isAsleep = false

/-- In every state of a life in which the owner sleeps within a wait while chunks of a stream are
queued, the one permit of both drains is there or is given next. -/
theorem queued_wakes (ts : List Turn) (k : Stream)
    (asleep : (live {} ts).point.isAsleep = true)
    (queued : ((live {} ts).channel k).queue ≠ []) : (live {} ts).Wakes k := by
  have hheeds := heeds_live {} ts k (heeds_start k)
  exact {
    noticed := noticed_asleep _ k hheeds asleep queued
    next := fun j => sent_steps _ j
    hears := hears_permit _ asleep
    wakes := fun before after => not_slept_through _ before after k hheeds queued }

/-- Two notices are one permit, which the owner uses up just before a third chunk comes; of that
one the owner learns when the drain gives its notice. -/
theorem queued_wakes_third_chunk : ∃ ts : List Turn,
    (live {} ts).point = .lingering ∧ (live {} ts).permit = false ∧
    ((live {} ts).channel .stderr).queue = [[0x63]] ∧ (live {} ts).Wakes .stderr := by
  let ts : List Turn := [.call .wait, .move .advance, .move .advance, .move .advance,
    .move (.writes .stdout [0x61]), .move (.reads .stdout 9), .move (.notifies .stdout),
    .move (.writes .stderr [0x62]), .move (.reads .stderr 9), .move (.notifies .stderr),
    .move (.exits 0), .move .hears, .move .advance, .move .advance, .move .advance,
    .move .advance, .move .advance, .move .advance, .move (.writes .stderr [0x63]),
    .move (.reads .stderr 9)]
  exact ⟨ts, by decide +kernel, by decide +kernel, by decide +kernel,
    queued_wakes ts .stderr (by decide +kernel) (by decide +kernel)⟩

end CellRunner.Supervisor
