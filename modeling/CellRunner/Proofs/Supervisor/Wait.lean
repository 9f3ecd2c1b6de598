import CellRunner.Proofs.Supervisor.Conservation

/-!
# Waiting for the end of a process

A wait comes to an end by the owner's own steps as soon as both drains have been seen to
finish, whatever the others do meanwhile. It comes to an exit code exactly when both streams
are well formed, and then everything that was ever written to them has been handed on.
-/

set_option autoImplicit false

namespace CellRunner.Supervisor
open Utf8

/-- Where the owner is during a wait. -/
def Point.isOfWait : Point → Bool
  | .idle | .writing _ | .lookOut .flush | .lookErr .flush => false
  | _ => true

/-- What a wait can come to. -/
inductive Ends (s : Supervisor) : Answer → Prop where
  | waited (code : ExitCode) : Ends s (.waited code)
  | undecoded (k : Stream) (f : Fault) : Ends s (.failed (.decode k f))
  | lost (e : SystemError) (h : s.child = .lost e) : Ends s (.failed (.io (.system e)))

/-- The owner listens only for an exit that it has not seen. -/
structure Waits (s : Supervisor) : Prop where
  point : s.point.isOfWait = true
  answer : s.answer = none
  listens : s.point = .listening → s.recorded = none

/-- The owner waits, or its wait has ended and no call has been made since. -/
def InWait (s : Supervisor) : Prop :=
  s.Waits ∨ s.point = .idle ∧ ∃ a, s.answer = some a ∧ s.Ends a

theorem ends_of_child (s u : Supervisor) (a : Answer) (h : s.Ends a)
    (hc : s.child ≠ .running → u.child = s.child) : u.Ends a := by
  cases h with
  | waited code => exact .waited code
  | undecoded k f => exact .undecoded k f
  | lost e h => exact .lost e (by rw [hc (by simp [h]), h])

/-- An owner who is in no call does nothing. -/
theorem idle_step (s : Supervisor) (m : Move) (h : s.point = .idle) :
    (s.step m).point = .idle ∧ (s.step m).answer = s.answer ∧
      (s.child ≠ .running → (s.step m).child = s.child) := by
  have he := turn_effect s (.move m)
  rw [turn] at he
  generalize s.step m = u at he
  cases he with
  | nothing | breaksInput => exact ⟨h, rfl, fun _ => rfl⟩
  | writes | closes | reads | ends => exact ⟨by simpa using h, by simp, by simp⟩
  | notifies => exact ⟨by simpa using h, by simp, by simp⟩
  | exits _ hc | loses _ hc => exact ⟨h, rfl, fun hn => absurd hc hn⟩
  | looks k e _ hp | looksFailing k e _ hp => cases k <;> simp [h, lookPoint] at hp
  | finishes k hp | finishesFailing k _ hp => cases k <;> simp [h, finishPoint] at hp
  | takesSome _ _ _ hp | takesLast _ _ _ hp | learnsBroken _ hp | learnsError _ _ hp
  | hearsListening hp | hearsLingering hp | learnsExit _ hp | learnsLoss _ hp | reaps _ hp
  | tires hp | seesExit _ hp | seesRunning hp | seesLoss _ hp | seesDrained hp
  | seesUndrained _ hp => simp [h] at hp

theorem idle_run (s : Supervisor) (moves : List Move) (h : s.point = .idle) :
    (s.run moves).point = .idle ∧ (s.run moves).answer = s.answer := by
  induction moves generalizing s with
  | nil => exact ⟨h, rfl⟩
  | cons m moves ih =>
    obtain ⟨hp, ha, -⟩ := idle_step s m h
    obtain ⟨hp', ha'⟩ := ih (s.step m) hp
    exact ⟨hp', ha'.trans ha⟩

theorem waits_awake (u : Supervisor) (ha : u.answer = none) (hw : u.point.isOfWait = true)
    (hl : (u.point == .listening) = false) : u.InWait :=
  .inl ⟨hw, ha, fun h => by simp [h] at hl⟩

theorem waits_behind (s u : Supervisor) (h : s.Waits) (hp : u.point = s.point)
    (ha : u.answer = s.answer) (hr : u.recorded = s.recorded) : u.InWait :=
  .inl ⟨hp ▸ h.point, ha ▸ h.answer, fun hl => hr ▸ h.listens (hp ▸ hl)⟩

theorem answer_record (s : Supervisor) (code : ExitCode) :
    (s.record code).answer = s.answer := by
  unfold record
  split <;> rfl

theorem inWait_looked (s : Supervisor) (k : Stream) (e : Errand) (ha : s.answer = none)
    (he : e ≠ .flush) : (s.looked k e).InWait := by
  cases k <;> cases e <;> first | contradiction | exact waits_awake _ ha rfl rfl

theorem inWait_finished (s : Supervisor) (k : Stream) (ha : s.answer = none)
    (hp : s.point = finishPoint k) : (s.finished k).InWait := by
  cases k with
  | stdout => exact waits_awake _ ha rfl rfl
  | stderr =>
    simp only [finished, conclude]
    split
    next code _ => exact .inr ⟨rfl, _, rfl, .waited code⟩
    · exact waits_awake s ha (by rw [hp]; rfl) (by rw [hp]; rfl)

theorem inWait_step (s : Supervisor) (m : Move) (h : s.InWait) : (s.step m).InWait := by
  obtain h | ⟨hp, a, ha, hends⟩ := h
  rotate_left
  · obtain ⟨hp', ha', hc⟩ := idle_step s m hp
    exact .inr ⟨hp', a, ha' ▸ ha, ends_of_child s _ a hends hc⟩
  have he := turn_effect s (.move m)
  rw [turn] at he
  generalize s.step m = u at he
  have hw := h.point
  have hflush (k : Stream) (e : Errand) (hp : s.point = lookPoint k e) : e ≠ .flush := by
    rintro rfl
    cases k <;> simp [hp, lookPoint, Point.isOfWait] at hw
  cases he with
  | nothing => exact .inl h
  | writes | closes | reads | ends | notifies =>
    exact waits_behind s _ h (by simp) (by simp) (by simp)
  | exits | loses | breaksInput => exact waits_behind s _ h rfl rfl rfl
  | takesSome _ _ _ hp | takesLast _ _ _ hp | learnsBroken _ hp | learnsError _ _ hp =>
    simp [hp, Point.isOfWait] at hw
  | hearsListening | hearsLingering | seesDrained | seesUndrained | tires =>
    exact waits_awake _ h.answer rfl rfl
  | learnsExit code | seesExit code =>
    exact waits_awake _ (by simpa [goTo, answer_record] using h.answer) rfl rfl
  | reaps => exact waits_awake _ (by simpa [goTo] using h.answer) rfl rfl
  | seesRunning _ hr => exact .inl ⟨rfl, h.answer, fun _ => hr⟩
  | learnsLoss e _ hc | seesLoss e _ hc => exact .inr ⟨rfl, _, rfl, .lost e hc⟩
  | looks k e text hp =>
    refine inWait_looked _ k e ?_ (hflush k e hp)
    rw [deliver_eq]
    simpa using h.answer
  | looksFailing k e f => exact .inr ⟨rfl, _, rfl, .undecoded k f⟩
  | finishes k hp => exact inWait_finished _ k (by simpa using h.answer) (by simpa using hp)
  | finishesFailing k f => exact .inr ⟨rfl, _, rfl, .undecoded k f⟩

/-- How many steps of its own the owner is away from the end of its wait, unless it falls
asleep. -/
def Point.rank : Point → Nat
  | .lookOut .live => 10
  | .lookErr .live => 9
  | .checkExit => 8
  | .lookOut .settled => 7
  | .lookErr .settled => 6
  | .checkDrained => 5
  | .lookOut .last => 4
  | .lookErr .last => 3
  | .finishOut => 2
  | .finishErr => 1
  | _ => 0

theorem asleep_of_rank (p : Point) (hw : p.isOfWait = true) (hr : p.rank = 0) :
    p = .listening ∨ p = .lingering := by
  cases p with
  | lookOut e | lookErr e => cases e <;> simp [Point.isOfWait, Point.rank] at hw hr
  | listening => exact .inl rfl
  | lingering => exact .inr rfl
  | _ => simp [Point.isOfWait, Point.rank] at hw hr

/-- The owner holds neither drain any more, and is in a wait or at its end. -/
structure Free (s : Supervisor) : Prop where
  sound : Sound s
  inWait : s.InWait
  released : ∀ k, (s.channel k).isReleased = true

theorem free_step (s : Supervisor) (m : Move) (h : s.Free) : (s.step m).Free where
  sound := turn_sound s (.move m) h.sound
  inWait := inWait_step s m h.inWait
  released k := by
    have hhold := turn_hold s (.move m) k h.sound (by simpa [Channel.isReleased] using h.released k)
    rw [turn] at hhold
    simpa [Channel.isReleased, hhold] using h.released k

/-- With no drain to wait for the owner does not wait. -/
theorem free_awake (s : Supervisor) (h : s.Free) (hs : s.isSuspended = true) :
    s.point = .idle := by
  obtain hw | ⟨hp, -⟩ := h.inWait
  · have hpoint := hw.point
    unfold isSuspended at hs
    split at hs
    next hp => exact hp
    next hp => exact absurd (hw.listens hp) (h.sound.released .stdout (h.released .stdout))
    next hp =>
      obtain ⟨k, hk⟩ := h.sound.point.lingers hp
      simp [h.released k] at hk
    next hp => simp [hp, Point.isOfWait] at hpoint
    · contradiction
  · exact hp

/-- Each step of the owner's own brings it nearer to the end, and no other step takes it away
from there. -/
theorem rank_step (s : Supervisor) (m : Move) (h : s.Free) :
    (s.step m).point.rank ≤ s.point.rank - if m = .advance then 1 else 0 := by
  have hawake := free_awake s h
  have hrec : s.recorded ≠ none := h.sound.released .stdout (h.released .stdout)
  have he := turn_effect s (.move m)
  rw [turn] at he
  generalize s.step m = u at he
  cases he with
  | nothing _ waits =>
    by_cases hm : m = .advance
    · have hp := hawake (waits (congrArg _ hm))
      simp [hp, Point.rank]
    · simp [hm]
  | writes | closes | reads | ends | notifies | exits | loses | breaksInput => simp
  | takesSome _ _ _ hp | takesLast _ _ _ hp | learnsBroken _ hp | learnsError _ _ hp
  | hearsListening hp | hearsLingering hp | learnsExit _ hp | learnsLoss _ hp | reaps _ hp
  | tires hp =>
    have hidle := hawake (by simp [isSuspended, hp])
    simp [hp] at hidle
  | looks k e _ hp =>
    cases k <;> cases e <;>
      simp [hp, lookPoint, looked, afterFlush, goTo, reply, Point.rank]
  | looksFailing | finishesFailing | seesLoss | seesRunning | seesUndrained =>
    exact Nat.zero_le _
  | seesExit _ hp | seesDrained hp => simp [hp, goTo, Point.rank]
  | finishes k hp =>
    cases k with
    | stdout => simp [hp, finished, finishPoint, goTo, Point.rank]
    | stderr =>
      obtain ⟨code, hcode⟩ := Option.ne_none_iff_exists'.mp hrec
      simp [hp, finished, conclude, hcode, finishPoint, reply, Point.rank]

theorem free_answers (s : Supervisor) (moves : List Move) (h : s.Free)
    (hr : s.point.rank ≤ moves.count .advance) : (s.run moves).answer ≠ none := by
  induction moves generalizing s with
  | nil =>
    have hrank : s.point.rank = 0 := by simpa using hr
    obtain hw | ⟨-, a, ha, -⟩ := h.inWait
    · have hpoint := hw.point
      have hidle : s.point = .idle := by
        refine free_awake s h ?_
        obtain hp | hp := asleep_of_rank s.point hpoint hrank <;> simp [isSuspended, hp]
      simp [hidle, Point.isOfWait] at hpoint
    · simp [run, ha]
  | cons m moves ih =>
    refine ih (s.step m) (free_step s m h) ?_
    have hstep := rank_step s m h
    rw [List.count_cons] at hr
    have hbeq : (m == .advance) = decide (m = .advance) := rfl
    by_cases hm : m = .advance <;> simp [hm] at hstep hr ⊢ <;> omega

/-- The call that is going on ends without waiting for others: it is answered where it could wait
for them, and ten steps of the owner's own are enough. -/
def Prompt (s : Supervisor) : Prop :=
  ∀ moves, ((s.run moves).isSuspended = true ∨ 10 ≤ moves.count .advance) →
    (s.run moves).answer ≠ none

theorem prompt_of_free (s : Supervisor) (h : s.Free) : s.Prompt := by
  intro moves hm
  obtain hsuspended | hcount := hm
  · have hfree : (s.run moves).Free := by
      clear hsuspended
      induction moves generalizing s with
      | nil => exact h
      | cons m moves ih => exact ih _ (free_step s m h)
    obtain hw | ⟨-, a, ha, -⟩ := hfree.inWait
    · have hpoint := hw.point
      simp [free_awake _ hfree hsuspended, Point.isOfWait] at hpoint
    · simp [ha]
  · refine free_answers s moves h (Nat.le_trans ?_ hcount)
    unfold Point.rank
    split <;> simp

/-- The owner has seen both drains finish, and is in a wait or at its end. -/
structure Drained (s : Supervisor) : Prop where
  sound : Sound s
  inWait : s.InWait
  reaped : ∀ k, (s.channel k).hold = .reaped

theorem Drained.free {s : Supervisor} (h : s.Drained) : s.Free :=
  ⟨h.sound, h.inWait, fun k => by simp [Channel.isReleased, h.reaped k]⟩

theorem drained_answers (s : Supervisor) (moves : List Move) (h : s.Drained)
    (hr : s.point.rank ≤ moves.count .advance) : (s.run moves).answer ≠ none :=
  free_answers s moves h.free hr

/-- Both streams are accounted for, or the call has failed at one that is spoilt. -/
def Stands (s : Supervisor) (written : Stream → List UInt8) : Prop :=
  (∀ k, ¬ s.FailedOn k ∧ (s.channel k).Accounts (s.delivered k) (written k)) ∨
    s.point = .idle ∧ ∃ k given, s.FailedOn k ∧ (s.channel k).Spoilt given (written k)

theorem idle_of_failedOn (s : Supervisor) (k : Stream) (hs : Sound s) (h : s.FailedOn k) :
    s.point = .idle := by
  obtain ⟨f, hf⟩ := h
  by_cases hp : s.point = .idle
  · exact hp
  · simp [hs.calm hp] at hf

theorem stands_step (s : Supervisor) (m : Move) (written : Stream → List UInt8)
    (hs : Sound s) (h : s.Stands written) :
    (s.step m).Stands fun k => written k ++ s.adds k (.move m) := by
  obtain h | ⟨hp, k, given, ⟨f, hf⟩, hspoilt⟩ := h
  · by_cases hall : ∀ k, ¬ (s.step m).FailedOn k
    · refine .inl fun k => ⟨hall k, ?_⟩
      obtain ⟨hacc, -⟩ | ⟨hfailed, -⟩ := turn_accounts s (.move m) k (written k) hs (h k).2
      · exact hacc
      · exact absurd hfailed (hall k)
    · obtain ⟨k, hk⟩ : ∃ k, (s.step m).FailedOn k := by simpa using hall
      obtain ⟨-, hback⟩ | ⟨-, hspoilt⟩ := turn_accounts s (.move m) k (written k) hs (h k).2
      · exact absurd (hback hk) (h k).1
      · exact .inr ⟨idle_of_failedOn _ k (turn_sound s (.move m) hs) hk, k, _, hk, hspoilt⟩
  · obtain ⟨hp', ha, -⟩ := idle_step s m hp
    exact .inr ⟨hp', k, given, ⟨f, ha ▸ hf⟩, turn_spoilt s (.move m) k given _ hs hspoilt⟩

theorem stands_run (s : Supervisor) (moves : List Move) (written : Stream → List UInt8)
    (hs : Sound s) (h : s.Stands written) :
    (s.run moves).Stands fun k => written k ++ output k s (moves.map .move) := by
  induction moves generalizing s written with
  | nil => simpa [run, output] using h
  | cons m moves ih =>
    have hrest := ih (s.step m) _ (turn_sound s (.move m) hs) (stands_step s m written hs h)
    simpa [run, output, turn] using hrest

theorem inWait_run (s : Supervisor) (moves : List Move) (h : s.InWait) :
    (s.run moves).InWait := by
  induction moves generalizing s with
  | nil => exact h
  | cons m moves ih => exact ih _ (inWait_step s m h)

/-- The turns of a supervisor that has been used before, and is in a wait now. -/
def waiting (before : List Turn) (moves : List Move) : List Turn :=
  before ++ .call .wait :: moves.map .move

theorem live_waiting (s : Supervisor) (before : List Turn) (moves : List Move) :
    s.live (waiting before moves) = ((s.live before).begin .wait).run moves := by
  simp [waiting, live_moves, turn]

theorem begin_wait (s : Supervisor) (h : s.point = .idle) :
    s.begin .wait = { s with answer := none, point := .lookOut .live } := by
  simp [begin, h, goTo]

theorem inWait_waiting (before : List Turn) (moves : List Move)
    (idle : (live {} before).point = .idle) : (live {} (waiting before moves)).InWait := by
  rw [live_waiting, begin_wait _ idle]
  exact inWait_run _ moves (waits_awake _ rfl rfl rfl)

theorem stands_waiting (before : List Turn) (moves : List Move)
    (idle : (live {} before).point = .idle) (unfailed : Unfailed {} before) :
    (live {} (waiting before moves)).Stands fun k => output k {} (waiting before moves) := by
  have hs := live_sound {} before sound_start
  have hbegun (k : Stream) : ¬ ((live {} before).turn (.call .wait)).FailedOn k := by
    simp [turn, begin_wait _ idle, FailedOn]
  have hstart : ((live {} before).begin .wait).Stands fun k => output k {} before := by
    refine .inl fun k => ⟨hbegun k, ?_⟩
    have hacc := live_accounts {} before k [] sound_start (accounts_start k) unfailed
    obtain ⟨h, -⟩ | ⟨hf, -⟩ := turn_accounts _ (.call .wait) k _ hs hacc
    · simpa [adds, turn] using h
    · exact absurd hf (hbegun k)
  have hrun := stands_run _ moves _ (turn_sound _ (.call .wait) hs) hstart
  rw [live_waiting]
  simpa [waiting, output_append, output, adds, turn] using hrun

/-- A wait that has come to an exit code has read and handed on everything. -/
theorem waited_complete (s : Supervisor) (code : ExitCode) (written : Stream → List UInt8)
    (hs : Sound s) (h : s.Stands written) (ha : s.answer = some (.waited code))
    (hp : ∀ k, (s.channel k).hold ≠ .abandoned) (k : Stream) :
    encode (s.delivered k) = written k ∧ (s.channel k).closed = true := by
  obtain h | ⟨-, j, given, ⟨f, hf⟩, -⟩ := h
  rotate_left
  · simp [ha] at hf
  obtain ⟨hrel, hempty⟩ := (hs.waited code ha).2 k
  have hreaped : (s.channel k).hold = .reaped := by
    cases hc : (s.channel k).hold with
    | held => simp [Channel.isReleased, hc] at hrel
    | reaped => rfl
    | abandoned => exact absurd hc (hp k)
  obtain ⟨hq, hheld⟩ := hempty hreaped
  obtain ⟨hpipe, hclosed⟩ := (hs.channel k).ended (.inr ((hs.channel k).reaped hreaped))
  have hbytes := (h k).2.bytes
  simp only [hq, hheld, hpipe, List.flatten_nil, List.append_nil] at hbytes
  exact ⟨hbytes, hclosed⟩

/-- What the answer `a` of a wait says of all the bytes that are ever written. -/
structure Reports (s : Supervisor) (a : Answer) (bytes : Stream → List UInt8) : Prop where
  wellFormed : (∃ code, a = .waited code) ↔ ∀ k, IsText (bytes k)
  exited : ∀ code, a = .waited code →
    s.child = .exited code ∧ ∀ k, encode (s.delivered k) = bytes k
  failed : (∀ code, a ≠ .waited code) →
    ∃ k f, a = .failed (.decode k f) ∧ ¬ IsText (bytes k)

/-- The wait of a supervisor on which no call has failed to decode, while the system gives no
error and the owner has let go of no drain. -/
theorem wait_reports (before : List Turn) (moves : List Move)
    (idle : (live {} before).point = .idle) (unfailed : Unfailed {} before)
    (known : ∀ e, (live {} (waiting before moves)).child ≠ .lost e)
    (patient : ∀ k, ((live {} (waiting before moves)).channel k).hold ≠ .abandoned) :
    ((∀ k, ((live {} (waiting before moves)).channel k).hold = .reaped) →
      ∀ more : List Move, 10 ≤ more.count .advance →
        (live {} (waiting before (moves ++ more))).answer ≠ none) ∧
    ∀ (a : Answer) (later : List Turn), (live {} (waiting before moves)).answer = some a →
      (live {} (waiting before moves)).Reports a
        fun k => output k {} (waiting before moves ++ later) := by
  have hs := live_sound {} (waiting before moves) sound_start
  have hin := inWait_waiting before moves idle
  have hstands := stands_waiting before moves idle unfailed
  refine ⟨fun hreaped more hmore => ?_, fun a later ha => ?_⟩
  · have hd : (live {} (waiting before moves)).Drained := ⟨hs, hin, hreaped⟩
    have hrank (p : Point) : p.rank ≤ 10 := by
      unfold Point.rank
      split <;> simp
    have hans := drained_answers _ more hd (Nat.le_trans (hrank _) hmore)
    rw [live_waiting] at hans ⊢
    rwa [run, run, ← List.foldl_append] at hans
  have hwaited (code : ExitCode) (hcode : a = .waited code) (k : Stream) :
      encode ((live {} (waiting before moves)).delivered k) =
        output k {} (waiting before moves ++ later) := by
    obtain ⟨hbytes, hclosed⟩ :=
      waited_complete _ code _ hs hstands (by rw [ha, hcode]) patient k
    rw [output_append, output_closed _ later k hs hclosed, List.append_nil, hbytes]
  have hfailed (k : Stream) (f : Fault) (hf : a = .failed (.decode k f)) :
      ¬ IsText (output k {} (waiting before moves ++ later)) := by
    obtain h | ⟨-, j, given, ⟨g, hg⟩, hspoilt⟩ := hstands
    · exact absurd ⟨f, by rw [ha, hf]⟩ (h k).1
    · obtain rfl : j = k := by
        rw [ha, hf] at hg
        simp at hg
        exact hg.1.symm
      rw [output_append]
      exact spoilt_not_isText _ given _ (live_spoilt _ later j given _ hs hspoilt)
  obtain ⟨code, rfl⟩ | ⟨k, f, rfl⟩ :
      (∃ code, a = .waited code) ∨ ∃ k f, a = .failed (.decode k f) := by
    obtain hw | ⟨-, b, hb, hends⟩ := hin
    · rw [hw.answer] at ha
      contradiction
    · obtain rfl : b = a := Option.some.inj (hb.symm.trans ha)
      cases hends with
      | waited code => exact .inl ⟨code, rfl⟩
      | undecoded k f => exact .inr ⟨k, f, rfl⟩
      | lost e h => exact absurd h (known e)
  · exact {
      wellFormed := ⟨fun _ k => ⟨_, hwaited code rfl k⟩, fun _ => ⟨code, rfl⟩⟩
      exited := fun n hn => ⟨hs.exited n (hs.waited n (hn ▸ ha)).1, hwaited n hn⟩
      failed := fun hn => absurd rfl (hn code) }
  · have hno := hfailed k f rfl
    exact {
      wellFormed := ⟨by simp, fun htext => absurd (htext k) hno⟩
      exited := by simp
      failed := fun _ => ⟨k, f, rfl, hno⟩ }

/-- A character is cut by an earlier flush, and each drain ends while the owner lingers. -/
theorem wait_reports_cut_character : ∃ (before : List Turn) (moves : List Move),
    (live {} before).delivered .stdout = "" ∧
    (live {} (waiting before moves)).delivered .stdout = "é" ∧
    (live {} (waiting before (moves ++ List.replicate 10 .advance))).answer ≠ none ∧
    (live {} (waiting before moves)).answer = some (.waited 3) ∧
    (live {} (waiting before moves)).Reports (.waited 3)
      fun k => output k {} (waiting before moves ++ [.move (.writes .stdout [0xFF])]) := by
  let before : List Turn := [.move (.writes .stdout [0xC3]), .move (.reads .stdout 1),
    .move (.notifies .stdout), .call .flush, .move .advance, .move .advance]
  let moves : List Move := [.writes .stdout [0xA9], .writes .stderr [0x21], .exits 3,
    .closes .stdout, .closes .stderr, .reads .stdout 9, .notifies .stdout, .ends .stdout,
    .notifies .stdout, .advance, .advance, .advance, .advance, .advance, .advance,
    .reaps .stdout, .advance, .advance, .advance, .reads .stderr 9, .notifies .stderr,
    .ends .stderr, .notifies .stderr, .reaps .stderr, .advance, .advance, .advance, .advance,
    .advance, .advance, .advance]
  have hchild : (live {} (waiting before moves)).child = .exited 3 := by decide +kernel
  have hans : (live {} (waiting before moves)).answer = some (.waited 3) := by decide +kernel
  have hreaped : ∀ k, ((live {} (waiting before moves)).channel k).hold = .reaped := by
    decide +kernel
  have h := wait_reports before moves (by decide +kernel) (by decide +kernel) (by simp [hchild])
    (by simp [hreaped])
  exact ⟨before, moves, by decide +kernel, by decide +kernel, h.1 hreaped _ (by decide), hans,
    h.2 _ _ hans⟩

end CellRunner.Supervisor
