import CellRunner.Proofs.Supervisor.Books
import CellRunner.Proofs.Supervisor.IllFormed
import CellRunner.Proofs.Supervisor.Wait

/-!
# What a flush delivers

A flush looks at one stream and then at the other. A look takes the chunks that are queued at
that moment; chunks may arrive before it and after it, and those that come later wait for the
next look. Between two looks at a stream nothing happens to its decoder, and its queue only
grows at the end. So what a flush hands on, and what it leaves for the next one, follows from
its two looks.
-/

set_option autoImplicit false

namespace CellRunner.Supervisor
open Utf8

/-- The chunk, if any, that comes into the queue of a stream in a turn. -/
def arrives (s : Supervisor) (k : Stream) (t : Turn) : List (List UInt8) :=
  if (s.leaves k t).isEmpty then [] else [s.leaves k t]

/-- The chunks that come into the queue of a stream during some turns, oldest first. -/
def arrivals (k : Stream) (s : Supervisor) : List Turn → List (List UInt8)
  | [] => []
  | t :: ts => s.arrives k t ++ arrivals k (s.turn t) ts

/-- The chunks that arrive hold the bytes that are read, no more and no fewer. -/
theorem flatten_arrivals (k : Stream) (s : Supervisor) (ts : List Turn) :
    (arrivals k s ts).flatten = read k s ts := by
  induction ts generalizing s with
  | nil => rfl
  | cons t ts ih =>
    rw [arrivals, List.flatten_append, ih, read, arrives]
    split
    next h => simp [List.isEmpty_iff.mp h]
    · simp

/-- A step that leaves the decoder and the queue of a channel as they are. -/
def Channel.Keeps (c d : Channel) : Prop := d.decoder = c.decoder ∧ d.queue = c.queue

theorem keeps_setChannel (s : Supervisor) (j k : Stream) (c : Channel)
    (h : (s.channel j).Keeps c) : (s.channel k).Keeps ((s.setChannel j c).channel k) := by
  by_cases hj : j = k
  · subst hj
    rwa [channel_setChannel]
  · rw [channel_setChannel_ne s j k c (Ne.symm hj)]
    exact ⟨rfl, rfl⟩

theorem keeps_write (c : Channel) (bytes : List UInt8) : c.Keeps (c.write bytes) := by
  unfold Channel.write
  split <;> exact ⟨rfl, rfl⟩

theorem keeps_finishReading (c : Channel) : c.Keeps c.finishReading := by
  unfold Channel.finishReading
  split <;> exact ⟨rfl, rfl⟩

theorem keeps_giveNotice (c : Channel) : c.Keeps c.giveNotice := by
  unfold Channel.giveNotice
  split <;> exact ⟨rfl, rfl⟩

theorem keeps_abandon (c : Channel) : c.Keeps c.abandon := by
  unfold Channel.abandon
  split <;> exact ⟨rfl, rfl⟩

/-- Nothing but a drain puts chunks into a queue, and nothing but a step of the owner's own takes
them out, touches a decoder or hands on a text. -/
theorem keeps_turn (s : Supervisor) (t : Turn) (k : Stream) (ht : t ≠ .move .advance)
    (hr : ∀ j n, t ≠ .move (.reads j n)) :
    (s.channel k).Keeps ((s.turn t).channel k) ∧ (s.turn t).sink = s.sink := by
  have he := turn_effect s t
  generalize s.turn t = u at he
  have hsame (u : Supervisor) (ho : u.stdout = s.stdout) (he : u.stderr = s.stderr)
      (hs : u.sink = s.sink) : (s.channel k).Keeps (u.channel k) ∧ u.sink = s.sink := by
    rw [channel_congr s u k ho he]
    exact ⟨⟨rfl, rfl⟩, hs⟩
  have hset (j : Stream) (c : Channel) (u : Supervisor) (hc : (s.channel j).Keeps c)
      (hu : u.channel k = (s.setChannel j c).channel k) (hs : u.sink = s.sink) :
      (s.channel k).Keeps (u.channel k) ∧ u.sink = s.sink := by
    rw [hu]
    exact ⟨keeps_setChannel s j k c hc, hs⟩
  cases he with
  | reads j n => exact absurd rfl (hr j n)
  | looks | looksFailing | finishes | finishesFailing | seesExit | seesRunning | seesLoss
  | seesDrained | seesUndrained => exact absurd rfl ht
  | writes j bytes => exact hset j _ _ (keeps_write _ bytes) rfl (by simp)
  | closes j => exact hset j (s.channel j).close _ ⟨rfl, rfl⟩ rfl (by simp)
  | ends j => exact hset j _ _ (keeps_finishReading _) rfl (by simp)
  | notifies j =>
    exact hset j _ _ (keeps_giveNotice _) (channel_congr _ _ k rfl rfl) (by simp)
  | reaps j => exact hset j (s.channel j).reap _ ⟨rfl, rfl⟩ (by simp) (by simp [goTo])
  | tires =>
    refine ⟨?_, rfl⟩
    cases k
    · exact keeps_abandon s.stdout
    · exact keeps_abandon s.stderr
  | learnsExit code =>
    refine ⟨?_, ?_⟩
    · simp [Channel.Keeps]
    · simp only [goTo, record]
      split <;> rfl
  | _ => exact hsame _ rfl rfl rfl

/-- The bytes that the drain takes from the pipe in one go. -/
def Channel.chunk (c : Channel) (n : Nat) : List UInt8 :=
  if c.drain = .reading then c.pipe.take (min n chunkSize) else []

theorem queue_read (c : Channel) (n : Nat) :
    (c.read n).decoder = c.decoder ∧
      (c.read n).queue = c.queue ++ if (c.chunk n).isEmpty then [] else [c.chunk n] := by
  unfold Channel.read Channel.chunk
  dsimp only
  generalize c.pipe.take (min n chunkSize) = chunk
  by_cases hd : c.drain = .reading <;> by_cases hc : chunk = [] <;> simp [hd, hc]

/-- Away from the owner's own steps a queue takes what arrives, and nothing else happens. -/
theorem unlooked_turn (s : Supervisor) (t : Turn) (k : Stream) (ht : t ≠ .move .advance) :
    ((s.turn t).channel k).decoder = (s.channel k).decoder ∧
      ((s.turn t).channel k).queue = (s.channel k).queue ++ s.arrives k t ∧
      (s.turn t).sink = s.sink := by
  by_cases hr : ∃ j n, t = .move (.reads j n)
  · obtain ⟨j, n, rfl⟩ := hr
    refine ⟨?_, ?_, by simp [turn, step]⟩
    · by_cases hj : j = k
      · subst hj
        simpa [turn, step] using (queue_read (s.channel j) n).1
      · simp [turn, step, channel_setChannel_ne s j k _ (Ne.symm hj)]
    · by_cases hj : j = k
      · subst hj
        have hl : s.leaves j (.move (.reads j n)) = (s.channel j).chunk n := by
          simp [leaves, Channel.chunk]
        rw [arrives, hl]
        simpa [turn, step] using (queue_read (s.channel j) n).2
      · simp [turn, step, arrives, leaves, hj, channel_setChannel_ne s j k _ (Ne.symm hj)]
  · have hreads (j : Stream) (n : Nat) : t ≠ .move (.reads j n) := fun h => hr ⟨j, n, h⟩
    obtain ⟨⟨hd, hq⟩, hs⟩ := keeps_turn s t k ht hreads
    refine ⟨hd, ?_, hs⟩
    rw [arrives, leaves_nil s t k hreads, hq]
    simp

/-- Since the state `s` some chunks have come into the queues, and nothing else has happened to
what the owner sees of the streams. -/
structure Gains (s u : Supervisor) (chunks : Stream → List (List UInt8)) : Prop where
  decoder : ∀ k, (u.channel k).decoder = (s.channel k).decoder
  queue : ∀ k, (u.channel k).queue = (s.channel k).queue ++ chunks k
  sink : u.sink = s.sink

theorem gains_live (s : Supervisor) (ts : List Turn) (h : .move .advance ∉ ts) :
    s.Gains (s.live ts) (arrivals · s ts) := by
  induction ts generalizing s with
  | nil => exact ⟨fun _ => rfl, fun k => by simp [arrivals], rfl⟩
  | cons t ts ih =>
    rw [List.mem_cons, not_or] at h
    obtain ⟨ht, hts⟩ := h
    have hturn (k : Stream) := unlooked_turn s t k (Ne.symm ht)
    have hrest := ih (s.turn t) hts
    refine ⟨fun k => (hrest.decoder k).trans (hturn k).1, fun k => ?_,
      hrest.sink.trans (hturn .stdout).2.2⟩
    rw [live_cons, hrest.queue, (hturn k).2.1, arrivals, List.append_assoc]

theorem gains_run (s : Supervisor) (moves : List Move) (h : .advance ∉ moves) :
    s.Gains (s.run moves) (arrivals · s (moves.map .move)) := by
  rw [← live_moves]
  exact gains_live s _ (by simpa using h)

/-- While the owner does not wait, the moves of the others leave it where it is. -/
theorem busy_step (s : Supervisor) (m : Move) (hm : m ≠ .advance)
    (hs : s.isSuspended = false) :
    (s.step m).point = s.point ∧ (s.step m).answer = s.answer := by
  have he := turn_effect s (.move m)
  rw [turn] at he
  generalize s.step m = u at he
  cases he with
  | nothing | exits | loses | breaksInput => exact ⟨rfl, rfl⟩
  | writes | closes | reads | ends | notifies => exact ⟨by simp, by simp⟩
  | looks | looksFailing | finishes | finishesFailing | seesExit | seesRunning | seesLoss
  | seesDrained | seesUndrained => exact absurd rfl hm
  | takesSome _ _ _ hp | takesLast _ _ _ hp | learnsBroken _ hp | learnsError _ _ hp
  | hearsListening hp | hearsLingering hp | learnsExit _ hp | learnsLoss _ hp | reaps _ hp
  | tires hp => simp [isSuspended, hp] at hs

theorem busy_run (s : Supervisor) (moves : List Move) (h : .advance ∉ moves)
    (hs : s.isSuspended = false) :
    (s.run moves).point = s.point ∧ (s.run moves).answer = s.answer := by
  induction moves generalizing s with
  | nil => exact ⟨rfl, rfl⟩
  | cons m moves ih =>
    rw [List.mem_cons, not_or] at h
    obtain ⟨hm, hmoves⟩ := h
    obtain ⟨hp, ha⟩ := busy_step s m (Ne.symm hm) hs
    obtain ⟨hp', ha'⟩ := ih (s.step m) hmoves (by simpa [isSuspended, hp] using hs)
    exact ⟨hp'.trans hp, ha'.trans ha⟩

/-- The bytes `taken` are the characters of `text`, and behind them there is nothing, or the
beginning `rest` of another character. -/
structure Splits (taken : List UInt8) (text : String) (rest : List UInt8) : Prop where
  bytes : taken = encode text ++ rest
  unfinished : rest = [] ∨ Unfinished rest
  longest : IsLongestText taken text

/-- The bytes `taken` are ill formed, as the fault says, and stay so whatever follows them. -/
structure Faulty (taken : List UInt8) (f : Utf8.Fault) : Prop where
  fault : Utf8.text taken = .error f
  broken : ∀ more, ¬ IsText (taken ++ more)

/-- A look at all that is held back and queued. -/
theorem look_sound (c : Channel) (h : c.decoder.Sound) :
    (∃ text rest, Splits (c.decoder.held ++ c.queue.flatten) text rest ∧
      c.look = (.ok text, { c with queue := [], decoder := ⟨rest⟩ })) ∨
    ∃ f, Faulty (c.decoder.held ++ c.queue.flatten) f ∧
      c.look = (.error f, { c with queue := [], decoder := {} }) := by
  by_cases hq : c.queue.flatten = []
  · refine .inl ⟨"", c.decoder.held, ⟨by simp [hq], h, ?_⟩, by simp [Channel.look, hq]⟩
    exact c.decoder.longestText_of_sound "" _ h (by simp [hq])
  · cases hd : c.decoder.decode c.queue.flatten with
    | mk r d =>
    cases r with
    | ok text =>
      obtain ⟨hb, hs⟩ := c.decoder.decode_ok d _ text hd
      exact .inl ⟨text, d.held, ⟨hb, hs, d.longestText_of_sound text _ hs hb⟩,
        by simp [Channel.look, hq, hd]⟩
    | error f =>
      obtain ⟨rfl, n, hn, rfl⟩ := c.decoder.decode_error d _ f hd
      refine .inr ⟨_, ⟨text_of_invalid _ n hn, fun more => ?_⟩, by simp [Channel.look, hq, hd]⟩
      simpa using not_isText_of_invalid "" _ more n hn

/-- What is written to the sink for a text: nothing for the empty one. -/
def entry (k : Stream) (text : String) : List (Stream × String) :=
  if text.isEmpty then [] else [(k, text)]

theorem deliver_entry (s : Supervisor) (k : Stream) (text : String) :
    s.deliver k text = { s with sink := s.sink ++ entry k text } := by
  unfold deliver entry
  split <;> simp

/-- The owner's step where a flush looks at a stream. -/
theorem advance_look (s : Supervisor) (k : Stream) (e : Errand) (hp : s.point = lookPoint k e)
    (h : (s.channel k).decoder.Sound) :
    (∃ text rest, Splits ((s.channel k).decoder.held ++ (s.channel k).queue.flatten) text rest ∧
      s.step .advance =
        ((s.setChannel k { s.channel k with queue := [], decoder := ⟨rest⟩ }).deliver k
          text).looked k e) ∨
    ∃ f, Faulty ((s.channel k).decoder.held ++ (s.channel k).queue.flatten) f ∧
      s.step .advance =
        (s.setChannel k { s.channel k with queue := [], decoder := {} }).fail (.decode k f) := by
  have hstep : s.step .advance = s.look k (·.looked k e) := by
    simp only [step, advance]
    cases k <;> simp only [lookPoint] at hp <;> rw [hp] <;> rfl
  rw [hstep, look]
  obtain ⟨text, rest, hsplits, hl⟩ | ⟨f, hfaulty, hl⟩ := look_sound _ h
  · exact .inl ⟨text, rest, hsplits, by rw [hl]⟩
  · exact .inr ⟨f, hfaulty, by rw [hl]⟩

/-- Where a flush leads to when neither stream was found to be ill formed. -/
def Errand.next : Errand → Point
  | .flush => .idle
  | .live => .checkExit
  | .settled => .checkDrained
  | .last => .finishOut

/-- The bytes that the looks of a flush take: those held back, those queued, and the chunks that
arrive before the look. -/
def taken (s : Supervisor) (early late : Stream → List (List UInt8)) : Stream → List UInt8
  | .stdout => s.stdout.decoder.held ++ (s.stdout.queue ++ early .stdout).flatten
  | .stderr => s.stderr.decoder.held ++
      (s.stderr.queue ++ early .stderr ++ late .stderr).flatten

/-- The first look takes what was there when the flush began and what has arrived by then. -/
theorem taken_first (s a : Supervisor) (early late : Stream → List (List UInt8))
    (h : s.Gains a early) :
    (a.channel .stdout).decoder.held ++ (a.channel .stdout).queue.flatten =
      s.taken early late .stdout := by
  rw [h.decoder, h.queue]
  rfl

/-- What a flush that begins in `s` leads to, when the chunks `early` arrive before its first look
and the chunks `late` between its looks. -/
inductive Flushes (s : Supervisor) (e : Errand) (early late : Stream → List (List UInt8))
    (u : Supervisor) : Prop where
  /-- both looks have given a text; chunks that came too late for the first one wait -/
  | done (out err : String) (outRest errRest : List UInt8)
      (outSplits : Splits (s.taken early late .stdout) out outRest)
      (errSplits : Splits (s.taken early late .stderr) err errRest)
      (sink : u.sink = s.sink ++ entry .stdout out ++ entry .stderr err)
      (outLeft : u.stdout.decoder = ⟨outRest⟩ ∧ u.stdout.queue = late .stdout)
      (errLeft : u.stderr.decoder = ⟨errRest⟩ ∧ u.stderr.queue = [])
      (point : u.point = e.next)
      (answer : u.answer = if e = .flush then some .flushed else s.answer)
  /-- the first look has failed and there was no second -/
  | outFails (f : Utf8.Fault) (faulty : Faulty (s.taken early late .stdout) f)
      (sink : u.sink = s.sink)
      (outLeft : u.stdout.decoder = {} ∧ u.stdout.queue = late .stdout)
      (errLeft : u.stderr.decoder = s.stderr.decoder ∧
        u.stderr.queue = s.stderr.queue ++ early .stderr ++ late .stderr)
      (point : u.point = .idle)
      (answer : u.answer = some (.failed (.decode .stdout f)))
  /-- the second look has failed, after the text of the first stream was handed on -/
  | errFails (out : String) (outRest : List UInt8) (f : Utf8.Fault)
      (outSplits : Splits (s.taken early late .stdout) out outRest)
      (faulty : Faulty (s.taken early late .stderr) f)
      (sink : u.sink = s.sink ++ entry .stdout out)
      (outLeft : u.stdout.decoder = ⟨outRest⟩ ∧ u.stdout.queue = late .stdout)
      (errLeft : u.stderr.decoder = {} ∧ u.stderr.queue = [])
      (point : u.point = .idle)
      (answer : u.answer = some (.failed (.decode .stderr f)))

theorem advance_idle (s : Supervisor) (h : s.point = .idle) : s.step .advance = s := by
  simp [step, advance, h]

/-- The first look fails, and the rest of the flush does nothing. -/
theorem flushes_outFails (s a : Supervisor) (e : Errand) (late : List Move) (f : Utf8.Fault)
    (early : Stream → List (List UInt8)) (hlate : .advance ∉ late) (ha : s.Gains a early)
    (hf : Faulty (s.taken early (arrivals · (a.step .advance) (late.map .move)) .stdout) f)
    (hb : a.step .advance =
      (a.setChannel .stdout { a.stdout with queue := [], decoder := {} }).fail
        (.decode .stdout f)) :
    s.Flushes e early (arrivals · (a.step .advance) (late.map .move))
      (((a.step .advance).run late).step .advance) := by
  generalize a.step .advance = b at hb hf ⊢
  obtain ⟨hp, hanswer⟩ := idle_run b late (by rw [hb]; rfl)
  rw [advance_idle _ hp]
  have hc := gains_run b late hlate
  generalize b.run late = c at hp hanswer hc ⊢
  refine .outFails f hf ?_ ⟨(hc.decoder .stdout).trans ?_, (hc.queue .stdout).trans ?_⟩
    ⟨(hc.decoder .stderr).trans ?_, (hc.queue .stderr).trans ?_⟩ hp ?_
  · rw [hc.sink, hb, ← ha.sink]
    rfl
  · rw [hb]
    rfl
  · simp [hb, fail]
  · rw [hb]
    exact ha.decoder .stderr
  · rw [hb]
    exact congrArg (· ++ _) (ha.queue .stderr)
  · rw [hanswer, hb]
    rfl

/-- What is there at the second look `c` of a flush that began in `s` and whose first look has given
a text. -/
structure SecondLook (s : Supervisor) (e : Errand) (out : String) (rest : List UInt8)
    (early late : Stream → List (List UInt8)) (c : Supervisor) : Prop where
  point : c.point = .lookErr e
  answer : c.answer = s.answer
  sink : c.sink = s.sink ++ entry .stdout out
  outLeft : c.stdout.decoder = ⟨rest⟩ ∧ c.stdout.queue = late .stdout
  errKept : c.stderr.decoder = s.stderr.decoder ∧
    c.stderr.queue = s.stderr.queue ++ early .stderr ++ late .stderr

theorem secondLook_run (s a : Supervisor) (e : Errand) (late : List Move) (out : String)
    (rest : List UInt8) (early : Stream → List (List UInt8)) (hlate : .advance ∉ late)
    (ha : s.Gains a early) (hanswer : a.answer = s.answer)
    (hb : a.step .advance =
      ((a.setChannel .stdout { a.stdout with queue := [], decoder := ⟨rest⟩ }).deliver .stdout
        out).looked .stdout e) :
    s.SecondLook e out rest early (arrivals · (a.step .advance) (late.map .move))
      ((a.step .advance).run late) := by
  rw [deliver_entry] at hb
  generalize a.step .advance = b at hb ⊢
  obtain ⟨hp, hbusy⟩ := busy_run b late hlate (by rw [hb]; rfl)
  have hc := gains_run b late hlate
  refine ⟨?_, ?_, ?_, ⟨(hc.decoder .stdout).trans ?_, (hc.queue .stdout).trans ?_⟩,
    ⟨(hc.decoder .stderr).trans ?_, (hc.queue .stderr).trans ?_⟩⟩
  · rw [hp, hb]
    rfl
  · rw [hbusy, hb, ← hanswer]
    rfl
  · rw [hc.sink, hb, ← ha.sink]
    rfl
  · rw [hb]
    rfl
  · rw [hb]
    rfl
  · rw [hb]
    exact ha.decoder .stderr
  · rw [hb]
    exact congrArg (· ++ _) (ha.queue .stderr)

/-- The second look ends the flush. -/
theorem flushes_second (s c : Supervisor) (e : Errand) (out : String) (rest : List UInt8)
    (early late : Stream → List (List UInt8)) (h : s.SecondLook e out rest early late c)
    (hd : s.stderr.decoder.Sound) (hs : Splits (s.taken early late .stdout) out rest) :
    s.Flushes e early late (c.step .advance) := by
  obtain ⟨hp, hanswer, hsink, ⟨houtD, houtQ⟩, ⟨herrD, herrQ⟩⟩ := h
  have hlook := advance_look c .stderr e hp (show c.stderr.decoder.Sound from herrD ▸ hd)
  simp only [channel, herrD, herrQ] at hlook
  obtain ⟨err, errRest, herr, hu⟩ | ⟨f, hf, hu⟩ := hlook
  · rw [deliver_entry] at hu
    rw [hu]
    refine .done out err rest errRest hs herr ?_ ⟨?_, ?_⟩ ⟨?_, ?_⟩ ?_ ?_
    all_goals cases e <;>
      simp [looked, afterFlush, goTo, reply, setChannel, Errand.next, houtD, houtQ, hsink, hanswer]
  · rw [hu]
    exact .errFails out rest f hs hf (by simp [fail, reply, setChannel, hsink])
      ⟨houtD, houtQ⟩ ⟨rfl, rfl⟩ rfl rfl

theorem flushes_sound (s u : Supervisor) (e : Errand) (early late : Stream → List (List UInt8))
    (h : s.Flushes e early late u) (hd : ∀ k, (s.channel k).decoder.Sound) (k : Stream) :
    (u.channel k).decoder.Sound := by
  cases h with
  | done out err outRest errRest hout herr _ outLeft errLeft =>
    cases k with
    | stdout => exact outLeft.1 ▸ hout.unfinished
    | stderr => exact errLeft.1 ▸ herr.unfinished
  | outFails f _ _ outLeft errLeft =>
    cases k with
    | stdout => exact outLeft.1 ▸ Decoder.sound_empty
    | stderr => exact errLeft.1 ▸ hd .stderr
  | errFails out outRest f hout _ _ outLeft errLeft =>
    cases k with
    | stdout => exact outLeft.1 ▸ hout.unfinished
    | stderr => exact errLeft.1 ▸ Decoder.sound_empty

/-- A flush that is about to look at the first stream, in its own call or in a wait: what its two
looks hand on and leave, whatever arrives before, between and after them. In every state before
the next look what is found there is what was left and, behind it, what has arrived since. -/
theorem flush_leads (s : Supervisor) (e : Errand) (early late : List Move)
    (begins : s.point = .lookOut e) (decoders : ∀ k, (s.channel k).decoder.Sound)
    (before : .advance ∉ early) (between : .advance ∉ late) :
    let looked := (s.run early).step .advance
    let u := (looked.run late).step .advance
    s.Flushes e (arrivals · s (early.map .move)) (arrivals · looked (late.map .move)) u ∧
    (∀ k, (u.channel k).decoder.Sound) ∧
    ∀ next, .move .advance ∉ next → u.Gains (u.live next) (arrivals · u next) := by
  obtain ⟨hp, ha⟩ := busy_run s early before (by rw [isSuspended, begins])
  have hgains := gains_run s early before
  have hsound : (s.run early).stdout.decoder.Sound :=
    hgains.decoder .stdout ▸ decoders .stdout
  have hflushes : s.Flushes e (arrivals · s (early.map .move))
      (arrivals · ((s.run early).step .advance) (late.map .move))
      ((((s.run early).step .advance).run late).step .advance) := by
    have hlook := advance_look (s.run early) .stdout e (hp.trans begins) hsound
    rw [taken_first s _ _ (arrivals · ((s.run early).step .advance) (late.map .move)) hgains]
      at hlook
    obtain ⟨out, rest, hs, hb⟩ | ⟨f, hf, hb⟩ := hlook
    · have hsecond := secondLook_run s _ e late out rest _ between hgains ha hb
      exact flushes_second s _ e out rest _ _ hsecond (decoders .stderr) hs
    · exact flushes_outFails s _ e late f _ between hgains hf hb
  exact ⟨hflushes, flushes_sound s _ e _ _ hflushes decoders, fun next h => gains_live _ next h⟩

/-- A character of the first stream is completed just before the look, another chunk comes too
late for it, and the second stream is found to be ill formed behind its held-back byte. -/
theorem flush_leads_late_chunk : ∃ (s : Supervisor) (early late : List Move),
    let looked := (s.run early).step .advance
    let u := (looked.run late).step .advance
    s.stderr.decoder = ⟨[0xE2]⟩ ∧ u.sink = [(.stdout, "aé")] ∧
    u.answer = some (.failed (.decode .stderr ⟨0, some 1⟩)) ∧ u.stdout.queue = [[0x64]] ∧
    s.Flushes .flush (arrivals · s (early.map .move)) (arrivals · looked (late.map .move)) u ∧
    u.Gains (u.live [.move (.notifies .stdout), .call .flush])
      (arrivals · u [.move (.notifies .stdout), .call .flush]) := by
  let s : Supervisor := {
    stdout := { pipe := [0xA9], queue := [[0x61, 0xC3]] }
    stderr := { queue := [[0x62], [0x63]], decoder := ⟨[0xE2]⟩ }
    point := .lookOut .flush }
  let early : List Move := [.reads .stdout 9, .notifies .stdout]
  let late : List Move := [.writes .stdout [0x64], .reads .stdout 9]
  have hheld : Unfinished [0xE2] :=
    ⟨by simp, '€', [0x82, 0xAC], by simp, by decide⟩
  have hsound : ∀ k, (s.channel k).decoder.Sound := by
    intro k
    cases k with
    | stdout => exact Decoder.sound_empty
    | stderr => exact .inr hheld
  have h := flush_leads s .flush early late rfl hsound (by decide) (by decide)
  exact ⟨s, early, late, rfl, by decide +kernel, by decide +kernel, by decide +kernel, h.1,
    h.2.2 _ (by decide)⟩

end CellRunner.Supervisor
