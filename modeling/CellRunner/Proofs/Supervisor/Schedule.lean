import CellRunner.Proofs.Supervisor.Wait

/-!
# Schedules of flushes

Two schedules hand on the bytes of one stream in different pieces, with flushes in between,
and end with a wait. They fail together. Where they fail at ill-formed bytes, a flush that
comes before these has handed on what stands in front of them, and one that meets both at
once has not.
-/

set_option autoImplicit false

namespace CellRunner.Supervisor
open Utf8

/-- The text handed on for a stream until a call fails to decode. -/
def firstText (k : Stream) (s : Supervisor) : List Turn → String
  | [] => s.delivered k
  | t :: ts => if ∀ j, ¬ s.FailedOn j then firstText k (s.turn t) ts else s.delivered k

theorem unfailed_live (s : Supervisor) (ts : List Turn) (h : s.Unfailed ts) :
    ∀ k, ¬ (s.live ts).FailedOn k := by
  induction ts generalizing s with
  | nil => exact h
  | cons t ts ih => exact ih _ h.2

theorem firstText_failed (k j : Stream) (s : Supervisor) (ts : List Turn) (h : s.FailedOn j) :
    firstText k s ts = s.delivered k := by
  cases ts with
  | nil => rfl
  | cons t ts => rw [firstText, if_neg fun hn => hn j h]

theorem firstText_append (k : Stream) (s : Supervisor) (ts us : List Turn)
    (h : s.Unfailed ts) : firstText k s (ts ++ us) = firstText k (s.live ts) us := by
  induction ts generalizing s with
  | nil => rfl
  | cons t ts ih =>
    rw [List.cons_append, firstText, if_pos h.1]
    exact ih _ h.2

theorem firstText_unfailed (k : Stream) (s : Supervisor) (ts : List Turn)
    (h : s.Unfailed ts) : firstText k s ts = (s.live ts).delivered k := by
  have happ := firstText_append k s ts [] h
  rwa [List.append_nil] at happ

theorem delivered_turn (s : Supervisor) (t : Turn) (k : Stream) (hs : Sound s) :
    (s.delivered k).toList <+: ((s.turn t).delivered k).toList := by
  obtain ⟨r, -, hshows⟩ := turn_change s t k hs
  cases r with
  | ok text =>
    rw [hshows.1, String.toList_append]
    exact List.prefix_append _ _
  | error f => simp [hshows.1]

theorem delivered_live (s : Supervisor) (ts : List Turn) (k : Stream) (hs : Sound s) :
    (s.delivered k).toList <+: ((s.live ts).delivered k).toList := by
  induction ts generalizing s with
  | nil => exact List.prefix_refl _
  | cons t ts ih => exact (delivered_turn s t k hs).trans (ih _ (turn_sound s t hs))

/-- What has been handed on is not taken back. -/
theorem firstText_between (s : Supervisor) (ts : List Turn) (k : Stream) (hs : Sound s) :
    (s.delivered k).toList <+: (firstText k s ts).toList ∧
      (firstText k s ts).toList <+: ((s.live ts).delivered k).toList := by
  induction ts generalizing s with
  | nil => exact ⟨List.prefix_refl _, List.prefix_refl _⟩
  | cons t ts ih =>
    rw [firstText]
    split
    · obtain ⟨hlow, hhigh⟩ := ih _ (turn_sound s t hs)
      exact ⟨(delivered_turn s t k hs).trans hlow, hhigh⟩
    · exact ⟨List.prefix_refl _, delivered_live s (t :: ts) k hs⟩

/-- The first failure leaves one stream spoilt, right after the text handed on until then. -/
theorem spoilt_of_failure (s : Supervisor) (ts : List Turn) (written : Stream → List UInt8)
    (hs : Sound s) (h : ∀ k, (s.channel k).Accounts (s.delivered k) (written k))
    (hnow : ∀ k, ¬ s.FailedOn k) (hu : ¬ s.Unfailed ts) :
    ∃ j, ((s.live ts).channel j).Spoilt (firstText j s ts) (written j ++ output j s ts) := by
  induction ts generalizing s written with
  | nil => exact absurd hnow hu
  | cons t ts ih =>
    have hs' := turn_sound s t hs
    have hall (k : Stream) := turn_accounts s t k (written k) hs (h k)
    simp only [firstText, if_pos hnow, live_cons, output, ← List.append_assoc]
    by_cases hnext : ∀ k, ¬ (s.turn t).FailedOn k
    · refine ih (s.turn t) (fun k => written k ++ s.adds k t) hs' (fun k => ?_) hnext
        fun hrest => hu ⟨hnow, hrest⟩
      obtain ⟨hacc, -⟩ | ⟨hf, -⟩ := hall k
      · exact hacc
      · exact absurd hf (hnext k)
    · obtain ⟨j, hj⟩ : ∃ j, (s.turn t).FailedOn j := by simpa using hnext
      obtain ⟨-, hback⟩ | ⟨-, hspoilt⟩ := hall j
      · exact absurd (hback hj) (hnow j)
      · refine ⟨j, ?_⟩
        rw [firstText_failed j j _ ts hj]
        exact live_spoilt _ ts j _ _ hs' hspoilt

/-- Well-formed streams do not fail. -/
theorem unfailed_of_isText (ts : List Turn) (h : ∀ k, IsText (output k {} ts)) :
    Unfailed {} ts := by
  by_cases hu : Unfailed {} ts
  · exact hu
  · obtain ⟨j, hj⟩ := spoilt_of_failure {} ts (fun _ => []) sound_start accounts_start
      (by simp [FailedOn]) hu
    exact absurd (h j) (spoilt_not_isText _ _ _ hj)

/-- A process writes `bytes` to its first stream, in pieces that are flushed in between, and
ends; when the drains have met the ends of both streams, a wait is made. -/
structure Schedule (bytes : List UInt8) where
  before : List Turn
  moves : List Move
  flushes : ∀ c, .call c ∈ before → c = .flush
  idle : (live {} before).point = .idle
  stdout : output .stdout {} before = bytes
  stderr : output .stderr {} before = []
  drained : ∀ k, ((live {} before).channel k).drain = .finished
  answered : (live {} (waiting before moves)).answer ≠ none
  known : ∀ e, (live {} (waiting before moves)).child ≠ .lost e
  patient : ∀ k, ((live {} (waiting before moves)).channel k).hold ≠ .abandoned

namespace Schedule

variable {bytes : List UInt8}

def turns (S : Schedule bytes) : List Turn := waiting S.before S.moves

/-- Some call fails to decode. -/
def Fails (S : Schedule bytes) : Prop := ¬ Unfailed {} S.turns

/-- The text handed on until the first failure, or until the wait has ended. -/
def text (S : Schedule bytes) : String := firstText .stdout {} S.turns

theorem output_turns (S : Schedule bytes) (k : Stream) :
    output k {} S.turns = output k {} S.before := by
  have hs := live_sound {} S.before sound_start
  obtain ⟨-, hclosed⟩ := (hs.channel k).ended (.inr (S.drained k))
  rw [turns, waiting, output_append, output_closed _ _ k hs hclosed, List.append_nil]

/-- A schedule that does not fail hands on everything, and one that fails is spoilt. -/
theorem outcome (S : Schedule bytes) :
    (¬ S.Fails ∧ encode S.text = bytes) ∨ (S.Fails ∧ ∃ c : Channel, c.Spoilt S.text bytes) := by
  have hs := live_sound {} S.turns sound_start
  by_cases hu : Unfailed {} S.turns
  · refine .inl ⟨not_not_intro hu, ?_⟩
    have hfailed := unfailed_live {} S.turns hu
    have hstands : (live {} S.turns).Stands fun k => output k {} S.turns :=
      .inl fun k => ⟨hfailed k, live_accounts {} S.turns k [] sound_start (accounts_start k) hu⟩
    obtain ⟨a, ha⟩ := Option.ne_none_iff_exists'.mp S.answered
    obtain hw | ⟨-, b, hb, hends⟩ := inWait_waiting S.before S.moves S.idle
    · exact absurd hw.answer S.answered
    cases hends with
    | waited code =>
      have hdone := (waited_complete _ code _ hs hstands hb S.patient .stdout).1
      rw [text, firstText_unfailed _ _ _ hu, hdone, output_turns, S.stdout]
    | undecoded k f => exact absurd ⟨f, hb⟩ (hfailed k)
    | lost e h => exact absurd h (S.known e)
  · refine .inr ⟨hu, ?_⟩
    obtain ⟨j, hj⟩ := spoilt_of_failure {} S.turns (fun _ => []) sound_start accounts_start
      (by simp [FailedOn]) hu
    rw [List.nil_append, output_turns] at hj
    cases j with
    | stdout => exact ⟨_, S.stdout ▸ hj⟩
    | stderr =>
      rw [S.stderr] at hj
      exact absurd ⟨"", encode_empty⟩ (spoilt_not_isText _ _ _ hj)

theorem fails_iff (S : Schedule bytes) : S.Fails ↔ ¬ IsText bytes := by
  obtain ⟨hf, ht⟩ | ⟨hf, c, hc⟩ := S.outcome
  · exact ⟨fun h => absurd h hf, fun h => absurd ⟨_, ht⟩ h⟩
  · exact ⟨fun _ => spoilt_not_isText c _ _ hc, fun _ => hf⟩

theorem text_begins (S : Schedule bytes) : encode S.text <+: bytes := by
  obtain ⟨-, ht⟩ | ⟨-, c, hc⟩ := S.outcome
  · simp [ht]
  · generalize S.text = given at hc ⊢
    cases hc with
    | broken rest _ => exact List.prefix_append _ _
    | unfinished rest _ _ => exact List.prefix_append _ _

/-- Bytes that may still become a text are handed on as far as their characters go. -/
theorem text_of_continues (S : Schedule bytes) (more : List UInt8)
    (h : IsText (bytes ++ more)) : S.text = String.ofList (scan bytes).text := by
  obtain ⟨-, ht⟩ | ⟨-, c, hc⟩ := S.outcome
  · simp [← ht, scan_encode]
  · generalize S.text = given at hc ⊢
    cases hc with
    | broken rest hno => exact absurd h (hno more)
    | unfinished rest hu _ =>
      simp [encode_eq_bytesOf, scan_bytesOf_append, scan_unfinished rest hu, Scan.after]

end Schedule

/-- The turns `ts` lead from `s` to `u` and bring `bytes` to the first stream only. -/
structure Brings (s : Supervisor) (ts : List Turn) (u : Supervisor) (bytes : List UInt8) :
    Prop where
  live : s.live ts = u
  stdout : output .stdout s ts = bytes
  stderr : output .stderr s ts = []

theorem brings_append (s u v : Supervisor) (ts us : List Turn) (bytes more : List UInt8)
    (h : s.Brings ts u bytes) (h' : u.Brings us v more) :
    s.Brings (ts ++ us) v (bytes ++ more) where
  live := by rw [live_append, h.live, h'.live]
  stdout := by rw [output_append, h.live, h.stdout, h'.stdout]
  stderr := by rw [output_append, h.live, h.stderr, h'.stderr]; rfl

/-- A process that still runs, with chunks that wait for the owner. -/
def collecting (queue : List (List UInt8)) (sink : List (Stream × String)) (permit : Bool)
    (answer : Option Answer) : Supervisor :=
  { stdout := { queue := queue }, sink := sink, permit := permit, answer := answer }

/-- The process has ended, and so have its streams. -/
def departed (queue : List (List UInt8)) (sink : List (Stream × String))
    (answer : Option Answer) : Supervisor where
  stdout := { closed := true, queue := queue, drain := .finished }
  stderr := { closed := true, drain := .finished }
  child := .exited 0
  permit := true
  sink := sink
  answer := answer

/-- Bytes are written and read one by one. -/
def arrive (bytes : List UInt8) : List Turn :=
  bytes.flatMap fun b =>
    [.move (.writes .stdout [b]), .move (.reads .stdout 1), .move (.notifies .stdout)]

def flushNow : List Turn := [.call .flush, .move .advance, .move .advance]

def depart : List Turn :=
  [.move (.exits 0), .move (.closes .stdout), .move (.closes .stderr), .move (.ends .stdout),
    .move (.notifies .stdout), .move (.ends .stderr), .move (.notifies .stderr)]

theorem arrive_brings (bytes : List UInt8) (queue : List (List UInt8))
    (sink : List (Stream × String)) (permit : Bool) (answer : Option Answer) :
    ∃ p, (collecting queue sink permit answer).Brings (arrive bytes)
      (collecting (queue ++ bytes.map fun b => [b]) sink p answer) bytes := by
  induction bytes generalizing queue permit with
  | nil => exact ⟨permit, by simp [arrive], rfl, rfl⟩
  | cons b bytes ih =>
    obtain ⟨p, h⟩ := ih (queue ++ [[b]]) true
    have hb : (collecting queue sink permit answer).Brings (arrive [b])
        (collecting (queue ++ [[b]]) sink true answer) [b] := ⟨rfl, rfl, rfl⟩
    have hall := brings_append _ _ _ _ _ _ _ hb h
    exact ⟨p, by simpa [arrive] using hall⟩

theorem depart_brings (queue : List (List UInt8)) (sink : List (Stream × String))
    (permit : Bool) (answer : Option Answer) :
    (collecting queue sink permit answer).Brings depart (departed queue sink answer) [] :=
  ⟨rfl, rfl, rfl⟩

theorem flatten_map_singleton (bytes : List UInt8) :
    (bytes.map fun b => [b]).flatten = bytes := by
  induction bytes with
  | nil => rfl
  | cons b bytes ih => simp [ih]

theorem encode_ne_nil (text : String) (h : text ≠ "") : encode text ≠ [] := by
  intro he
  exact h (encode_inj text "" (by rw [he, encode_empty]))

theorem flush_brings (text : String) (permit : Bool) (h : text ≠ "") :
    (collecting ((encode text).map fun b => [b]) [] permit none).Brings flushNow
      (collecting [] [(.stdout, text)] permit (some .flushed)) [] := by
  refine ⟨?_, rfl, rfl⟩
  have hout : Channel.look { queue := (encode text).map fun b => [b] } = (.ok text, {}) := by
    simp [Channel.look, flatten_map_singleton, encode_ne_nil text h, Decoder.decode_encode]
  have herr : Channel.look {} = (.ok "", {}) := rfl
  simp [flushNow, collecting, turn, begin, step, advance, look, channel, setChannel, hout, herr,
    deliver, h, goTo, afterFlush, reply]

/-- The owner lets both drains go and makes its end checks. -/
def seeOff : List Move :=
  List.replicate 5 .advance ++ .reaps .stdout :: List.replicate 3 .advance ++
    .reaps .stderr :: List.replicate 5 .advance

/-- A wait that has decoded all chunks of the first stream. -/
def decoded (d : Decoder) (sink : List (Stream × String)) : Supervisor where
  stdout := { closed := true, drain := .finished, decoder := d }
  stderr := { closed := true, drain := .finished }
  child := .exited 0
  permit := true
  sink := sink
  point := .lookErr .live

/-- The same wait when it has seen the exit and both ends. -/
def checking (d : Decoder) (sink : List (Stream × String)) : Supervisor where
  stdout := { closed := true, drain := .finished, hold := .reaped, decoder := d }
  stderr := { closed := true, drain := .finished, hold := .reaped }
  child := .exited 0
  recorded := some 0
  permit := true
  sink := sink
  point := .finishOut

theorem seeOff_decoded (d : Decoder) (sink : List (Stream × String)) :
    (decoded d sink).run seeOff = checking d sink := by
  have hlook (c : Channel) (hq : c.queue = []) : c.look = (.ok "", c) := by
    obtain ⟨_, _, _, _, _, _⟩ := c
    obtain rfl : _ = [] := hq
    rfl
  simp [run, seeOff, List.replicate, step, advance, decoded, look, channel, setChannel, hlook,
    deliver, goTo, afterFlush, poll, record, reap, Channel.isReapable, Channel.reap,
    Channel.isReleased, checking]

/-- A wait for a process that has ended with its streams comes to an answer, and nothing else
goes wrong. -/
structure Concludes (s : Supervisor) : Prop where
  answered : s.answer ≠ none
  known : ∀ e, s.child ≠ .lost e
  patient : ∀ k, (s.channel k).hold ≠ .abandoned

theorem checking_concludes (d : Decoder) (sink : List (Stream × String)) :
    ((checking d sink).run [.advance, .advance]).Concludes := by
  have hfin : ({} : Decoder).finish = (.ok (), {}) := rfl
  cases hd : d.finish with
  | mk r d' =>
  cases r with
  | ok _ =>
    constructor <;>
      simp [run, step, advance, checking, finish, channel, setChannel, Channel.finish, hd, hfin,
        goTo, conclude, reply, forall_stream]
  | error f =>
    constructor <;>
      simp [run, step, advance, checking, finish, channel, setChannel, Channel.finish, hd,
        fail, reply, forall_stream]

theorem departed_concludes (queue : List (List UInt8)) (sink : List (Stream × String))
    (answer : Option Answer) :
    (((departed queue sink answer).begin .wait).run
      (.advance :: seeOff ++ [.advance, .advance])).Concludes := by
  have hsnd := look_snd { closed := true, queue := queue, drain := .finished }
  rw [begin_wait _ rfl]
  cases hl : Channel.look { closed := true, queue := queue, drain := .finished } with
  | mk r c =>
  obtain ⟨d, rfl⟩ : ∃ d, c = { closed := true, drain := .finished, decoder := d } := by
    rw [hl] at hsnd
    exact ⟨_, hsnd⟩
  cases r with
  | error f =>
    constructor <;>
      simp [run, seeOff, List.replicate, step, advance, departed, look, channel, setChannel, hl,
        fail, reply, reap, forall_stream]
  | ok text =>
    obtain ⟨sink', hstep⟩ : ∃ sink', ({ departed queue sink answer with
        answer := none, point := .lookOut .live } : Supervisor).step .advance =
          decoded d sink' := by
      refine ⟨if text.isEmpty then sink else sink ++ [(.stdout, text)], ?_⟩
      simp only [step, advance, departed, look, channel, setChannel, hl, goTo, deliver]
      split <;> rfl
    have hrun := checking_concludes d sink'
    rw [← seeOff_decoded, run, run, ← List.foldl_append] at hrun
    rwa [List.cons_append, run, List.foldl_cons, hstep]

theorem run_departed_invalid (queue : List (List UInt8)) (sink : List (Stream × String))
    (answer : Option Answer) (f : Fault)
    (h : (Channel.look { closed := true, queue := queue, drain := .finished }).1 = .error f) :
    ((((departed queue sink answer).begin .wait).run
      (.advance :: seeOff ++ [.advance, .advance])).delivered .stdout) =
      (departed queue sink answer).delivered .stdout := by
  rw [begin_wait _ rfl]
  cases hl : Channel.look { closed := true, queue := queue, drain := .finished } with
  | mk r c =>
  obtain rfl : r = .error f := by simpa [hl] using h
  simp [run, seeOff, List.replicate, step, advance, departed, look, channel, setChannel, hl,
    fail, reply, reap, delivered]

theorem single_brings (bytes : List UInt8) :
    Brings {} (arrive bytes ++ depart) (departed (bytes.map fun b => [b]) [] none) bytes := by
  obtain ⟨p, h⟩ := arrive_brings bytes [] [] false none
  have hall := brings_append _ _ _ _ _ _ _ h (depart_brings _ _ _ _)
  rw [List.append_nil] at hall
  exact hall

theorem flushed_brings (text : String) (h : text ≠ "") :
    ∃ p, Brings {} (arrive (encode text) ++ flushNow)
      (collecting [] [(.stdout, text)] p (some .flushed)) (encode text) := by
  obtain ⟨p, ha⟩ := arrive_brings (encode text) [] [] false none
  have hall := brings_append _ _ _ _ _ _ _ ha (flush_brings text p h)
  rw [List.append_nil] at hall
  exact ⟨p, hall⟩

theorem cut_brings (text : String) (rest : List UInt8) (h : text ≠ "") :
    Brings {} (arrive (encode text) ++ flushNow ++ (arrive rest ++ depart))
      (departed (rest.map fun b => [b]) [(.stdout, text)] (some .flushed))
      (encode text ++ rest) := by
  obtain ⟨p, hf⟩ := flushed_brings text h
  obtain ⟨q, hr⟩ := arrive_brings rest [] [(.stdout, text)] p (some .flushed)
  have hd := brings_append _ _ _ _ _ _ _ hr (depart_brings _ _ q _)
  simpa using brings_append _ _ _ _ _ _ _ hf hd

namespace Schedule

/-- The schedule of some turns after which the process has departed. -/
def departing (before : List Turn) (queue : List (List UInt8)) (sink : List (Stream × String))
    (answer : Option Answer) (bytes : List UInt8)
    (flushes : ∀ c, .call c ∈ before → c = .flush)
    (h : Brings {} before (departed queue sink answer) bytes) : Schedule bytes where
  before := before
  moves := .advance :: seeOff ++ [.advance, .advance]
  flushes := flushes
  idle := by rw [h.live]; rfl
  stdout := h.stdout
  stderr := h.stderr
  drained := by rw [h.live]; simp [departed, channel, forall_stream]
  answered := by rw [live_waiting, h.live]; exact (departed_concludes _ _ _).answered
  known := by rw [live_waiting, h.live]; exact (departed_concludes _ _ _).known
  patient := by rw [live_waiting, h.live]; exact (departed_concludes _ _ _).patient

/-- All bytes are there when the wait first looks. -/
def single (bytes : List UInt8) : Schedule bytes :=
  departing (arrive bytes ++ depart) _ _ _ bytes (by simp [arrive, depart]) (single_brings bytes)

/-- A flush comes between a text and what follows it. -/
def cut (text : String) (rest : List UInt8) (h : text ≠ "") : Schedule (encode text ++ rest) :=
  departing (arrive (encode text) ++ flushNow ++ (arrive rest ++ depart)) _ _ _ _
    (by simp [arrive, depart, flushNow]) (cut_brings text rest h)

theorem single_text (bytes : List UInt8) (n : Nat) (h : (scan bytes).ending = .invalid n) :
    (single bytes).text = "" := by
  have hlook : (Channel.look
      { closed := true, queue := bytes.map fun b => [b], drain := .finished }).1 =
        .error ⟨(scan bytes).validUpTo, some n⟩ := by
    have hne : bytes ≠ [] := by
      rintro rfl
      simp [scan_nil] at h
    simp [Channel.look, flatten_map_singleton, hne, Decoder.decode, h]
  have hall := (firstText_between {} (single bytes).turns .stdout sound_start).2
  have hrun := run_departed_invalid _ [] none _ hlook
  rw [← (single_brings bytes).live, ← live_waiting] at hrun
  have hend : (live {} (single bytes).turns).delivered .stdout = "" := by
    rw [(single_brings bytes).live] at hrun
    exact hrun
  rw [hend] at hall
  exact String.toList_inj.mp (List.prefix_nil.mp hall)

theorem cut_text (text : String) (rest : List UInt8) (h : text ≠ "") :
    text.toList <+: (cut text rest h).text.toList := by
  obtain ⟨p, hf⟩ := flushed_brings text h
  have hu : Unfailed {} (arrive (encode text) ++ flushNow) := by
    refine unfailed_of_isText _ fun k => ?_
    cases k with
    | stdout => exact ⟨text, hf.stdout.symm⟩
    | stderr => exact ⟨"", by rw [hf.stderr, encode_empty]⟩
  have hs := live_sound {} (arrive (encode text) ++ flushNow) sound_start
  have htext : (cut text rest h).text = firstText .stdout (live {} (arrive (encode text) ++
      flushNow)) ((arrive rest ++ depart) ++ .call .wait :: (cut text rest h).moves.map .move) := by
    rw [← firstText_append _ _ _ _ hu, ← List.append_assoc]
    rfl
  rw [htext]
  refine List.IsPrefix.trans ?_ (firstText_between _ _ .stdout hs).1
  rw [hf.live]
  simp [delivered, collecting]

end Schedule

/-- All schedules fail alike, at ill-formed bytes and at an unfinished end. They hand on the
same text as well, unless the bytes are ill formed behind some characters. -/
theorem schedules_agree (bytes : List UInt8) :
    Nonempty (Schedule bytes) ∧
    (∀ S : Schedule bytes, S.Fails ↔ ¬ IsText bytes) ∧
    ((∀ S T : Schedule bytes, S.text = T.text) ↔
      (∃ more, IsText (bytes ++ more)) ∨ ∀ text, encode text <+: bytes → text = "") := by
  refine ⟨⟨.single bytes⟩, Schedule.fails_iff, ⟨fun hall => ?_, ?_⟩⟩
  · by_cases hc : ∃ more, IsText (bytes ++ more)
    · exact .inl hc
    · refine .inr fun text htext => ?_
      obtain ⟨rest, rfl⟩ := htext
      obtain ⟨n, hn⟩ : ∃ n, (scan (encode text ++ rest)).ending = .invalid n := by
        rw [continues_iff] at hc
        simpa using hc
      by_cases ht : text = ""
      · exact ht
      · have hcut := Schedule.cut_text text rest ht
        rw [hall _ (.single _), Schedule.single_text _ n hn] at hcut
        exact String.toList_inj.mp (List.prefix_nil.mp hcut)
  · rintro (⟨more, hmore⟩ | hnone) S T
    · rw [S.text_of_continues more hmore, T.text_of_continues more hmore]
    · rw [hnone _ S.text_begins, hnone _ T.text_begins]

/-- A flush between two letters and an ill-formed byte, and no flush there. -/
theorem schedules_differ : ∃ S T : Schedule [0x61, 0x62, 0xFF],
    S.Fails ∧ T.Fails ∧ S.text = "ab" ∧ T.text = "" := by
  let S : Schedule [0x61, 0x62, 0xFF] := {
    before := arrive [0x61, 0x62] ++ flushNow ++ arrive [0xFF] ++ depart
    moves := [.advance]
    flushes := by simp [arrive, flushNow, depart]
    idle := by decide +kernel
    stdout := by decide +kernel
    stderr := by decide +kernel
    drained := by decide +kernel
    answered := by decide +kernel
    known := fun e h => by cases h
    patient := by decide +kernel }
  let T : Schedule [0x61, 0x62, 0xFF] := {
    before := arrive [0x61, 0x62, 0xFF] ++ depart
    moves := [.advance]
    flushes := by simp [arrive, depart]
    idle := by decide +kernel
    stdout := by decide +kernel
    stderr := by decide +kernel
    drained := by decide +kernel
    answered := by decide +kernel
    known := fun e h => by cases h
    patient := by decide +kernel }
  have hno : ¬ IsText [0x61, 0x62, 0xFF] := by
    rw [isText_iff]
    decide +kernel
  exact ⟨S, T, S.fails_iff.mpr hno, T.fails_iff.mpr hno, by decide +kernel, by decide +kernel⟩

end CellRunner.Supervisor
