import CellRunner.Proofs.Supervisor.Conservation

/-!
# The books of one stream

What a drain has read, and what it has not, make up what was written; and what it has read is
what was handed on, what is held back and what is queued. These hold for a stream as long as no
call has failed at it, whatever becomes of the other stream, and also after the owner has let go
of the drain: then nothing more is read.
-/

set_option autoImplicit false

namespace CellRunner.Supervisor
open Utf8

/-- The bytes that leave the pipe of a stream in a turn. -/
def leaves (s : Supervisor) (k : Stream) : Turn → List UInt8
  | .move (.reads stream n) =>
    if stream = k && (s.channel k).drain = .reading then
      (s.channel k).pipe.take (min n chunkSize)
    else []
  | _ => []

/-- All bytes that the drain of a stream has read during some turns. -/
def read (k : Stream) (s : Supervisor) : List Turn → List UInt8
  | [] => []
  | t :: ts => s.leaves k t ++ read k (s.turn t) ts

namespace Channel

theorem pipe_read (c : Channel) (n : Nat) :
    (if c.drain = .reading then c.pipe.take (min n chunkSize) else []) ++ (c.read n).pipe =
      c.pipe := by
  have hsplit := take_append_drop_take c.pipe (min n chunkSize)
  unfold read
  by_cases hd : c.drain = .reading
  · by_cases hempty : c.pipe.take (min n chunkSize) = []
    · simp [hd, hempty]
    · simpa [hd, hempty] using hsplit
  · simp [hd]

theorem pipe_finishReading (c : Channel) : c.finishReading.pipe = c.pipe := by
  unfold finishReading
  split <;> rfl

theorem pipe_giveNotice (c : Channel) : c.giveNotice.pipe = c.pipe := by
  unfold giveNotice
  split <;> rfl

theorem pipe_abandon (c : Channel) : c.abandon.pipe = c.pipe := by
  unfold abandon
  split <;> rfl

end Channel

theorem pipe_setChannel (s : Supervisor) (j k : Stream) (c : Channel)
    (h : c.pipe = (s.channel j).pipe) :
    ((s.setChannel j c).channel k).pipe = (s.channel k).pipe := by
  by_cases hj : j = k
  · subst hj
    rw [channel_setChannel, h]
  · rw [channel_setChannel_ne s j k c (Ne.symm hj)]

/-- Only a drain that reads takes bytes from a pipe. -/
theorem turn_pipe (s : Supervisor) (t : Turn) (k : Stream)
    (ht : ∀ j n, t ≠ .move (.reads j n)) :
    ((s.turn t).channel k).pipe = (s.channel k).pipe ++ s.adds k t := by
  have he := turn_effect s t
  generalize s.turn t = u at he
  have hsame (u : Supervisor) (ho : u.stdout = s.stdout) (he : u.stderr = s.stderr) :
      (u.channel k).pipe = (s.channel k).pipe ++ [] := by
    rw [channel_congr s u k ho he, List.append_nil]
  have hset (j : Stream) (c : Channel) (u : Supervisor) (hc : c.pipe = (s.channel j).pipe)
      (hu : u.channel k = (s.setChannel j c).channel k) :
      (u.channel k).pipe = (s.channel k).pipe ++ [] := by
    rw [hu, pipe_setChannel s j k c hc, List.append_nil]
  cases he with
  | nothing t _ silent => rw [silent, List.append_nil]
  | reads j n => exact absurd rfl (ht j n)
  | writes j bytes =>
    by_cases hj : j = k
    · subst hj
      rw [channel_setChannel]
      by_cases hc : (s.channel j).closed <;> simp [Channel.write, adds, hc]
    · rw [channel_setChannel_ne s j k _ (Ne.symm hj)]
      simp [adds, hj]
  | closes j => exact hset j (s.channel j).close _ rfl rfl
  | ends j => exact hset j _ _ (Channel.pipe_finishReading _) rfl
  | notifies j _ =>
    exact hset j _ _ (Channel.pipe_giveNotice _) (channel_congr _ _ k rfl rfl)
  | reaps j _ _ => exact hset j (s.channel j).reap _ rfl (by simp)
  | tires =>
    cases k <;> simp [channel, Channel.pipe_abandon, adds]
  | looks j e text _ _ =>
    refine hset j (s.channel j).look.2 _ (by rw [look_snd]) ?_
    rw [(channel_looked _ j k e).1, channel_deliver]
  | looksFailing j e f _ _ =>
    exact hset j (s.channel j).look.2 _ (by rw [look_snd]) (by rw [fail, channel_reply])
  | finishes j _ _ =>
    exact hset j (s.channel j).finish.2 _ (by rw [finish_snd]) (channel_finished _ j k).1
  | finishesFailing j f _ _ =>
    exact hset j (s.channel j).finish.2 _ (by rw [finish_snd]) (by rw [fail, channel_reply])
  | learnsExit code | seesExit code => simp [adds]
  | _ => exact hsame _ rfl rfl

theorem leaves_nil (s : Supervisor) (t : Turn) (k : Stream)
    (ht : ∀ j n, t ≠ .move (.reads j n)) : s.leaves k t = [] := by
  unfold leaves
  split
  next j n => exact absurd rfl (ht j n)
  · rfl

theorem turn_leaves (s : Supervisor) (t : Turn) (k : Stream) :
    s.leaves k t ++ ((s.turn t).channel k).pipe = (s.channel k).pipe ++ s.adds k t := by
  by_cases ht : ∃ j n, t = .move (.reads j n)
  · obtain ⟨j, n, rfl⟩ := ht
    by_cases hj : j = k
    · subst hj
      simpa [leaves, adds, turn, step] using Channel.pipe_read (s.channel j) n
    · simp [leaves, adds, turn, step, hj, channel_setChannel_ne s j k _ (Ne.symm hj)]
  · have hreads (j : Stream) (n : Nat) : t ≠ .move (.reads j n) := fun h => ht ⟨j, n, h⟩
    rw [leaves_nil s t k hreads, List.nil_append]
    exact turn_pipe s t k hreads

/-- What was read and what is unread make up what was unread and what was written. -/
theorem live_read (s : Supervisor) (ts : List Turn) (k : Stream) :
    read k s ts ++ ((s.live ts).channel k).pipe = (s.channel k).pipe ++ output k s ts := by
  induction ts generalizing s with
  | nil => simp [read, output]
  | cons t ts ih =>
    rw [live_cons, read, output, List.append_assoc, ih, ← List.append_assoc, turn_leaves,
      List.append_assoc]

/-- In every state of a life, and for each stream at which no call has failed so far, the text
handed on, the bytes held back, the queued chunks and the unread bytes are in this order what was
written; and without the unread bytes they are what has been read. -/
theorem live_conserves (ts : List Turn) (k : Stream) (h : UnfailedOn k {} ts) :
    encode ((live {} ts).delivered k) ++ ((live {} ts).channel k).decoder.held ++
        ((live {} ts).channel k).queue.flatten ++ ((live {} ts).channel k).pipe =
      output k {} ts ∧
    encode ((live {} ts).delivered k) ++ ((live {} ts).channel k).decoder.held ++
        ((live {} ts).channel k).queue.flatten = read k {} ts := by
  have hacc := (live_accounts_on {} ts k [] sound_start (accounts_start k) h).bytes
  have hread := live_read {} ts k
  have hpipe : (({} : Supervisor).channel k).pipe = [] := by cases k <;> rfl
  rw [List.nil_append] at hacc
  rw [hpipe, List.nil_append] at hread
  exact ⟨hacc, List.append_cancel_right (hacc.trans hread.symm)⟩

/-- The first stream has something in each place, and the second has just failed to decode. -/
theorem live_conserves_beside_failure : ∃ ts : List Turn,
    UnfailedOn .stdout {} ts ∧ (live {} ts).FailedOn .stderr ∧
    (live {} ts).delivered .stdout = "a" ∧
    encode ((live {} ts).delivered .stdout) ++ ((live {} ts).channel .stdout).decoder.held ++
        ((live {} ts).channel .stdout).queue.flatten ++ ((live {} ts).channel .stdout).pipe =
      [0x61, 0xC3, 0xA9, 0x62] := by
  let ts : List Turn := [.move (.writes .stdout [0x61, 0xC3]), .move (.reads .stdout 2),
    .move (.notifies .stdout), .call .flush, .move .advance, .move .advance,
    .move (.writes .stdout [0xA9, 0x62]), .move (.writes .stderr [0xFF]),
    .move (.reads .stderr 1), .call .flush, .move .advance, .move (.reads .stdout 1),
    .move .advance]
  have h : UnfailedOn .stdout {} ts := by decide +kernel
  have hall := (live_conserves ts .stdout h).1
  have hbytes : output .stdout {} ts = [0x61, 0xC3, 0xA9, 0x62] := by decide +kernel
  exact ⟨ts, h, by decide +kernel, by decide +kernel, hall.trans hbytes⟩

end CellRunner.Supervisor
