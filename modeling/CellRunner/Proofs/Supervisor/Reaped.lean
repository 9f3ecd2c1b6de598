import CellRunner.Proofs.Supervisor.Failures

/-!
# What is left of a stream that has ended

A drain that was seen to finish has met the end of its stream, so what the owner has not handed on
by then is all that there will ever be. Looks only take characters from its front, and when it ends
within a character, one end check tells so and leaves nothing.
-/

set_option autoImplicit false

namespace CellRunner.Supervisor
open Utf8

namespace Channel

/-- What is left of the stream ends within a character. -/
def isCut (c : Channel) : Bool :=
  match (scan c.unseen).ending with
  | .incomplete _ => true
  | _ => false

/-- Nothing in what is left of the stream is ill formed. -/
def Clean (c : Channel) : Prop := ∀ n, (scan c.unseen).ending ≠ .invalid n

/-- The drain was seen to finish, and what is left of the stream at most lacks the end of a
character. -/
structure Ended (c : Channel) : Prop where
  sound : c.Sound
  reaped : c.hold = .reaped
  decoder : c.decoder.Sound
  clean : c.Clean

variable {c d : Channel}

theorem Ended.unseen_eq (h : c.Ended) : c.unseen = c.decoder.held ++ c.queue.flatten := by
  have hpipe := (h.sound.ended (.inr (h.sound.reaped h.reaped))).1
  rw [unseen, hpipe, List.append_nil]

/-- What is left is judged alike before and after characters are taken from its front. -/
theorem ending_of_taken (text : String) (h : encode text ++ d.unseen = c.unseen) :
    (scan d.unseen).ending = (scan c.unseen).ending := by
  rw [← h, ending_encode_append]

theorem isCut_of_taken (text : String) (h : encode text ++ d.unseen = c.unseen) :
    d.isCut = c.isCut := by
  unfold isCut
  rw [ending_of_taken text h]

theorem clean_nil (h : c.unseen = []) : c.isCut = false ∧ c.Clean := by
  simp [isCut, Clean, h, scan_nil]

/-- A look at what is left does not fail. -/
theorem Ended.look_ok (h : c.Ended) (f : Utf8.Fault) : c.look.1 ≠ .error f := by
  intro hl
  obtain ⟨n, hn, -⟩ := c.look_error f hl
  exact h.clean n (by rw [h.unseen_eq, hn])

/-- The end check tells that a character lacks its end, and leaves nothing. -/
theorem Ended.finish_error (h : c.Ended) (hq : c.queue = []) (f : Utf8.Fault)
    (hf : c.finish.1 = .error f) :
    f = ⟨0, none⟩ ∧ c.isCut = true ∧ c.finish.2.unseen = [] := by
  have hpipe := (h.sound.ended (.inr (h.sound.reaped h.reaped))).1
  have hfinish : c.finish.1 = c.decoder.finish.1 := by simp [finish, h.reaped]
  rw [hfinish, Decoder.finish_sound _ h.decoder] at hf
  have hheld : c.decoder.held ≠ [] := fun hheld => by simp [hheld] at hf
  refine ⟨by simpa [hheld, eq_comm] using hf, ?_, ?_⟩
  · have hu := h.decoder.resolve_left hheld
    simp [isCut, h.unseen_eq, hq, scan_unfinished _ hu]
  · have hempty := finish_empty c (by simp [h.reaped])
    rw [finish_snd] at hempty ⊢
    simp only at hempty
    simp [unseen, hempty, hq, hpipe]

/-- A step that does not fail at the stream takes at most characters from its front. -/
theorem Ended.taken (h : c.Ended) (added : List UInt8) (text : String)
    (hd : Change c d added (.ok text)) : encode text ++ d.unseen = c.unseen := by
  have hacc : c.Accounts "" c.unseen := ⟨by simp [unseen, encode], h.decoder⟩
  have hclosed := (h.sound.ended (.inr (h.sound.reaped h.reaped))).2
  obtain ⟨-, rfl⟩ := (change_keeps c d added _ hd).1 hclosed
  have hbytes := (accounts_of_change c d "" text _ _ hacc hd).bytes
  simpa [unseen] using hbytes

end Channel

/-- A wait tells that a stream ends within a character, and nothing of the stream is left. -/
structure TellsCut (s u : Supervisor) (k : Stream) : Prop where
  at' : s.point = finishPoint k
  cut : (s.channel k).isCut = true
  left : (u.channel k).unseen = []
  answer : u.answer = some (.failed (.decode k ⟨0, none⟩))

/-- What a turn does with a stream that has ended: it may take characters from the front of what is
left, or tell that the last one lacks its end. -/
theorem ended_turn (s : Supervisor) (t : Turn) (k : Stream) (hs : Sound s)
    (h : (s.channel k).Ended) :
    ((s.turn t).channel k).Ended ∧
      ((∃ text, encode text ++ ((s.turn t).channel k).unseen = (s.channel k).unseen ∧
          ((s.turn t).FailedOn k → s.FailedOn k)) ∨
        s.answer = none ∧ s.TellsCut (s.turn t) k) := by
  have hsound := (turn_sound s t hs).channel k
  obtain ⟨r, hc, hshows⟩ := turn_change s t k hs
  have hreaped : ((s.turn t).channel k).hold = .reaped := by
    rw [(change_keeps _ _ _ r hc).2 (by simp [h.reaped]), h.reaped]
  have hdecoder := decoder_of_change _ _ _ r h.decoder hc
  cases r with
  | ok text =>
    have htaken := h.taken _ text hc
    refine ⟨⟨hsound, hreaped, hdecoder, fun n => ?_⟩, .inl ⟨text, htaken, hshows.2⟩⟩
    rw [Channel.ending_of_taken text htaken]
    exact h.clean n
  | error f =>
    obtain ⟨-, hbefore, hafter⟩ := hshows
    obtain hsame | ⟨-, hfails⟩ := failing_cause s t k f hs hafter
    · simp [hbefore] at hsame
    cases hfails with
    | atLook e _ hl => exact absurd hl (h.look_ok f)
    | atEnd hp hf _ hleft =>
      obtain ⟨hq, -⟩ := settled_at_finish s k hs hp (by simp [h.reaped])
      obtain ⟨rfl, hcut, hempty⟩ := h.finish_error hq f hf
      rw [← hleft] at hempty
      exact ⟨⟨hsound, hreaped, hdecoder, (Channel.clean_nil hempty).2⟩,
        .inr ⟨hbefore, hp, hcut, hempty, hafter⟩⟩

theorem ended_live (s : Supervisor) (ts : List Turn) (k : Stream) (hs : Sound s)
    (h : (s.channel k).Ended) : ((s.live ts).channel k).Ended := by
  induction ts generalizing s with
  | nil => exact h
  | cons t ts ih => exact ih _ (turn_sound s t hs) (ended_turn s t k hs h).1

/-- A wait that has come to an exit code leaves nothing of a stream that has ended. -/
theorem nothing_left (s : Supervisor) (code : ExitCode) (k : Stream) (hs : Sound s)
    (ha : s.answer = some (.waited code)) (h : (s.channel k).hold = .reaped) :
    (s.channel k).unseen = [] := by
  obtain ⟨hq, hheld⟩ := ((hs.waited code ha).2 k).2 h
  have hpipe := ((hs.channel k).ended (.inr ((hs.channel k).reaped h))).1
  rw [Channel.unseen, hq, hheld, hpipe]
  rfl

end CellRunner.Supervisor
