import CellRunner.Proofs.Supervisor.IllFormed

/-!
# A decoder in use

Whatever is asked of a decoder, and also after faults, it holds nothing or the beginning of one
character. A fault and the end of the stream leave nothing behind, so a decoder that has met
either goes on like a new one.
-/

set_option autoImplicit false

namespace CellRunner

namespace Utf8

/-- The longest encoding has four bytes, so a proper beginning has at most three. -/
theorem length_unfinished (bs : List UInt8) (h : Unfinished bs) :
    1 ≤ bs.length ∧ bs.length ≤ 3 := by
  obtain ⟨hne, c, rest, hrest, hc⟩ := h
  have hsize : bs.length + rest.length ≤ 4 := by
    rw [← List.length_append, ← hc, String.length_utf8EncodeChar]
    exact c.utf8Size_le_four
  have hbs := List.length_pos_iff.mpr hne
  have hmore := List.length_pos_iff.mpr hrest
  omega

theorem text_encode (s : String) : text (encode s) = .ok s := by
  simp [text, scan_encode]

theorem text_unfinished (bs : List UInt8) (h : Unfinished bs) : text bs = .error ⟨0, none⟩ := by
  simp [text, scan_unfinished bs h]

/-- Bytes that only lack their end are a text up to the place of the fault, and the beginning of
a character from there on. -/
theorem cut_of_text (bs : List UInt8) (v : Nat) (h : text bs = .error ⟨v, none⟩) :
    (scan bs).ending = .incomplete (bs.drop v) ∧
      encode (String.ofList (scan bs).text) = bs.take v := by
  obtain ⟨rest, hb, hv, hd⟩ := scan_split bs
  cases he : (scan bs).ending with
  | complete => simp [text, he] at h
  | invalid n => simp [text, he] at h
  | incomplete held =>
    obtain rfl : (scan bs).validUpTo = v := by simpa [text, he] using h
    rw [he] at hd
    obtain ⟨rfl, -⟩ := hd
    have htake : bs.take (scan bs).validUpTo = bytesOf (scan bs).text := by
      rw [hv]
      exact (congrArg _ hb).trans List.take_left
    have hdrop : bs.drop (scan bs).validUpTo = held := by
      rw [hv]
      exact (congrArg _ hb).trans List.drop_left
    rw [hdrop, htake, encode_ofList]
    exact ⟨rfl, rfl⟩

end Utf8

namespace StreamDecoder
open Utf8

/-- What is asked of a decoder. -/
inductive Request where
  | decode (bytes : List UInt8)
  | finish
  deriving DecidableEq, Repr

inductive Reply where
  | decoded (result : Except CellRunner.Fault String)
  | finished (result : Except CellRunner.Fault Unit)

/-- The decoder has met a fault, or the end of the stream. -/
def Reply.isFinal : Reply → Bool
  | .decoded (.ok _) => false
  | .decoded (.error _) => true
  | .finished _ => true

def serve (d : StreamDecoder) : Request → Reply × StreamDecoder
  | .decode bytes =>
    let (result, d) := d.decode bytes
    (.decoded result, d)
  | .finish =>
    let (result, d) := d.finish
    (.finished result, d)

/-- Serves requests one after the other, and gives the replies in order. -/
def serveAll (d : StreamDecoder) : List Request → List Reply × StreamDecoder
  | [] => ([], d)
  | q :: qs =>
    let (reply, d) := d.serve q
    let (replies, d) := d.serveAll qs
    (reply :: replies, d)

theorem decode_of_ok (d : StreamDecoder) (bytes : List UInt8) (s : String) (d' : Decoder)
    (h : d.decoder.decode bytes = (.ok s, d')) :
    d.decode bytes = (.ok s, { d with decoder := d' }) := by
  rw [decode, h]
  rfl

theorem finish_of_sound (d : StreamDecoder) (h : d.decoder.Sound) :
    d.finish = (if d.decoder.held = [] then .ok () else .error (.decode d.stream ⟨0, none⟩),
      { stream := d.stream }) := by
  rw [finish, d.decoder.finish_sound h]
  by_cases hheld : d.decoder.held = []
  · rw [if_pos hheld, if_pos hheld]
    rfl
  · rw [if_neg hheld, if_neg hheld]
    rfl

/-- A final reply leaves a new decoder for the same stream; any other keeps a sound one. -/
theorem serve_sound (d : StreamDecoder) (q : Request) (h : d.decoder.Sound) :
    (d.serve q).2.stream = d.stream ∧ (d.serve q).2.decoder.Sound ∧
      ((d.serve q).1.isFinal = true → (d.serve q).2 = { stream := d.stream }) := by
  cases q with
  | finish =>
    have hs : (d.serve .finish).2 = { stream := d.stream } := by
      simp [serve, finish_of_sound d h]
    rw [hs]
    exact ⟨rfl, Decoder.sound_empty, fun _ => rfl⟩
  | decode bytes =>
    cases hr : d.decoder.decode bytes with
    | mk r d' =>
    cases r with
    | ok text =>
      have hd' := (d.decoder.decode_ok d' bytes text hr).2
      simpa [serve, decode_of_ok d bytes text d' hr, Reply.isFinal] using hd'
    | error f =>
      obtain ⟨rfl, -⟩ := d.decoder.decode_error d' bytes f hr
      have hs : (d.serve (.decode bytes)).2 = { stream := d.stream } := by
        simp [serve, decode, hr]
      rw [hs]
      exact ⟨rfl, Decoder.sound_empty, fun _ => rfl⟩

theorem serveAll_held (d : StreamDecoder) (qs : List Request) (h : d.decoder.Sound) :
    (d.serveAll qs).2.stream = d.stream ∧ (d.serveAll qs).2.decoder.Sound := by
  induction qs generalizing d with
  | nil => exact ⟨rfl, h⟩
  | cons q qs ih =>
    obtain ⟨hstream, hsound, -⟩ := serve_sound d q h
    obtain ⟨hs, hd⟩ := ih (d.serve q).2 hsound
    exact ⟨hs.trans hstream, hd⟩

/-- The valid bytes in front of an unfinished character are read again without a fault, and what
they read as is the answer. -/
theorem decode_cut (d : StreamDecoder) (bytes : List UInt8) (v : Nat)
    (h : text (d.decoder.held ++ bytes) = .error ⟨v, none⟩) :
    ∃ s, text ((d.decoder.held ++ bytes).take v) = .ok s ∧
      d.decode bytes = (.ok s, { d with decoder := ⟨(d.decoder.held ++ bytes).drop v⟩ }) := by
  obtain ⟨he, htake⟩ := cut_of_text _ v h
  refine ⟨String.ofList (scan (d.decoder.held ++ bytes)).text, ?_, decode_of_ok d bytes _ _ ?_⟩
  · rw [← htake, text_encode]
  · simp [Decoder.decode, he]

/-- In every state that a decoder can be brought to by requests: it holds nothing, or one to three
bytes that begin a character; reading the valid front of an unfinished sequence again gives no
fault; the end check never finds a text, and fails exactly when something is held, at index zero
and for want of bytes; and a decoder that has given a final reply holds nothing and answers like a
new one. -/
theorem serveAll_renews (stream : Stream) (requests : List Request) :
    let d := (serveAll { stream } requests).2
    (d.decoder.held = [] ∨
      1 ≤ d.decoder.held.length ∧ d.decoder.held.length ≤ 3 ∧ Unfinished d.decoder.held) ∧
    (∀ bytes v, text (d.decoder.held ++ bytes) = .error ⟨v, none⟩ →
      ∃ s, text ((d.decoder.held ++ bytes).take v) = .ok s ∧
        d.decode bytes = (.ok s, { d with decoder := ⟨(d.decoder.held ++ bytes).drop v⟩ })) ∧
    (d.decoder.held ≠ [] → ∀ s, text d.decoder.held ≠ .ok s) ∧
    d.finish.1 = (if d.decoder.held = [] then .ok () else .error (.decode stream ⟨0, none⟩)) ∧
    ∀ q, (d.serve q).1.isFinal = true → (d.serve q).2.decoder.held = [] ∧
      ∀ later, ((d.serve q).2.serveAll later).1 = (serveAll { stream } later).1 := by
  obtain ⟨hstream, hsound⟩ := serveAll_held { stream } requests Decoder.sound_empty
  generalize (serveAll { stream } requests).2 = d at hstream hsound
  dsimp only at hstream ⊢
  refine ⟨?_, decode_cut d, fun hne s => ?_, ?_, fun q hq => ?_⟩
  · obtain h | h := hsound
    · exact .inl h
    · exact .inr ⟨(length_unfinished _ h).1, (length_unfinished _ h).2, h⟩
  · simp [text_unfinished _ (hsound.resolve_left hne)]
  · rw [finish_of_sound d hsound, hstream]
  · have hnew := (serve_sound d q hsound).2.2 hq
    rw [hnew, hstream]
    exact ⟨rfl, fun _ => rfl⟩

end StreamDecoder

end CellRunner
