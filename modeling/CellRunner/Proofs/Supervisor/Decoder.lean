import CellRunner.Proofs.Utf8.Scan
import CellRunner.Supervisor.Decoder

/-!
# Decoding a stream cut into pieces

What a decoder has been fed is the encoding of the texts it gave and the bytes it holds, and
what it holds is nothing or the beginning of one character. All else follows from this and
from the scan of the bytes fed so far.
-/

set_option autoImplicit false

namespace CellRunner.Decoder
open Utf8

/-- The decoder holds nothing, or the beginning of one character. -/
def Sound (d : Decoder) : Prop := d.held = [] ∨ Unfinished d.held

theorem sound_empty : Sound {} := .inl rfl

/-- What is decoded and what is held back make up what was held and what came. -/
theorem decode_ok (d d' : Decoder) (bytes : List UInt8) (text : String)
    (h : d.decode bytes = (.ok text, d')) :
    d.held ++ bytes = encode text ++ d'.held ∧ d'.Sound := by
  obtain ⟨rest, hb, -, hd⟩ := scan_split (d.held ++ bytes)
  unfold decode at h
  cases he : (scan (d.held ++ bytes)).ending with
  | complete =>
    rw [he] at hd
    obtain rfl : rest = [] := hd
    simp only [he, Prod.mk.injEq, Except.ok.injEq] at h
    obtain ⟨rfl, rfl⟩ := h
    exact ⟨by simpa using hb, sound_empty⟩
  | incomplete held =>
    rw [he] at hd
    obtain ⟨rfl, hu⟩ := hd
    simp only [he, Prod.mk.injEq, Except.ok.injEq] at h
    obtain ⟨rfl, rfl⟩ := h
    exact ⟨by simpa using hb, .inr hu⟩
  | invalid n => simp [he] at h

/-- A decoder fails at once, and only, at bytes that no continuation makes well formed. -/
theorem decode_error (d d' : Decoder) (bytes : List UInt8) (f : Fault)
    (h : d.decode bytes = (.error f, d')) :
    d' = {} ∧ ∃ n, (scan (d.held ++ bytes)).ending = .invalid n ∧
      f = ⟨(scan (d.held ++ bytes)).validUpTo, some n⟩ := by
  unfold decode at h
  cases he : (scan (d.held ++ bytes)).ending with
  | complete => simp [he] at h
  | incomplete held => simp [he] at h
  | invalid n =>
    simp only [he, Prod.mk.injEq, Except.error.injEq] at h
    obtain ⟨rfl, rfl⟩ := h
    exact ⟨rfl, n, rfl, rfl⟩

theorem decode_encode (text : String) : decode {} (encode text) = (.ok text, {}) := by
  simp [decode, scan_encode]

/-- The end check fails exactly when something is held back. -/
theorem finish_sound (d : Decoder) (h : d.Sound) :
    d.finish = (if d.held = [] then .ok () else .error ⟨0, none⟩, {}) := by
  obtain hd | hd := h
  · simp [finish, hd, Utf8.text, scan_nil]
  · simp [finish, Utf8.text, scan_unfinished d.held hd, hd.1]

/-- Decodes pieces one after the other, and gives the answers in order. -/
def decodeAll (d : Decoder) : List (List UInt8) → List (Except Fault String) × Decoder
  | [] => ([], d)
  | bytes :: pieces =>
    let (answer, d) := d.decode bytes
    let (answers, d) := d.decodeAll pieces
    (answer :: answers, d)

/-- Pieces of a text decode without a fault, and what was fed stays accounted for. -/
theorem decodeAll_text (s : String) (pieces : List (List UInt8)) (d : Decoder) (given : String)
    (hd : d.Sound) (h : encode given ++ d.held ++ pieces.flatten <+: encode s) :
    ∃ texts, (d.decodeAll pieces).1 = texts.map .ok ∧ (d.decodeAll pieces).2.Sound ∧
      encode (given ++ String.join texts) ++ (d.decodeAll pieces).2.held =
        encode given ++ d.held ++ pieces.flatten := by
  induction pieces generalizing d given with
  | nil => exact ⟨[], rfl, hd, by simp [decodeAll]⟩
  | cons bytes pieces ih =>
    cases hr : d.decode bytes with
    | mk answer d' =>
    cases answer with
    | error f =>
      obtain ⟨-, n, hn, -⟩ := decode_error d d' bytes f hr
      obtain ⟨rest, hrest⟩ := h
      refine absurd ⟨s, ?_⟩ (not_isText_of_invalid given _ (pieces.flatten ++ rest) n hn)
      simp [← hrest]
    | ok text =>
      obtain ⟨hb, hd'⟩ := decode_ok d d' bytes text hr
      have hf : encode given ++ d.held ++ (bytes :: pieces).flatten =
          encode (given ++ text) ++ d'.held ++ pieces.flatten := by
        simp only [List.flatten_cons, encode_append, List.append_assoc]
        rw [← List.append_assoc d.held, hb]
        simp
      obtain ⟨texts, ha, hs, he⟩ := ih d' (given ++ text) hd' (hf ▸ h)
      refine ⟨text :: texts, ?_, ?_, ?_⟩
      · simp [decodeAll, hr, ha]
      · simpa [decodeAll, hr] using hs
      · rw [hf]
        simpa [decodeAll, hr, String.append_assoc] using he

/-- `p` is the longest prefix of `s` of which all bytes have been fed. -/
def IsLongestPrefix (s : String) (fed : List UInt8) (p : String) : Prop :=
  p.toList <+: s.toList ∧ encode p <+: fed ∧
    ∀ q : String, q.toList <+: s.toList → encode q <+: fed → q.toList <+: p.toList

theorem text_begins (p : String) (fed : List UInt8) (h : encode p <+: fed) :
    p.toList <+: (scan fed).text := by
  obtain ⟨rest, rfl⟩ := h
  rw [encode_eq_bytesOf, scan_bytesOf_append]
  exact ⟨_, rfl⟩

theorem longest_of_sound (s p : String) (fed : List UInt8) (d : Decoder) (hd : d.Sound)
    (he : encode p ++ d.held = fed) (hs : fed <+: encode s) : IsLongestPrefix s fed p := by
  have hp : encode p <+: fed := ⟨d.held, he⟩
  have ht : (scan fed).text = p.toList := by
    rw [← he, encode_eq_bytesOf, scan_bytesOf_append]
    obtain hd | hd := hd
    · simp [hd, Scan.after, scan_nil]
    · simp [Scan.after, scan_unfinished d.held hd]
  refine ⟨?_, hp, fun q _ hq => ht ▸ text_begins q fed hq⟩
  simpa [scan_encode] using text_begins p (encode s) (hp.trans hs)

/-- However the encoding of a text is cut, no piece of it is a fault. After each piece the
texts given so far are all of the text that has arrived complete, and at the end they are
the text itself. -/
theorem decodeAll_pieces (s : String) (pieces : List (List UInt8))
    (h : pieces.flatten = encode s) :
    (∀ n, ∃ texts, (decodeAll {} (pieces.take n)).1 = texts.map .ok ∧
      IsLongestPrefix s (pieces.take n).flatten (String.join texts)) ∧
    (∃ texts, (decodeAll {} pieces).1 = texts.map .ok ∧ String.join texts = s) ∧
    (decodeAll {} pieces).2.finish.1 = .ok () := by
  have hall (n : Nat) : ∃ texts, (decodeAll {} (pieces.take n)).1 = texts.map .ok ∧
      (decodeAll {} (pieces.take n)).2.Sound ∧
      encode (String.join texts) ++ (decodeAll {} (pieces.take n)).2.held =
        (pieces.take n).flatten ∧ (pieces.take n).flatten <+: encode s := by
    have hs : (pieces.take n).flatten <+: encode s :=
      ⟨(pieces.drop n).flatten, by rw [← List.flatten_append, List.take_append_drop, h]⟩
    obtain ⟨texts, ha, hd, he⟩ :=
      decodeAll_text s (pieces.take n) {} "" sound_empty (by simpa using hs)
    exact ⟨texts, ha, hd, by simpa using he, hs⟩
  obtain ⟨texts, ha, hd, he, -⟩ := hall pieces.length
  rw [List.take_length] at ha hd he
  have hheld : (decodeAll {} pieces).2.held = [] := by
    refine hd.resolve_right fun hu => not_isText_of_unfinished (String.join texts) _ hu ⟨s, ?_⟩
    rw [he, h]
  refine ⟨fun n => ?_, ⟨texts, ha, ?_⟩, ?_⟩
  · obtain ⟨texts, ha, hd, he, hs⟩ := hall n
    exact ⟨texts, ha, longest_of_sound s _ _ _ hd he hs⟩
  · apply encode_inj
    rw [← h, ← he, hheld, List.append_nil]
  · rw [finish_sound _ hd, if_pos hheld]

/-- A character of three bytes cut twice, with an empty piece in between. -/
theorem decodeAll_pieces_cut_character :
    [[0x61, 0xE2], [], [0x82], [0xAC]].flatten = encode "a€" ∧
    (∃ texts, (decodeAll {} [[0x61, 0xE2], [], [0x82], [0xAC]]).1 = texts.map .ok ∧
      String.join texts = "a€") ∧
    (decodeAll {} [[0x61, 0xE2], [], [0x82], [0xAC]]).2.finish.1 = .ok () := by
  have h : [[0x61, 0xE2], [], [0x82], [0xAC]].flatten = encode "a€" := by
    rw [encode_eq_bytesOf]
    decide
  exact ⟨h, (decodeAll_pieces "a€" _ h).2⟩

end CellRunner.Decoder
