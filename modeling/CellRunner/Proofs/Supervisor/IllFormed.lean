import CellRunner.Proofs.Supervisor.Decoder
import CellRunner.Supervisor.StreamDecoder

/-!
# Where an ill-formed stream is found out

Bytes that are no text break at one place, either at a sequence that nothing can make well
formed or at an unfinished character at their end. A decoder that is fed with them in pieces
finds this place: the first piece that completes an ill-formed sequence is the first to fail,
and an unfinished end is found by the end check. Neither depends on where the bytes are cut,
because a scan of all that was fed goes on where the texts given so far end.
-/

set_option autoImplicit false

namespace CellRunner

namespace Utf8

theorem validUpTo_encode_append (s : String) (bs : List UInt8) :
    (scan (encode s ++ bs)).validUpTo = (encode s).length + (scan bs).validUpTo := by
  rw [encode_eq_bytesOf, scan_bytesOf_append]
  rfl

/-- Reading all of the bytes reports a sequence that is ill formed, and its length. -/
def ReportsLength (bs : List UInt8) : Prop := ∃ at' n, text bs = .error ⟨at', some n⟩

theorem text_of_invalid (bs : List UInt8) (n : Nat) (h : (scan bs).ending = .invalid n) :
    text bs = .error ⟨(scan bs).validUpTo, some n⟩ := by
  simp [text, h]

theorem reportsLength_iff (bs : List UInt8) :
    ReportsLength bs ↔ ∃ n, (scan bs).ending = .invalid n := by
  constructor
  · rintro ⟨at', n, h⟩
    cases he : (scan bs).ending with
    | complete => simp [text, he] at h
    | incomplete held => simp [text, he] at h
    | invalid m => exact ⟨m, rfl⟩
  · rintro ⟨n, h⟩
    exact ⟨_, n, text_of_invalid bs n h⟩

/-- What is reported once stays so, whatever is appended. -/
theorem reportsLength_append (bs rest : List UInt8) (h : ReportsLength bs) :
    ReportsLength (bs ++ rest) := by
  obtain ⟨n, hn⟩ := (reportsLength_iff bs).mp h
  refine (reportsLength_iff _).mpr ⟨n, ?_⟩
  rw [scan_append_invalid bs rest n hn, hn]

/-- The pieces before an ill-formed sequence is complete, and the piece that completes it. -/
theorem split_invalid (pieces : List (List UInt8)) (fed : List UInt8) (n : Nat)
    (hfed : ¬ ReportsLength fed) (h : (scan (fed ++ pieces.flatten)).ending = .invalid n) :
    ∃ before piece after, pieces = before ++ piece :: after ∧
      ¬ ReportsLength (fed ++ before.flatten) ∧
      (scan (fed ++ before.flatten ++ piece)).ending = .invalid n := by
  induction pieces generalizing fed with
  | nil =>
    have hnow : ReportsLength fed := (reportsLength_iff fed).mpr ⟨n, by simpa using h⟩
    contradiction
  | cons piece pieces ih =>
    rw [List.flatten_cons, ← List.append_assoc] at h
    by_cases hp : ReportsLength (fed ++ piece)
    · obtain ⟨m, hm⟩ := (reportsLength_iff _).mp hp
      rw [scan_append_invalid _ pieces.flatten m hm, hm] at h
      obtain rfl : m = n := by simpa using h
      exact ⟨[], piece, pieces, rfl, by simpa using hfed, by simpa using hm⟩
    · obtain ⟨before, piece', after, rfl, hbefore, hat⟩ := ih (fed ++ piece) hp h
      exact ⟨piece :: before, piece', after, rfl, by simpa using hbefore, by simpa using hat⟩

/-- The pieces up to and including the one that completes an ill-formed sequence, and no fewer,
are reported. -/
theorem reportsLength_take (before : List (List UInt8)) (piece : List UInt8)
    (after : List (List UInt8)) (m : Nat) (hbefore : ¬ ReportsLength before.flatten)
    (hat : ReportsLength (before.flatten ++ piece)) :
    ReportsLength ((before ++ piece :: after).take m).flatten ↔ before.length < m := by
  rcases Nat.lt_or_ge before.length m with hlt | hge
  · obtain ⟨k, rfl⟩ : ∃ k, m = before.length + (k + 1) := ⟨m - before.length - 1, by omega⟩
    have hmore := reportsLength_append _ (after.take k).flatten hat
    rw [List.take_length_add_append, List.take_succ_cons, List.flatten_append, List.flatten_cons,
      ← List.append_assoc]
    exact iff_of_true hmore hlt
  · rw [List.take_append_of_le_length hge]
    refine iff_of_false ?_ (Nat.not_lt.mpr hge)
    intro hm
    have hsplit : before.flatten = (before.take m).flatten ++ (before.drop m).flatten := by
      rw [← List.flatten_append, List.take_append_drop]
    exact hbefore (hsplit ▸ reportsLength_append _ _ hm)

/-- `p` is the longest text of which all bytes stand at the front of `fed`. -/
def IsLongestText (fed : List UInt8) (p : String) : Prop :=
  encode p <+: fed ∧ ∀ q : String, encode q <+: fed → q.toList <+: p.toList

end Utf8

namespace Decoder
open Utf8

/-- A decoder that has given `p` has read all of it, and stands right behind it. -/
theorem scan_of_sound (d : Decoder) (p : String) (fed : List UInt8) (hd : d.Sound)
    (he : fed = encode p ++ d.held) :
    (scan fed).text = p.toList ∧ (scan fed).validUpTo = (encode p).length := by
  rw [he, encode_eq_bytesOf, scan_bytesOf_append]
  rcases hd with hd | hd
  · simp [hd, Scan.after, scan_nil]
  · simp [Scan.after, scan_unfinished d.held hd]

theorem longestText_of_sound (d : Decoder) (p : String) (fed : List UInt8) (hd : d.Sound)
    (he : fed = encode p ++ d.held) : IsLongestText fed p := by
  constructor
  · exact ⟨d.held, he.symm⟩
  · intro q hq
    have hbegins := text_begins q fed hq
    rwa [(scan_of_sound d p fed hd he).1] at hbegins

/-- Pieces that complete no ill-formed sequence all decode, and what was fed is the texts given
and the bytes held back. -/
theorem decodeAll_ok (pieces : List (List UInt8)) (d : Decoder) (hd : d.Sound)
    (h : ¬ ReportsLength (d.held ++ pieces.flatten)) :
    ∃ texts, (d.decodeAll pieces).1 = texts.map .ok ∧ (d.decodeAll pieces).2.Sound ∧
      d.held ++ pieces.flatten =
        encode (String.join texts) ++ (d.decodeAll pieces).2.held := by
  induction pieces generalizing d with
  | nil => exact ⟨[], rfl, hd, by simp [decodeAll]⟩
  | cons bytes pieces ih =>
    rw [List.flatten_cons, ← List.append_assoc] at h
    cases hr : d.decode bytes with
    | mk answer d' =>
    cases answer with
    | error f =>
      obtain ⟨-, n, hn, -⟩ := decode_error d d' bytes f hr
      have hnow : ReportsLength (d.held ++ bytes) := (reportsLength_iff _).mpr ⟨n, hn⟩
      exact absurd (reportsLength_append _ pieces.flatten hnow) h
    | ok text =>
      obtain ⟨hb, hd'⟩ := decode_ok d d' bytes text hr
      have hrest : ¬ ReportsLength (d'.held ++ pieces.flatten) := by
        rw [reportsLength_iff] at h ⊢
        rwa [hb, List.append_assoc, ending_encode_append] at h
      obtain ⟨texts, ha, hs, he⟩ := ih d' hd' hrest
      refine ⟨text :: texts, ?_, ?_, ?_⟩
      · simp [decodeAll, hr, ha]
      · simpa [decodeAll, hr] using hs
      · rw [List.flatten_cons, ← List.append_assoc, hb, List.append_assoc, he]
        simp [decodeAll, hr]

/-- The piece that completes an ill-formed sequence fails, at the place where the texts given
before it end and the valid bytes in front of the sequence are over. -/
theorem decode_breaks (d : Decoder) (p : String) (fed piece : List UInt8) (n : Nat)
    (he : fed = encode p ++ d.held) (h : (scan (fed ++ piece)).ending = .invalid n) :
    ∃ at', (d.decode piece).1 = .error ⟨at', some n⟩ ∧
      (encode p).length + at' = (scan (fed ++ piece)).validUpTo := by
  rw [he, List.append_assoc] at h ⊢
  rw [ending_encode_append] at h
  refine ⟨(scan (d.held ++ piece)).validUpTo, ?_, ?_⟩
  · simp [decode, h]
  · rw [validUpTo_encode_append]

end Decoder

namespace StreamDecoder
open Utf8

theorem decode_of_error (d : StreamDecoder) (bytes : List UInt8) (f : Utf8.Fault)
    (h : (d.decoder.decode bytes).1 = .error f) :
    (d.decode bytes).1 = .error (.decode d.stream f) := by
  change Except.mapError _ (d.decoder.decode bytes).1 = _
  rw [h]
  rfl

theorem finish_of_error (d : StreamDecoder) (f : Utf8.Fault) (h : d.decoder.finish.1 = .error f) :
    d.finish.1 = .error (.decode d.stream f) := by
  change Except.mapError _ d.decoder.finish.1 = _
  rw [h]
  rfl

/-- Decodes pieces one after the other, and gives the answers in order. -/
def decodeAll (d : StreamDecoder) :
    List (List UInt8) → List (Except CellRunner.Fault String) × StreamDecoder
  | [] => ([], d)
  | bytes :: pieces =>
    let (answer, d) := d.decode bytes
    let (answers, d) := d.decodeAll pieces
    (answer :: answers, d)

theorem decodeAll_eq (d : StreamDecoder) (pieces : List (List UInt8)) :
    d.decodeAll pieces =
      ((d.decoder.decodeAll pieces).1.map (Except.mapError (.decode d.stream)),
        { d with decoder := (d.decoder.decodeAll pieces).2 }) := by
  induction pieces generalizing d with
  | nil => rfl
  | cons bytes pieces ih => simp [decodeAll, Decoder.decodeAll, decode, ih]

theorem decodeAll_of_ok (d : StreamDecoder) (pieces : List (List UInt8)) (texts : List String)
    (h : (d.decoder.decodeAll pieces).1 = texts.map .ok) :
    (d.decodeAll pieces).1 = texts.map .ok := by
  rw [decodeAll_eq]
  dsimp only
  rw [h, List.map_map]
  rfl

/-- The first call to fail when `pieces` are decoded is the one with `piece`, which completes a
sequence of `n` ill-formed bytes at the place `at'` of all bytes. -/
structure BreaksAt (stream : Stream) (pieces before : List (List UInt8)) (piece : List UInt8)
    (texts : List String) (at' n : Nat) : Prop where
  cut : ∃ after, pieces = before ++ piece :: after
  decoded : (decodeAll { stream } before).1 = texts.map .ok
  fails : ∃ here, ((decodeAll { stream } before).2.decode piece).1 =
      .error (.decode stream ⟨here, some n⟩) ∧
    (encode (String.join texts)).length + here = at'
  longest : IsLongestText before.flatten (String.join texts)
  first : ∀ m, ReportsLength (pieces.take m).flatten ↔ before.length < m

/-- No call fails when `pieces` are decoded, and the end check does. -/
structure StopsShort (stream : Stream) (pieces : List (List UInt8)) (texts : List String)
    (at' : Nat) : Prop where
  decoded : (decodeAll { stream } pieces).1 = texts.map .ok
  given : encode (String.join texts) = pieces.flatten.take at'
  fails : (decodeAll { stream } pieces).2.finish.1 = .error (.decode stream ⟨0, none⟩)

theorem breaksAt_of_invalid (stream : Stream) (pieces : List (List UInt8)) (n : Nat)
    (h : (scan pieces.flatten).ending = .invalid n) :
    ∃ before piece texts,
      BreaksAt stream pieces before piece texts (scan pieces.flatten).validUpTo n := by
  have hnil : ¬ ReportsLength [] := by simp [reportsLength_iff, scan_nil]
  obtain ⟨before, piece, after, hcut, hbefore, hat⟩ := split_invalid pieces [] n hnil h
  rw [List.nil_append] at hbefore hat
  obtain ⟨texts, ha, hs, he⟩ :=
    Decoder.decodeAll_ok before {} Decoder.sound_empty (by simpa using hbefore)
  rw [List.nil_append] at he
  obtain ⟨here, hfails, hplace⟩ := Decoder.decode_breaks _ _ _ piece n he hat
  have hwhole : scan pieces.flatten = scan (before.flatten ++ piece) := by
    rw [hcut, List.flatten_append, List.flatten_cons, ← List.append_assoc,
      scan_append_invalid _ _ n hat]
  refine ⟨before, piece, texts, ⟨after, hcut⟩, decodeAll_of_ok _ _ texts ha, ⟨here, ?_, ?_⟩,
    Decoder.longestText_of_sound _ _ _ hs he, ?_⟩
  · rw [decodeAll_eq]
    exact decode_of_error _ piece _ hfails
  · rw [hplace, hwhole]
  · intro m
    rw [hcut]
    exact reportsLength_take before piece after m hbefore ((reportsLength_iff _).mpr ⟨n, hat⟩)

theorem stopsShort_of_incomplete (stream : Stream) (pieces : List (List UInt8))
    (held : List UInt8) (h : (scan pieces.flatten).ending = .incomplete held) :
    ∃ texts, StopsShort stream pieces texts (scan pieces.flatten).validUpTo := by
  have hno : ¬ ReportsLength pieces.flatten := by simp [reportsLength_iff, h]
  obtain ⟨texts, ha, hs, he⟩ :=
    Decoder.decodeAll_ok pieces {} Decoder.sound_empty (by simpa using hno)
  rw [List.nil_append] at he
  have hheld : (Decoder.decodeAll {} pieces).2.held ≠ [] := by
    intro hempty
    rw [hempty, List.append_nil] at he
    have hcomplete := (isText_iff _).mp ⟨String.join texts, he.symm⟩
    simp [hcomplete] at h
  refine ⟨texts, decodeAll_of_ok _ _ texts ha, ?_, ?_⟩
  · rw [(Decoder.scan_of_sound _ _ _ hs he).2, he, List.take_left]
  · rw [decodeAll_eq]
    exact finish_of_error _ _ (by simp [Decoder.finish_sound _ hs, hheld])

/-- However bytes that are no text are cut, they are found to be none at the same place and for
the same reason. -/
theorem decodeAll_illFormed (stream : Stream) (pieces : List (List UInt8))
    (h : ¬ IsText pieces.flatten) :
    (∃ at' n, text pieces.flatten = .error ⟨at', some n⟩ ∧
      ∃ before piece texts, BreaksAt stream pieces before piece texts at' n) ∨
    (∃ at', text pieces.flatten = .error ⟨at', none⟩ ∧
      ∃ texts, StopsShort stream pieces texts at') := by
  cases he : (scan pieces.flatten).ending with
  | complete => exact absurd ((isText_iff _).mpr he) h
  | incomplete held =>
    exact .inr ⟨_, by simp [text, he], stopsShort_of_incomplete stream pieces held he⟩
  | invalid n =>
    exact .inl ⟨_, n, text_of_invalid _ n he, breaksAt_of_invalid stream pieces n he⟩

/-- A character of three bytes whose last byte is wrong, and one whose last byte is missing. -/
theorem decodeAll_illFormed_third_byte :
    ¬ IsText [[0x61, 0xE2], [], [0x82], [0x28, 0xFF]].flatten ∧
    (∃ before piece texts, BreaksAt .stderr [[0x61, 0xE2], [], [0x82], [0x28, 0xFF]]
      before piece texts 1 2) ∧
    ¬ IsText [[0x61, 0xE2], [0x82]].flatten ∧
    ∃ texts, StopsShort .stdout [[0x61, 0xE2], [0x82]] texts 1 := by
  have hbroken : text [[0x61, 0xE2], [], [0x82], [0x28, 0xFF]].flatten = .error ⟨1, some 2⟩ := by
    rfl
  have hshort : text [[0x61, 0xE2], [0x82]].flatten = .error ⟨1, none⟩ := by rfl
  have hno : ¬ IsText [[0x61, 0xE2], [], [0x82], [0x28, 0xFF]].flatten := by
    rw [isText_iff]
    decide
  have hno' : ¬ IsText [[0x61, 0xE2], [0x82]].flatten := by
    rw [isText_iff]
    decide
  refine ⟨hno, ?_, hno', ?_⟩
  · rcases decodeAll_illFormed .stderr _ hno with ⟨at', n, he, hat⟩ | ⟨at', he, -⟩
    · rw [hbroken] at he
      cases he
      exact hat
    · rw [hbroken] at he
      cases he
  · rcases decodeAll_illFormed .stdout _ hno' with ⟨at', n, he, -⟩ | ⟨at', he, hat⟩
    · rw [hshort] at he
      cases he
    · rw [hshort] at he
      cases he
      exact hat

end StreamDecoder

end CellRunner
