import CellRunner.Proofs.Utf8.Character

/-!
# Scanning is the inverse of encoding

A scan splits a byte sequence into encoded characters and a rest that holds no character at
its front. The rest is empty, a proper beginning of an encoded character, or a sequence that
stays ill-formed whatever follows it. The three cases exclude each other, so any such split
is the one that the scan finds.
-/

set_option autoImplicit false

namespace CellRunner.Utf8

/-- The encoding of a list of characters. -/
def bytesOf (cs : List Char) : List UInt8 := cs.flatMap String.utf8EncodeChar

@[simp] theorem bytesOf_nil : bytesOf [] = [] := rfl

@[simp] theorem bytesOf_cons (c : Char) (cs : List Char) :
    bytesOf (c :: cs) = String.utf8EncodeChar c ++ bytesOf cs := rfl

@[simp] theorem bytesOf_append (cs ds : List Char) :
    bytesOf (cs ++ ds) = bytesOf cs ++ bytesOf ds := by
  simp [bytesOf]

theorem toList_loop (bs : ByteArray) (i : Nat) (read : List UInt8) :
    ByteArray.toList.loop bs i read = read.reverse ++ bs.data.toList.drop i := by
  fun_induction ByteArray.toList.loop bs i read with
  | case1 i read hi ih =>
    have hl : i < bs.data.toList.length := hi
    rw [ih, List.drop_eq_getElem_cons hl]
    simp [ByteArray.get!, getElem!_pos bs.data i hi]
  | case2 i read hi =>
    have hl : bs.data.toList.length ≤ i := Nat.le_of_not_lt hi
    simp [List.drop_eq_nil_of_le hl]

theorem encode_eq_bytesOf (s : String) : encode s = bytesOf s.toList := by
  obtain ⟨cs, rfl⟩ := s.exists_eq_ofList
  rw [encode, ByteArray.toList, toList_loop]
  simp [bytesOf, List.utf8Encode]

@[simp] theorem encode_ofList (cs : List Char) : encode (String.ofList cs) = bytesOf cs := by
  simp [encode_eq_bytesOf]

@[simp] theorem encode_empty : encode "" = [] := by
  simp [encode_eq_bytesOf]

@[simp] theorem encode_append (s t : String) : encode (s ++ t) = encode s ++ encode t := by
  simp [encode_eq_bytesOf]

/-- A proper beginning of the encoding of a character. -/
def Unfinished (bs : List UInt8) : Prop :=
  bs ≠ [] ∧ ∃ c rest, rest ≠ [] ∧ String.utf8EncodeChar c = bs ++ rest

/-- No bytes that may follow change what a scan says: there is no character, only a fault. -/
def Broken (n : Nat) (bs : List UInt8) : Prop :=
  ∀ rest, scan (bs ++ rest) = ⟨[], 0, .invalid n⟩

/-- What an ending says of the bytes after the last complete character. -/
def Ending.describes : Ending → List UInt8 → Prop
  | .complete, bs => bs = []
  | .incomplete held, bs => held = bs ∧ Unfinished bs
  | .invalid n, bs => Broken n bs

/-- The characters of a scan, set after others that have been read. -/
def Scan.after (s : Scan) (cs : List Char) : Scan :=
  ⟨cs ++ s.text, (bytesOf cs).length + s.validUpTo, s.ending⟩

theorem fits_append (rs us : List Range) (ts vs : List UInt8)
    (ht : fits rs ts = true) (hv : fits us vs = true) : fits (rs ++ us) (ts ++ vs) = true := by
  induction rs generalizing ts with
  | nil => simpa [(fits_nil ts).mp ht] using hv
  | cons r rs ih =>
    obtain ⟨t, us', rfl, hr, hu⟩ := (fits_cons r rs ts).mp ht
    simp [fits, hr, ih us' hu]

theorem fits_snoc (rs : List Range) (r : Range) (ts : List UInt8)
    (h : fits (rs ++ [r]) ts = true) :
    ∃ us t, ts = us ++ [t] ∧ fits rs us = true ∧ r.holds t = true := by
  induction rs generalizing ts with
  | nil =>
    obtain ⟨t, us, rfl, hr, hu⟩ := (fits_cons r [] ts).mp h
    exact ⟨[], t, by simp [(fits_nil us).mp hu], rfl, hr⟩
  | cons q rs ih =>
    obtain ⟨t, us, rfl, hq, hu⟩ := (fits_cons q (rs ++ [r]) ts).mp h
    obtain ⟨vs, x, rfl, hv, hx⟩ := ih us hu
    exact ⟨t :: vs, x, rfl, by simp [fits, hq, hv], hx⟩

theorem fits_lows (us : List Range) (h : ∀ r ∈ us, r.holds r.1 = true) :
    fits us (us.map Prod.fst) = true := by
  induction us with
  | nil => rfl
  | cons r us ih => simp [fits, h r (by simp), ih (fun q hq => h q (by simp [hq]))]

theorem scanFrom_advance (text : List Char) (count : Nat) (held : List UInt8)
    (rs us : List Range) (ts rest : List UInt8) (ht : fits rs ts = true) (hu : us ≠ []) :
    scanFrom text count held (rs ++ us) (ts ++ rest) =
      scanFrom text count (ts.reverse ++ held) us rest := by
  induction rs generalizing held ts with
  | nil => simp [(fits_nil ts).mp ht]
  | cons r rs ih =>
    obtain ⟨t, ts, rfl, hr, ht⟩ := (fits_cons r rs ts).mp ht
    obtain ⟨q, qs, hq⟩ : ∃ q qs, rs ++ us = q :: qs :=
      List.exists_cons_of_ne_nil (by simp [hu])
    have h := ih (t :: held) ts ht
    rw [hq] at h
    simp [scanFrom, hr, hq, h]

theorem scanFrom_lead (text : List Char) (count : Nat) (b : UInt8) (rs us : List Range)
    (ts rest : List UInt8) (hf : follow b = some (rs ++ us)) (ht : fits rs ts = true)
    (hu : us ≠ []) :
    scanFrom text count [] [] (b :: ts ++ rest) =
      scanFrom text count (ts.reverse ++ [b]) us rest := by
  obtain ⟨q, qs, hq⟩ : ∃ q qs, rs ++ us = q :: qs := List.exists_cons_of_ne_nil (by simp [hu])
  have h := scanFrom_advance text count [b] rs us ts rest ht hu
  rw [hq] at h hf
  simp only [scanFrom, List.cons_append, hf, h]

theorem scanFrom_char (text : List Char) (count : Nat) (c : Char) (rest : List UInt8) :
    scanFrom text count [] [] (String.utf8EncodeChar c ++ rest) =
      scanFrom (c :: text) (count + (String.utf8EncodeChar c).length) [] [] rest := by
  obtain ⟨b, ts, rs, he, hf, ht⟩ := encode_follows c
  have hc := character_encode c
  rw [he] at hc ⊢
  obtain rfl | ⟨us, r, rfl⟩ := List.eq_nil_or_concat rs
  · obtain rfl := (fits_nil ts).mp ht
    simp [scanFrom, hf, hc]
  · rw [List.concat_eq_append] at hf ht
    obtain ⟨vs, t, rfl, hv, hr⟩ := fits_snoc us r ts ht
    have h := scanFrom_lead text count b us [r] vs (t :: rest) hf hv (by simp)
    rw [show b :: (vs ++ [t]) ++ rest = b :: vs ++ t :: rest by simp, h]
    simp [scanFrom, hr, hc, Nat.add_assoc]

theorem fits_split (rs : List Range) (ts us : List UInt8) (h : fits rs (ts ++ us) = true) :
    ∃ qs ps, rs = qs ++ ps ∧ fits qs ts = true ∧ fits ps us = true := by
  induction ts generalizing rs with
  | nil => exact ⟨[], rs, rfl, rfl, h⟩
  | cons t ts ih =>
    cases rs with
    | nil => simp [fits] at h
    | cons r rs =>
      obtain ⟨hr, h⟩ : r.holds t = true ∧ fits rs (ts ++ us) = true := by simpa [fits] using h
      obtain ⟨qs, ps, rfl, hq, hp⟩ := ih rs h
      exact ⟨r :: qs, ps, rfl, by simp [fits, hr, hq], hp⟩

theorem scanFrom_text (text : List Char) (count : Nat) (held : List UInt8)
    (need : List Range) (bs : List UInt8) :
    scanFrom text count held need bs =
      ⟨text.reverse ++ (scanFrom [] 0 held need bs).text,
        count + (scanFrom [] 0 held need bs).validUpTo,
        (scanFrom [] 0 held need bs).ending⟩ := by
  induction bs generalizing text count held need with
  | nil => simp [scanFrom]
  | cons b bs ih =>
    cases need with
    | nil =>
      cases hf : follow b with
      | none => simp [scanFrom, hf]
      | some rs =>
        cases rs with
        | nil =>
          simp only [scanFrom, hf]
          rw [ih (character [b] :: text), ih [character [b]]]
          simp [Nat.add_assoc]
        | cons r rs =>
          simp only [scanFrom, hf]
          exact ih text count [b] (r :: rs)
    | cons r rs =>
      by_cases hr : r.holds b
      · cases rs with
        | nil =>
          simp only [scanFrom, hr, if_true]
          rw [ih (character (b :: held).reverse :: text), ih [character (b :: held).reverse]]
          simp [Nat.add_assoc]
        | cons q qs =>
          simp only [scanFrom, hr, if_true]
          exact ih text count (b :: held) (q :: qs)
      · simp [scanFrom, hr]

theorem scan_nil : scan [] = ⟨[], 0, .complete⟩ := rfl

theorem scan_char (c : Char) (rest : List UInt8) :
    scan (String.utf8EncodeChar c ++ rest) = (scan rest).after [c] := by
  rw [scan, scanFrom_char, scanFrom_text]
  simp [Scan.after, scan]

/-- Complete characters at the front do not change how the rest is read. -/
theorem scan_bytesOf_append (cs : List Char) (rest : List UInt8) :
    scan (bytesOf cs ++ rest) = (scan rest).after cs := by
  induction cs with
  | nil => simp [Scan.after]
  | cons c cs ih =>
    rw [bytesOf_cons, List.append_assoc, scan_char, ih]
    simp [Scan.after, Nat.add_assoc]

theorem scan_unfinished (bs : List UInt8) (h : Unfinished bs) :
    scan bs = ⟨[], 0, .incomplete bs⟩ := by
  obtain ⟨hbs, c, rest, hrest, hc⟩ := h
  obtain ⟨b, ts, rs, he, hf, ht⟩ := encode_follows c
  obtain ⟨x, hs, rfl⟩ := List.exists_cons_of_ne_nil hbs
  obtain ⟨rfl, rfl⟩ : b = x ∧ ts = hs ++ rest := by
    rw [he] at hc
    simpa using hc
  obtain ⟨qs, ps, rfl, hq, hp⟩ := fits_split rs hs rest ht
  have hps : ps ≠ [] := by
    rintro rfl
    exact hrest ((fits_nil rest).mp hp)
  have h := scanFrom_lead [] 0 b qs ps hs [] hf hq hps
  rw [List.append_nil] at h
  rw [scan, h]
  simp [scanFrom]

/-- A split into characters and a rest of one of the three kinds is the scan's own. -/
theorem scan_of_describes (cs : List Char) (rest : List UInt8) (e : Ending)
    (h : e.describes rest) :
    scan (bytesOf cs ++ rest) = ⟨cs, (bytesOf cs).length, e⟩ := by
  rw [scan_bytesOf_append]
  cases e with
  | complete =>
    obtain rfl : rest = [] := h
    simp [Scan.after, scan_nil]
  | incomplete held =>
    obtain ⟨rfl, h⟩ := h
    simp [Scan.after, scan_unfinished held h]
  | invalid n =>
    have hn := h []
    rw [List.append_nil] at hn
    simp [Scan.after, hn]

/-- The bytes `held` (last first) begin a character that still requires `need`. -/
def Reading (held : List UInt8) (need : List Range) : Prop :=
  (held = [] ∧ need = []) ∨
    ∃ b ts rs, held.reverse = b :: ts ∧ follow b = some (rs ++ need) ∧ fits rs ts = true ∧
      need ≠ []

theorem reading_unfinished (held : List UInt8) (need : List Range) (h : Reading held need)
    (hne : held ≠ []) : Unfinished held.reverse := by
  obtain ⟨rfl, -⟩ | ⟨b, ts, rs, he, hf, ht, hn⟩ := h
  · contradiction
  have hlow : fits need (need.map Prod.fst) = true :=
    fits_lows need fun r hr => follow_inhabited b _ hf r (by simp [hr])
  refine ⟨by simpa using hne, character (b :: (ts ++ need.map Prod.fst)), need.map Prod.fst,
    by simpa using hn, ?_⟩
  rw [encode_character b _ _ hf (fits_append rs need ts _ ht hlow), he]
  simp

theorem reading_broken (held : List UInt8) (r : Range) (rs : List Range) (b : UInt8)
    (bs : List UInt8) (h : Reading held (r :: rs)) (hr : r.holds b = false) :
    Broken held.length (held.reverse ++ b :: bs) := by
  intro rest
  obtain ⟨-, hn⟩ | ⟨x, ts, qs, he, hf, ht, hn⟩ := h
  · contradiction
  have hheld : held = ts.reverse ++ [x] := by
    rw [← List.reverse_reverse held, he]
    simp
  rw [he, show x :: ts ++ b :: bs ++ rest = x :: ts ++ (b :: (bs ++ rest)) by simp, scan,
    scanFrom_lead [] 0 x qs (r :: rs) ts _ hf ht hn, ← hheld]
  simp [scanFrom, hr]

theorem reading_next (held : List UInt8) (r q : Range) (qs : List Range) (b : UInt8)
    (h : Reading held (r :: q :: qs)) (hr : r.holds b = true) :
    Reading (b :: held) (q :: qs) := by
  obtain ⟨-, hn⟩ | ⟨x, ts, rs, he, hf, ht, -⟩ := h
  · contradiction
  refine .inr ⟨x, ts ++ [b], rs ++ [r], by simp [he], by simp [hf], ?_, by simp⟩
  exact fits_append rs [r] ts [b] ht (by simp [fits, hr])

theorem reading_last (held : List UInt8) (r : Range) (b : UInt8) (h : Reading held [r])
    (hr : r.holds b = true) :
    String.utf8EncodeChar (character (b :: held).reverse) = held.reverse ++ [b] := by
  obtain ⟨-, hn⟩ | ⟨x, ts, rs, he, hf, ht, -⟩ := h
  · contradiction
  rw [List.reverse_cons, he, List.cons_append]
  exact encode_character x _ _ hf (fits_append rs [r] ts [b] ht (by simp [fits, hr]))

theorem reading_start (held : List UInt8) (h : Reading held []) : held = [] := by
  obtain ⟨rfl, -⟩ | ⟨-, -, -, -, -, -, hn⟩ := h
  · rfl
  · contradiction

theorem scanFrom_split (text : List Char) (count : Nat) (held : List UInt8)
    (need : List Range) (bs : List UInt8) (h : Reading held need) :
    ∃ cs rest e, scanFrom text count held need bs =
        ⟨text.reverse ++ cs, count + (bytesOf cs).length, e⟩ ∧
      held.reverse ++ bs = bytesOf cs ++ rest ∧ e.describes rest := by
  fun_induction scanFrom text count held need bs with
  | case1 text count held need =>
    refine ⟨[], held.reverse, _, by simp; rfl, by simp, ?_⟩
    by_cases hh : held = []
    · simp [hh, Ending.describes]
    · rw [if_neg (by simpa using hh)]
      exact ⟨rfl, reading_unfinished held need h hh⟩
  | case2 text count held b bs hf =>
    obtain rfl := reading_start held h
    refine ⟨[], b :: bs, .invalid 1, by simp, rfl, ?_⟩
    intro rest
    simp [scan, scanFrom, hf]
  | case3 text count held b bs hf ih =>
    obtain rfl := reading_start held h
    obtain ⟨cs, rest, e, hs, hb, hd⟩ := ih (.inl ⟨rfl, rfl⟩)
    have hc := encode_character b [] [] hf rfl
    refine ⟨character [b] :: cs, rest, e, ?_, ?_, hd⟩
    · rw [hs]
      simp [hc]
      omega
    · simpa [hc] using hb
  | case4 text count held b bs r rs hf ih =>
    obtain rfl := reading_start held h
    exact ih (.inr ⟨b, [], [], rfl, hf, rfl, by simp⟩)
  | case5 text count held b bs r hr ih =>
    obtain ⟨cs, rest, e, hs, hb, hd⟩ := ih (.inl ⟨rfl, rfl⟩)
    have hc := reading_last held r b h hr
    refine ⟨character (b :: held).reverse :: cs, rest, e, ?_, ?_, hd⟩
    · rw [hs, bytesOf_cons, hc]
      simp
      omega
    · have hb' : bs = bytesOf cs ++ rest := hb
      rw [bytesOf_cons, hc, hb']
      simp
  | case6 text count held b bs r hr q qs ih =>
    simpa using ih (reading_next held r q qs b h hr)
  | case7 text count held b bs r rs hr =>
    exact ⟨[], held.reverse ++ b :: bs, .invalid held.length, by simp, rfl,
      reading_broken held r rs b bs h (by simpa using hr)⟩

/-- A scan gives back the bytes: those of its characters, and a rest that its ending
describes. -/
theorem scan_split (bs : List UInt8) :
    ∃ rest, bs = bytesOf (scan bs).text ++ rest ∧
      (scan bs).validUpTo = (bytesOf (scan bs).text).length ∧
      (scan bs).ending.describes rest := by
  obtain ⟨cs, rest, e, hs, hb, hd⟩ := scanFrom_split [] 0 [] [] bs (.inl ⟨rfl, rfl⟩)
  refine ⟨rest, ?_⟩
  rw [scan, hs]
  exact ⟨by simpa using hb, by simp, hd⟩

/-- A byte sequence that encodes a text. -/
def IsText (bs : List UInt8) : Prop := ∃ s : String, encode s = bs

theorem isText_bytesOf (cs : List Char) : IsText (bytesOf cs) := ⟨.ofList cs, encode_ofList cs⟩

theorem scan_encode (s : String) :
    scan (encode s) = ⟨s.toList, (encode s).length, .complete⟩ := by
  rw [encode_eq_bytesOf]
  simpa using scan_of_describes s.toList [] .complete rfl

theorem encode_inj (s t : String) (h : encode s = encode t) : s = t := by
  have hs := scan_encode s
  rw [h, scan_encode t] at hs
  exact String.toList_inj.mp (congrArg Scan.text hs).symm

theorem isText_iff (bs : List UInt8) : IsText bs ↔ (scan bs).ending = .complete := by
  constructor
  · rintro ⟨s, rfl⟩
    rw [scan_encode]
  · intro h
    obtain ⟨rest, hb, -, hd⟩ := scan_split bs
    rw [h] at hd
    obtain rfl : rest = [] := hd
    rw [hb, List.append_nil]
    exact isText_bytesOf _

/-- A fault within a character sequence stays where it is, whatever is appended. -/
theorem scan_append_invalid (bs rest : List UInt8) (n : Nat)
    (h : (scan bs).ending = .invalid n) : scan (bs ++ rest) = scan bs := by
  obtain ⟨tail, hb, hv, hd⟩ := scan_split bs
  rw [h] at hd
  have hr := hd rest
  generalize hs : scan bs = s at *
  rw [hb, List.append_assoc, scan_bytesOf_append, hr, ← h]
  simp [Scan.after, ← hv]

/-- What is not invalid yet can be completed to a text. -/
theorem continues_iff (bs : List UInt8) :
    (∃ rest, IsText (bs ++ rest)) ↔ ∀ n, (scan bs).ending ≠ .invalid n := by
  constructor
  · rintro ⟨rest, h⟩ n hn
    rw [isText_iff, scan_append_invalid bs rest n hn, hn] at h
    contradiction
  · intro h
    obtain ⟨rest, hb, -, hd⟩ := scan_split bs
    cases he : (scan bs).ending with
    | complete => exact ⟨[], by rwa [List.append_nil, isText_iff]⟩
    | incomplete held =>
      rw [he] at hd
      obtain ⟨-, -, c, tail, -, hc⟩ := hd
      refine ⟨tail, ?_⟩
      rw [hb, List.append_assoc, ← hc]
      simpa using isText_bytesOf ((scan bs).text ++ [c])
    | invalid n => exact absurd he (h n)

theorem ending_encode_append (s : String) (bs : List UInt8) :
    (scan (encode s ++ bs)).ending = (scan bs).ending := by
  rw [encode_eq_bytesOf, scan_bytesOf_append]
  rfl

theorem not_isText_of_invalid (s : String) (bs rest : List UInt8) (n : Nat)
    (h : (scan bs).ending = .invalid n) : ¬ IsText (encode s ++ bs ++ rest) := by
  have hi : (scan (encode s ++ bs)).ending = .invalid n := by rw [ending_encode_append, h]
  rw [isText_iff, scan_append_invalid _ rest n hi, hi]
  simp

theorem not_isText_of_unfinished (s : String) (bs : List UInt8) (h : Unfinished bs) :
    ¬ IsText (encode s ++ bs) := by
  rw [isText_iff, ending_encode_append, scan_unfinished bs h]
  simp

end CellRunner.Utf8
