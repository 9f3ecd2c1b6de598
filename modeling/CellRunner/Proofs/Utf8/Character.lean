import CellRunner.Text.Utf8

/-!
# Encoded characters

The table of lead bytes and the arithmetic of a character agree: the byte sequences that
obey the table are the encodings of the characters, and reading one gives its character.
-/

set_option autoImplicit false

namespace CellRunner.Utf8

/-- The bytes lie in the ranges, one in each. -/
def fits : List Range → List UInt8 → Bool
  | [], [] => true
  | r :: rs, t :: ts => r.holds t && fits rs ts
  | _, _ => false

theorem holds_iff (r : Range) (b : UInt8) :
    r.holds b = true ↔ r.1.toNat ≤ b.toNat ∧ b.toNat ≤ r.2.toNat := by
  simp [Range.holds, UInt8.le_iff_toNat_le]

theorem fits_nil (ts : List UInt8) : fits [] ts = true ↔ ts = [] := by
  cases ts <;> simp [fits]

theorem fits_cons (r : Range) (rs : List Range) (ts : List UInt8) :
    fits (r :: rs) ts = true ↔ ∃ t us, ts = t :: us ∧ r.holds t = true ∧ fits rs us = true := by
  cases ts with
  | nil => simp [fits]
  | cons t us =>
    constructor
    · intro h
      exact ⟨t, us, rfl, by simpa [fits] using h⟩
    · rintro ⟨t', us', he, h⟩
      obtain ⟨rfl, rfl⟩ := List.cons.inj he
      simpa [fits] using h

theorem follow_nat (b : UInt8) : follow b =
    if b.toNat < 128 then some []
    else if b.toNat < 194 then none
    else if b.toNat < 224 then some [continuing]
    else if b.toNat = 224 then some [(0xA0, 0xBF), continuing]
    else if b.toNat = 237 then some [(0x80, 0x9F), continuing]
    else if b.toNat < 240 then some [continuing, continuing]
    else if b.toNat = 240 then some [(0x90, 0xBF), continuing, continuing]
    else if b.toNat < 244 then some [continuing, continuing, continuing]
    else if b.toNat = 244 then some [(0x80, 0x8F), continuing, continuing]
    else none := by
  simp only [follow, UInt8.lt_iff_toNat_lt, ← UInt8.toNat_inj]
  rfl

theorem leadBits_nat (b : UInt8) : leadBits b =
    if b.toNat < 128 then b.toNat
    else if b.toNat < 224 then b.toNat % 32
    else if b.toNat < 240 then b.toNat % 16
    else b.toNat % 8 := by
  simp only [leadBits, UInt8.lt_iff_toNat_lt]
  rfl

theorem val_ofNat (n : Nat) (h : n < 0xD800 ∨ 0xDFFF < n ∧ n < 0x110000) :
    (Char.ofNat n).val.toNat = n := by
  have hv : n.isValidChar := h
  rw [Char.ofNat, dif_pos hv]
  rfl

theorem byte_eq (n : Nat) (b : UInt8) (h : n = b.toNat) : UInt8.ofNat n = b := by
  subst h
  simp

theorem encode_one (b : UInt8) (hb : b.toNat < 128) :
    String.utf8EncodeChar (character [b]) = [b] := by
  have hv : (character [b]).val.toNat = b.toNat := by
    simp only [character, List.foldl, leadBits_nat]
    rw [if_pos hb, val_ofNat _ (by omega)]
  unfold String.utf8EncodeChar
  simp only [hv]
  rw [if_pos (by omega), byte_eq _ b rfl]

theorem encode_two (b t : UInt8) (hb : 194 ≤ b.toNat ∧ b.toNat < 224)
    (ht : 128 ≤ t.toNat ∧ t.toNat ≤ 191) :
    String.utf8EncodeChar (character [b, t]) = [b, t] := by
  have hv : (character [b, t]).val.toNat = b.toNat % 32 * 64 + t.toNat % 64 := by
    simp only [character, List.foldl, leadBits_nat]
    rw [if_neg (by omega), if_pos (by omega), val_ofNat _ (by omega)]
  unfold String.utf8EncodeChar
  simp only [hv]
  rw [if_neg (by omega), if_pos (by omega), byte_eq _ b (by omega), byte_eq _ t (by omega)]

/-- The second byte keeps three bytes from being an overlong form or a surrogate. -/
theorem encode_three (b t u : UInt8) (hb : 224 ≤ b.toNat ∧ b.toNat < 240)
    (ht : 128 ≤ t.toNat ∧ t.toNat ≤ 191) (hu : 128 ≤ u.toNat ∧ u.toNat ≤ 191)
    (hlow : b.toNat = 224 → 160 ≤ t.toNat) (hhigh : b.toNat = 237 → t.toNat ≤ 159) :
    String.utf8EncodeChar (character [b, t, u]) = [b, t, u] := by
  have hv : (character [b, t, u]).val.toNat =
      (b.toNat % 16 * 64 + t.toNat % 64) * 64 + u.toNat % 64 := by
    simp only [character, List.foldl, leadBits_nat]
    rw [if_neg (by omega), if_neg (by omega), if_pos (by omega), val_ofNat _ (by omega)]
  unfold String.utf8EncodeChar
  simp only [hv]
  rw [if_neg (by omega), if_neg (by omega), if_pos (by omega), byte_eq _ b (by omega),
    byte_eq _ t (by omega), byte_eq _ u (by omega)]

/-- The second byte keeps four bytes from being an overlong form or too large. -/
theorem encode_four (b t u w : UInt8) (hb : 240 ≤ b.toNat ∧ b.toNat ≤ 244)
    (ht : 128 ≤ t.toNat ∧ t.toNat ≤ 191) (hu : 128 ≤ u.toNat ∧ u.toNat ≤ 191)
    (hw : 128 ≤ w.toNat ∧ w.toNat ≤ 191)
    (hlow : b.toNat = 240 → 144 ≤ t.toNat) (hhigh : b.toNat = 244 → t.toNat ≤ 143) :
    String.utf8EncodeChar (character [b, t, u, w]) = [b, t, u, w] := by
  have hv : (character [b, t, u, w]).val.toNat =
      ((b.toNat % 8 * 64 + t.toNat % 64) * 64 + u.toNat % 64) * 64 + w.toNat % 64 := by
    simp only [character, List.foldl, leadBits_nat]
    rw [if_neg (by omega), if_neg (by omega), if_neg (by omega), val_ofNat _ (by omega)]
  unfold String.utf8EncodeChar
  simp only [hv]
  rw [if_neg (by omega), if_neg (by omega), if_neg (by omega), byte_eq _ b (by omega),
    byte_eq _ t (by omega), byte_eq _ u (by omega), byte_eq _ w (by omega)]

/-- The four forms of a character. In the longer two the range of the second byte may be
narrower than that of the bytes after it. -/
theorem follow_cases (b : UInt8) (rs : List Range) (h : follow b = some rs) :
    (b.toNat < 128 ∧ rs = []) ∨
    (194 ≤ b.toNat ∧ b.toNat < 224 ∧ rs = [continuing]) ∨
    (∃ r : Range, 224 ≤ b.toNat ∧ b.toNat < 240 ∧ rs = [r, continuing] ∧
      128 ≤ r.1.toNat ∧ r.2.toNat ≤ 191 ∧ r.1.toNat ≤ r.2.toNat ∧
      (b.toNat = 224 → 160 ≤ r.1.toNat) ∧ (b.toNat = 237 → r.2.toNat ≤ 159)) ∨
    (∃ r : Range, 240 ≤ b.toNat ∧ b.toNat ≤ 244 ∧ rs = [r, continuing, continuing] ∧
      128 ≤ r.1.toNat ∧ r.2.toNat ≤ 191 ∧ r.1.toNat ≤ r.2.toNat ∧
      (b.toNat = 240 → 144 ≤ r.1.toNat) ∧ (b.toNat = 244 → r.2.toNat ≤ 143)) := by
  rw [follow_nat] at h
  repeat' split at h
  all_goals first
    | contradiction
    | obtain rfl := Option.some.inj h
      simp [continuing]
      omega

/-- What obeys the table is the encoding of the character it is read as. -/
theorem encode_character (b : UInt8) (ts : List UInt8) (rs : List Range)
    (hf : follow b = some rs) (ht : fits rs ts = true) :
    String.utf8EncodeChar (character (b :: ts)) = b :: ts := by
  obtain ⟨hb, rfl⟩ | ⟨hb, hb', rfl⟩ | ⟨r, hb, hb', rfl, hr⟩ | ⟨r, hb, hb', rfl, hr⟩ :=
    follow_cases b rs hf
  · obtain rfl := (fits_nil ts).mp ht
    exact encode_one b hb
  · simp only [fits_cons, fits_nil, holds_iff] at ht
    obtain ⟨t, _, rfl, h, rfl⟩ := ht
    exact encode_two b t ⟨hb, hb'⟩ h
  · simp only [fits_cons, fits_nil, holds_iff] at ht
    obtain ⟨t, _, rfl, h, u, _, rfl, hu, rfl⟩ := ht
    exact encode_three b t u ⟨hb, hb'⟩ (by omega) hu (by omega) (by omega)
  · simp only [fits_cons, fits_nil, holds_iff] at ht
    obtain ⟨t, _, rfl, h, u, _, rfl, hu, w, _, rfl, hw, rfl⟩ := ht
    exact encode_four b t u w ⟨hb, hb'⟩ (by omega) hu hw (by omega) (by omega)

theorem encode_injective (c d : Char) (h : String.utf8EncodeChar c = String.utf8EncodeChar d) :
    c = d := by
  have hs : String.ofList [c] = String.ofList [d] := by
    rw [← String.toByteArray_inj]
    simp [List.utf8Encode_singleton, h]
  simpa using hs

theorem follow_three (b t : UInt8) (hb : 224 ≤ b.toNat ∧ b.toNat < 240)
    (ht : 128 ≤ t.toNat ∧ t.toNat ≤ 191)
    (hlow : b.toNat = 224 → 160 ≤ t.toNat) (hhigh : b.toNat = 237 → t.toNat ≤ 159) :
    ∃ r : Range, follow b = some [r, continuing] ∧ r.holds t = true := by
  rw [follow_nat, if_neg (by omega), if_neg (by omega), if_neg (by omega)]
  by_cases h224 : b.toNat = 224
  · exact ⟨_, if_pos h224, (holds_iff _ _).mpr ⟨hlow h224, ht.2⟩⟩
  by_cases h237 : b.toNat = 237
  · rw [if_neg h224]
    exact ⟨_, if_pos h237, (holds_iff _ _).mpr ⟨ht.1, hhigh h237⟩⟩
  · rw [if_neg h224, if_neg h237]
    exact ⟨_, if_pos hb.2, (holds_iff _ _).mpr ht⟩

theorem follow_four (b t : UInt8) (hb : 240 ≤ b.toNat ∧ b.toNat ≤ 244)
    (ht : 128 ≤ t.toNat ∧ t.toNat ≤ 191)
    (hlow : b.toNat = 240 → 144 ≤ t.toNat) (hhigh : b.toNat = 244 → t.toNat ≤ 143) :
    ∃ r : Range, follow b = some [r, continuing, continuing] ∧ r.holds t = true := by
  rw [follow_nat, if_neg (by omega), if_neg (by omega), if_neg (by omega), if_neg (by omega),
    if_neg (by omega), if_neg (by omega)]
  by_cases h240 : b.toNat = 240
  · exact ⟨_, if_pos h240, (holds_iff _ _).mpr ⟨hlow h240, ht.2⟩⟩
  by_cases h244 : b.toNat = 244
  · rw [if_neg h240, if_neg (by omega)]
    exact ⟨_, if_pos h244, (holds_iff _ _).mpr ⟨ht.1, hhigh h244⟩⟩
  · rw [if_neg h240, if_pos (by omega)]
    exact ⟨_, rfl, (holds_iff _ _).mpr ht⟩

theorem toNat_byte (n : Nat) (h : n < 256) : (UInt8.ofNat n).toNat = n := by
  simp [Nat.mod_eq_of_lt h]

theorem fits_continuing (n : Nat) (h : n < 64) :
    continuing.holds (UInt8.ofNat (n + 128)) = true := by
  rw [holds_iff, toNat_byte _ (by omega)]
  simp [continuing]
  omega

/-- The lead byte of an encoded character announces the bytes after it. -/
theorem encode_follows (c : Char) : ∃ b ts rs,
    String.utf8EncodeChar c = b :: ts ∧ follow b = some rs ∧ fits rs ts = true := by
  have hc : c.val.toNat < 0xD800 ∨ 0xDFFF < c.val.toNat ∧ c.val.toNat < 0x110000 := c.valid
  generalize hv : c.val.toNat = v at hc
  unfold String.utf8EncodeChar
  simp only [hv]
  by_cases h1 : v ≤ 0x7f
  · rw [if_pos h1]
    refine ⟨_, _, [], rfl, ?_, rfl⟩
    rw [follow_nat, toNat_byte _ (by omega), if_pos (by omega)]
  by_cases h2 : v ≤ 0x7ff
  · rw [if_neg h1, if_pos h2]
    refine ⟨_, _, [continuing], rfl, ?_, ?_⟩
    · rw [follow_nat, toNat_byte _ (by omega), if_neg (by omega), if_neg (by omega),
        if_pos (by omega)]
    · simp only [fits, fits_continuing (v % 64) (by omega), Bool.and_self]
  by_cases h3 : v ≤ 0xffff
  · rw [if_neg h1, if_neg h2, if_pos h3]
    have hb := toNat_byte (v / 4096 % 16 + 224) (by omega)
    have ht := toNat_byte (v / 64 % 64 + 128) (by omega)
    obtain ⟨r, hf, hr⟩ := follow_three (UInt8.ofNat (v / 4096 % 16 + 224))
      (UInt8.ofNat (v / 64 % 64 + 128)) (by omega) (by omega) (by omega) (by omega)
    refine ⟨_, _, _, rfl, hf, ?_⟩
    simp only [fits, hr, fits_continuing (v % 64) (by omega), Bool.and_self]
  · rw [if_neg h1, if_neg h2, if_neg h3]
    have hb := toNat_byte (v / 262144 % 8 + 240) (by omega)
    have ht := toNat_byte (v / 4096 % 64 + 128) (by omega)
    obtain ⟨r, hf, hr⟩ := follow_four (UInt8.ofNat (v / 262144 % 8 + 240))
      (UInt8.ofNat (v / 4096 % 64 + 128)) (by omega) (by omega) (by omega) (by omega)
    refine ⟨_, _, _, rfl, hf, ?_⟩
    simp only [fits, hr, fits_continuing (v / 64 % 64) (by omega),
      fits_continuing (v % 64) (by omega), Bool.and_self]

theorem character_encode (c : Char) : character (String.utf8EncodeChar c) = c := by
  obtain ⟨b, ts, rs, he, hf, ht⟩ := encode_follows c
  apply encode_injective
  rw [he, encode_character b ts rs hf ht]

/-- Every range of the table holds a byte, so an unfinished character can be finished. -/
theorem follow_inhabited (b : UInt8) (rs : List Range) (h : follow b = some rs) :
    ∀ r ∈ rs, r.holds r.1 = true := by
  obtain ⟨-, rfl⟩ | ⟨-, -, rfl⟩ | ⟨r, -, -, rfl, -, -, hr, -⟩ | ⟨r, -, -, rfl, -, -, hr, -⟩ :=
    follow_cases b rs h
  all_goals simp [holds_iff, continuing]
  all_goals exact hr

end CellRunner.Utf8
