import CellRunner.Text.Case

/-!
# Texts whose lower case is ASCII

The only character apart from ASCII that has an ASCII character as its lower case is the Kelvin
sign. So a text without the letter k is the lower case of its ASCII spellings alone.
-/

set_option autoImplicit false

namespace CellRunner.Text
open Case

def IsAscii (c : Char) : Prop := c.toNat < 0x80

instance : DecidablePred IsAscii := fun c => inferInstanceAs (Decidable (c.toNat < 0x80))

theorem toLower_of_not_isAscii (c : Char) (h : ¬ IsAscii c) : c.toLower = c := by
  unfold Char.toLower
  split
  · next hc =>
    have hz : c.toNat ≤ 0x5A := UInt32.le_iff_toNat_le.mp hc.2
    exact absurd (show c.toNat < 0x80 by omega) h
  · rfl

theorem toNat_ofNat (n : Nat) (h : n.isValidChar) : (Char.ofNat n).toNat = n := by
  rw [Char.ofNat, dif_pos h]
  rfl

set_option maxRecDepth 4000 in
/-- A run of characters lies in ASCII, is the Kelvin sign, or has its images out of ASCII. -/
theorem runs_images : ∀ r ∈ runs, r.last < 0x80 ∨
    (r.first = 0x212A ∧ r.last = 0x212A ∧ r.image = 0x6B) ∨
    (0x80 ≤ r.image ∧ (r.image + (r.last - r.first) < 0xD800 ∨
      0xDFFF < r.image ∧ r.image + (r.last - r.first) < 0x110000)) := by
  decide

theorem lower_far (c : Char) (h : ¬ IsAscii c) : ∃ d ∈ lower c, IsAscii d → d = 'k' := by
  have hc : ¬ c.toNat < 0x80 := h
  unfold lower
  rw [if_neg hc]
  by_cases hdotted : c.toNat = 0x130
  · rw [if_pos hdotted]
    exact ⟨'\u0307', by simp, by simp [IsAscii]⟩
  rw [if_neg hdotted]
  cases hrun : runs.find? (·.holds c.toNat) with
  | none => exact ⟨c, by simp, fun ha => absurd ha h⟩
  | some r =>
    refine ⟨_, List.mem_singleton_self _, fun ha => ?_⟩
    have hin : r.first ≤ c.toNat ∧ c.toNat ≤ r.last := by
      have hholds := List.find?_some hrun
      simp only [Run.holds, Bool.and_eq_true, decide_eq_true_eq] at hholds
      exact hholds.1
    rcases runs_images r (List.mem_of_find?_eq_some hrun) with hlast | ⟨hf, hl, hi⟩ | ⟨hi, hv⟩
    · omega
    · rw [hi, show c.toNat - r.first = 0 by omega]
    · have hvalid : (r.image + (c.toNat - r.first)).isValidChar := by
        unfold Nat.isValidChar
        omega
      unfold IsAscii at ha
      rw [toNat_ofNat _ hvalid] at ha
      omega

theorem lowerFrom_eq_iff (before cs w : List Char) (h : ∀ c ∈ w, IsAscii c ∧ c ≠ 'k') :
    lowerFrom before cs = w ↔ cs.map Char.toLower = w := by
  induction cs generalizing before w with
  | nil => simp [lowerFrom]
  | cons c cs ih =>
    by_cases hc : IsAscii c
    · have hform : lowerFrom before (c :: cs) = c.toLower :: lowerFrom (c :: before) cs := by
        have hlow : c.toNat < 0x80 := hc
        have hsigma : c.toNat ≠ 0x3A3 := by omega
        simp [lowerFrom, lower, hlow, hsigma]
      rw [hform, List.map_cons]
      cases w with
      | nil => simp
      | cons d w =>
        rw [List.cons.injEq, List.cons.injEq, ih _ _ fun d hd => h d (by simp [hd])]
    · -- neither side has an image in ASCII here
      have hforms : lowerFrom before (c :: cs) ≠ w := by
        rintro rfl
        obtain ⟨d, hd, hk⟩ : ∃ d ∈ lowerFrom before (c :: cs), IsAscii d → d = 'k' := by
          rw [lowerFrom]
          split
          · exact ⟨'\u03C2', by simp, by simp [IsAscii]⟩
          · obtain ⟨d, hd, hk⟩ := lower_far c hc
            exact ⟨d, by simp [hd], hk⟩
        exact (h d hd).2 (hk (h d hd).1)
      have hletters : (c :: cs).map Char.toLower ≠ w := by
        rintro rfl
        have hlow := (h c.toLower (by simp)).1
        rw [toLower_of_not_isAscii c hc] at hlow
        exact hc hlow
      simp only [hforms, hletters]

theorem lowercase_eq_iff (cs w : List Char) (h : ∀ c ∈ w, IsAscii c ∧ c ≠ 'k') :
    lowercase cs = w ↔ cs.map Char.toLower = w := lowerFrom_eq_iff [] cs w h

end CellRunner.Text
