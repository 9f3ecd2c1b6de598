import Mathlib.Data.List.TakeWhile
import CellRunner.Proofs.Directive.Tokens

/-!
# Tokens are the matches of an expression

A backslash in a segment is tried with the character after it first, and by itself only when that
leads to no closing quote. So an escaped quote closes a segment when it is the last quote of the
text and no quote before it in the segment stands alone.
-/

set_option autoImplicit false

namespace CellRunner.Directive.Arguments
open Text Text.Expression

def isBare (c : Char) : Bool := !isBlank c && c != ',' && c != '"'

/-- `\\.|[^"]` -/
def inner : Expression :=
  .either (.sequence (.oneOf (· == '\\')) (.oneOf (· != '\n'))) (.oneOf (· != '"'))

/-- `(?:\\.|[^"])*"` -/
def closing : Expression := .sequence inner.star (.oneOf (· == '"'))

/-- `[^\s,"]|"(?:\\.|[^"])*"` -/
def piece : Expression := .either (.oneOf isBare) (.sequence (.oneOf (· == '"')) closing)

/-- `(?:[^\s,"]|"(?:\\.|[^"])*")+` -/
def argument : Expression := piece.plus

section closing

variable (c : Char) (cs : List Char)

theorem consumes_inner : inner.Consumes :=
  consumes_either (consumes_sequence _ (consumes_oneOf _)) (consumes_oneOf _)

theorem rests_closing : closing.rests cs =
    (inner.rests cs).flatMap closing.rests ++ (oneOf (· == '"')).rests cs := by
  rw [closing, rests, rests_star consumes_inner, List.flatMap_append, List.flatMap_assoc]
  simp [rests]

theorem rests_closing_quote : closing.rests ('"' :: cs) = [cs] := by
  rw [rests_closing]
  simp [inner, rests]

theorem rests_closing_plain {c : Char} (hbackslash : c ≠ '\\') (hquote : c ≠ '"') :
    closing.rests (c :: cs) = closing.rests cs := by
  rw [rests_closing]
  simp [inner, rests, hbackslash, hquote]

theorem rests_closing_escape : closing.rests ('\\' :: c :: cs) =
    (if c = '\n' then [] else closing.rests cs) ++ closing.rests (c :: cs) := by
  rw [rests_closing]
  by_cases hnewline : c = '\n' <;> simp [inner, rests, hnewline]

/-- The escaped character is passed over first, whatever it is. -/
theorem head?_closing_escape {rest : List Char} (h : (closing.rests cs).head? = some rest) :
    (closing.rests ('\\' :: c :: cs)).head? = some rest := by
  rw [rests_closing_escape]
  by_cases hnewline : c = '\n'
  · subst hnewline
    simpa [rests_closing_plain] using h
  · simp [hnewline, h]

theorem quote_of_closing {text : List Char} (h : Matches closing text) : '"' ∈ text := by
  cases h with
  | sequence _ hlast =>
    cases hlast with
    | oneOf hquote =>
      obtain rfl := beq_iff_eq.mp hquote
      simp

theorem rests_closing_of_unquoted (cs : List Char) (h : '"' ∉ cs) : closing.rests cs = [] := by
  rw [List.eq_nil_iff_forall_not_mem]
  intro rest hrest
  obtain ⟨text, rfl, htext⟩ := (mem_rests_iff _ _ _).mp hrest
  exact h (List.mem_append_left _ (quote_of_closing htext))

variable {cs} {body rest : List Char}

theorem head?_closing_of_paired (h : Paired body) :
    (closing.rests (body ++ '"' :: rest)).head? = some rest := by
  induction h with
  | nil => simp [rests_closing_quote]
  | escape c _ ih => exact head?_closing_escape c _ ih
  | plain hbackslash hquote _ ih =>
    rw [List.cons_append, rests_closing_plain _ hbackslash hquote, ih]

/-- When all quotes are escaped the last one closes the segment: what comes before it is passed
over in pairs, and no pair beyond it leads to a quote. -/
theorem head?_closing_of_escaped (body : List Char) (hlast : '"' ∉ rest)
    (h : ∀ front more, Paired front → body ++ '"' :: rest ≠ front ++ '"' :: more) :
    (closing.rests (body ++ '"' :: rest)).head? = some rest := by
  cases body with
  | nil => exact absurd rfl (h [] rest .nil)
  | cons c body =>
    by_cases hquote : c = '"'
    · exact absurd (by rw [hquote]; rfl) (h [] (body ++ '"' :: rest) .nil)
    by_cases hbackslash : c = '\\'
    · subst hbackslash
      cases body with
      | nil =>
        have hnone := rests_closing_of_unquoted rest hlast
        simp [rests_closing_escape, rests_closing_quote, hnone]
      | cons d body =>
        refine head?_closing_escape d _ ?_
        refine head?_closing_of_escaped body hlast fun front more hf hc => ?_
        exact h ('\\' :: d :: front) more (.escape d hf) (by simp [hc])
    · rw [List.cons_append, rests_closing_plain _ hbackslash hquote]
      refine head?_closing_of_escaped body hlast fun front more hf hc => ?_
      exact h (c :: front) more (.plain hbackslash hquote hf) (by simp [hc])

theorem head?_closing (h : Segment cs body rest) : (closing.rests cs).head? = some rest := by
  obtain ⟨rfl, hclosed | ⟨hescaped, hlast⟩⟩ := h
  · exact head?_closing_of_paired hclosed
  · exact head?_closing_of_escaped body hlast hescaped

end closing

section argument

variable {cs p token rest : List Char}

theorem head?_piece (h : Piece cs p rest) : (piece.rests cs).head? = some rest := by
  cases h with
  | bare hblank hcomma hquote => simp [piece, rests, isBare, hblank, hcomma, hquote]
  | segment hclosed => simpa [piece, rests, isBare] using head?_closing hclosed

theorem rests_piece_of_ends (h : Ends cs) : piece.rests cs = [] := by
  rcases h with rfl | ⟨rest, hgap⟩
  · simp [piece, rests]
  · cases hgap with
    | @blank c rest hblank =>
      have hquote : c ≠ '"' := by
        rintro rfl
        exact absurd hblank (by decide)
      simp [piece, rests, isBare, hblank, hquote]
    | comma => simp [piece, rests, isBare]
    | quote halone => simp [piece, rests, isBare, rests_closing_of_unquoted _ halone]

theorem consumes_piece : piece.Consumes :=
  consumes_either (consumes_oneOf _) (consumes_sequence _ (consumes_oneOf _))

theorem head?_star (h : Run cs token rest) : (piece.star.rests cs).head? = some rest := by
  induction h with
  | last hpiece hends =>
    rw [head?_rests_star consumes_piece (head?_piece hpiece)]
    exact head?_rests_star_of_nil (rests_piece_of_ends hends)
  | more hpiece _ ih => rw [head?_rests_star consumes_piece (head?_piece hpiece), ih]

theorem head?_argument (h : Run cs token rest) : (argument.rests cs).head? = some rest := by
  cases h with
  | last hpiece hends =>
    rw [argument, head?_rests_plus (head?_piece hpiece)]
    exact head?_rests_star_of_nil (rests_piece_of_ends hends)
  | more hpiece hnext => rw [argument, head?_rests_plus (head?_piece hpiece), head?_star hnext]

theorem finds_tokens {ts : List (List Char)} (h : Tokens cs ts) : argument.Finds cs ts := by
  induction h with
  | nil => exact .nothing (rests_plus_of_nil (rests_piece_of_ends (.inl rfl)))
  | gap hgap _ ih =>
    have hnone := rests_plus_of_nil (rests_piece_of_ends (.inr ⟨_, hgap⟩))
    cases hgap <;> exact .passed hnone ih
  | token hrun _ ih => exact .found (run_cut hrun).1 (run_cut hrun).2 (head?_argument hrun) ih

end argument

/-- The arguments of a value are the matches of the expression in it, and these are its tokens. -/
theorem split_tokens (value : List Char) :
    ∃ ts, (∀ found, argument.Finds value found ↔ found = ts) ∧
      (∀ found, Tokens value found ↔ found = ts) ∧ split value = ts.map (strip (· == '"')) := by
  obtain ⟨ts, hts⟩ := exists_tokens value
  refine ⟨ts, fun found => ⟨fun h => finds_unique h (finds_tokens hts), ?_⟩, fun found => ?_, ?_⟩
  · rintro rfl
    exact finds_tokens hts
  · rw [tokens_iff, tokens_eq hts, eq_comm]
  · rw [split, tokens_eq hts]

-- the only quote after the first is escaped, and closes the segment
example : split "\"a\\\" b".toList = [['a', '\\'], ['b']] := by decide

end CellRunner.Directive.Arguments

/-! ## What stands outside the arguments

The search for arguments passes over blanks, commas and at most one quote, the last one of the
value. So no text of a value is lost, and none is given twice or out of order.
-/

namespace CellRunner.Directive.Arguments
open Text Text.Expression

theorem filter_dropWhile {p q : Char → Bool} (h : ∀ c, p c → ¬ q c) (cs : List Char) :
    (cs.dropWhile p).filter q = cs.filter q := by
  have hdropped : (cs.takeWhile p).filter q = [] :=
    List.filter_eq_nil_iff.mpr fun c hc => h c (List.mem_takeWhile_imp hc)
  calc (cs.dropWhile p).filter q
      = (cs.takeWhile p).filter q ++ (cs.dropWhile p).filter q := by rw [hdropped, List.nil_append]
    _ = cs.filter q := by rw [← List.filter_append, List.takeWhile_append_dropWhile]

theorem filter_strip {p q : Char → Bool} (h : ∀ c, p c → ¬ q c) (cs : List Char) :
    (strip p cs).filter q = cs.filter q := by
  rw [strip, List.filter_reverse, filter_dropWhile h, ← List.filter_reverse, List.reverse_reverse,
    filter_dropWhile h]

theorem gap_of_unmatched {c : Char} {cs : List Char} (h : argument.rests (c :: cs) = []) :
    Gap (c :: cs) cs := by
  rcases ends_or_piece (c :: cs) with (hnil | ⟨rest, hgap⟩) | ⟨p, rest, hpiece⟩
  · cases hnil
  · cases hgap with
    | blank hblank => exact .blank hblank
    | comma => exact .comma
    | quote halone => exact .quote halone
  · have hhead := head?_rests_plus (head?_piece hpiece)
    rw [← argument, h, List.head?_nil, eq_comm, List.head?_eq_none_iff] at hhead
    exact absurd hhead (rests_star_ne_nil piece rest)

theorem consumes_argument : argument.Consumes := consumes_sequence _ consumes_piece

section search

variable {value : List Char} {parts before after : List Part}

theorem passed_gap (h : argument.Searched value parts) {c : Char}
    (hparts : parts = before ++ .passed c :: after) :
    Gap (c :: after.flatMap Part.text) (after.flatMap Part.text) :=
  gap_of_unmatched (searched_unmatched h hparts)

theorem passed_separator (h : argument.Searched value parts) (c : Char)
    (hc : .passed c ∈ parts) : isSeparator c ∨ c = '"' := by
  obtain ⟨before, after, hparts⟩ := List.append_of_mem hc
  cases passed_gap h hparts with
  | blank hblank => exact .inl (by simp [isSeparator, hblank])
  | comma => exact .inl (by decide)
  | quote => exact .inr rfl

theorem passed_quote_last (h : argument.Searched value parts)
    (hparts : parts = before ++ .passed '"' :: after) : '"' ∉ after.flatMap Part.text := by
  generalize hquote : '"' = c at hparts
  cases passed_gap h hparts with
  | blank hblank => exact absurd (hquote ▸ hblank) (by decide)
  | comma => exact absurd hquote (by decide)
  | quote halone => exact halone

theorem passed_quote_once (h : argument.Searched value parts) :
    parts.count (.passed '"') ≤ 1 := by
  by_cases hin : .passed '"' ∈ parts
  · obtain ⟨before, after, hparts, hfirst⟩ := List.eq_append_cons_of_mem hin
    have hlast : .passed '"' ∉ after := fun hmore =>
      passed_quote_last h hparts (List.mem_flatMap.mpr ⟨_, hmore, List.mem_singleton_self _⟩)
    have hone : parts.count (.passed '"') = 1 := by
      rw [hparts, List.count_append, List.count_cons_self, List.count_eq_zero.mpr hfirst,
        List.count_eq_zero.mpr hlast]
    exact hone.le
  · rw [List.count_eq_zero.mpr hin]
    exact Nat.zero_le 1

theorem split_searched (h : argument.Searched value parts) :
    split value = (parts.filterMap Part.match?).map (strip (· == '"')) := by
  obtain ⟨ts, hts⟩ := exists_tokens value
  have hfound : argument.Finds value (parts.filterMap Part.match?) :=
    finds_iff_searched.mpr ⟨parts, h, rfl⟩
  rw [split, tokens_eq hts, finds_unique hfound (finds_tokens hts)]

theorem filter_found (h : ∀ c, .passed c ∈ parts → ¬ isBare c) :
    ((parts.filterMap Part.match?).map (strip (· == '"'))).flatten.filter isBare =
      (parts.flatMap Part.text).filter isBare := by
  induction parts with
  | nil => rfl
  | cons part parts ih =>
    have hrest := ih fun c hc => h c (by simp [hc])
    cases part with
    | passed c =>
      rw [List.filterMap_cons_none rfl, hrest, List.flatMap_cons, List.filter_append, Part.text,
        List.filter_cons_of_neg (h c (by simp)), List.filter_nil, List.nil_append]
    | found text =>
      have hquote : ∀ c, (c == '"') = true → ¬ isBare c := by
        intro c hc
        simp [isBare, beq_iff_eq.mp hc]
      rw [List.filterMap_cons_some (f := Part.match?) rfl, List.map_cons, List.flatten_cons, List.filter_append,
        hrest, filter_strip hquote, List.flatMap_cons, List.filter_append, Part.text]

end search

/-- But for blanks, commas and quotes the arguments hold the text of a value as it is, and of its
quotes at most one stands outside all matches, which then is its last quote. -/
theorem split_conserves (value : List Char) :
    (split value).flatten.filter isBare = value.filter isBare ∧
      ∃ parts, (∀ ps, argument.Searched value ps ↔ ps = parts) ∧
        value = parts.flatMap Part.text ∧
        split value = (parts.filterMap Part.match?).map (strip (· == '"')) ∧
        (∀ c, .passed c ∈ parts → isSeparator c ∨ c = '"') ∧
        parts.count (.passed '"') ≤ 1 ∧
        ∀ before after, parts = before ++ .passed '"' :: after →
          '"' ∉ after.flatMap Part.text := by
  obtain ⟨parts, hparts⟩ := exists_searched consumes_argument value
  have hbare : ∀ c, .passed c ∈ parts → ¬ isBare c := by
    intro c hc
    rcases passed_separator hparts c hc with hseparator | rfl
    · rcases Bool.or_eq_true_iff.mp hseparator with hblank | hcomma
      · simp [isBare, hblank]
      · simp [isBare, beq_iff_eq.mp hcomma]
    · decide
  refine ⟨?_, parts, fun ps => ⟨fun h => searched_unique h hparts, ?_⟩, searched_text hparts,
    split_searched hparts, passed_separator hparts, passed_quote_once hparts,
    fun before after => passed_quote_last hparts⟩
  · rw [split_searched hparts, filter_found hbare, ← searched_text hparts]
  · rintro rfl
    exact hparts

-- a quote with no quote after it parts two arguments and belongs to none
example : split "a,\" \"b\"c".toList = [['a'], [' ', '"', 'b'], ['c']] := by decide

end CellRunner.Directive.Arguments
