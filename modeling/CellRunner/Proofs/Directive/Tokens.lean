import Mathlib.Data.List.DropRight
import CellRunner.Directive.Arguments
import CellRunner.Proofs.Text.Expression
import CellRunner.Proofs.Text.Lines

/-!
# The tokens of an argument list

A token is made of characters outside quotes and of quoted segments, one after the other. What its
tokens are is said of a text as a whole, and the scanner finds them.
-/

set_option autoImplicit false

namespace CellRunner.Directive.Arguments

/-- Backslashes, each with the character that it escapes, and other characters but no quotes. -/
inductive Paired : List Char → Prop where
  | nil : Paired []
  | escape (c : Char) {cs : List Char} (next : Paired cs) : Paired ('\\' :: c :: cs)
  | plain {c : Char} {cs : List Char} (backslash : c ≠ '\\') (quote : c ≠ '"') (next : Paired cs) :
      Paired (c :: cs)

/-- The segment that a quote opens before a text. It closes at the first quote that is not
escaped, and where there is none at the last quote. -/
structure Segment (cs body rest : List Char) : Prop where
  cut : cs = body ++ '"' :: rest
  closes : Paired body ∨
    (∀ front more, Paired front → cs ≠ front ++ '"' :: more) ∧ '"' ∉ rest

/-- A piece of a token at the front of a text, and what follows it. -/
inductive Piece : List Char → List Char → List Char → Prop where
  | bare {c : Char} {rest : List Char} (blank : ¬ Text.isBlank c) (comma : c ≠ ',')
      (quote : c ≠ '"') : Piece (c :: rest) [c] rest
  | segment {cs body rest : List Char} (closed : Segment cs body rest) :
      Piece ('"' :: cs) ('"' :: (body ++ ['"'])) rest

/-- A character that belongs to no token: a blank, a comma, or a quote with no quote after it. -/
inductive Gap : List Char → List Char → Prop where
  | blank {c : Char} {rest : List Char} (blank : Text.isBlank c) : Gap (c :: rest) rest
  | comma {rest : List Char} : Gap (',' :: rest) rest
  | quote {rest : List Char} (alone : '"' ∉ rest) : Gap ('"' :: rest) rest

/-- Where a token ends. -/
def Ends (cs : List Char) : Prop := cs = [] ∨ ∃ rest, Gap cs rest

/-- A token at the front of a text: its pieces up to the place where it ends. -/
inductive Run : List Char → List Char → List Char → Prop where
  | last {cs p rest : List Char} (piece : Piece cs p rest) (ends : Ends rest) : Run cs p rest
  | more {cs p middle token rest : List Char} (piece : Piece cs p middle)
      (next : Run middle token rest) : Run cs (p ++ token) rest

/-- The tokens of a text. -/
inductive Tokens : List Char → List (List Char) → Prop where
  | nil : Tokens [] []
  | gap {cs rest : List Char} {ts : List (List Char)} (gap : Gap cs rest) (next : Tokens rest ts) :
      Tokens cs ts
  | token {cs token rest : List Char} {ts : List (List Char)} (run : Run cs token rest)
      (next : Tokens rest ts) : Tokens cs (token :: ts)

theorem piece_cut {cs piece rest : List Char} (h : Piece cs piece rest) :
    cs = piece ++ rest ∧ piece ≠ [] := by
  cases h with
  | bare => exact ⟨rfl, by simp⟩
  | segment hclosed => exact ⟨by simp [hclosed.cut], by simp⟩

theorem run_cut {cs token rest : List Char} (h : Run cs token rest) :
    cs = token ++ rest ∧ token ≠ [] := by
  induction h with
  | last hpiece => exact piece_cut hpiece
  | more hpiece _ ih =>
    obtain ⟨rfl, hfilled⟩ := piece_cut hpiece
    exact ⟨by rw [ih.1, List.append_assoc], by simp [hfilled]⟩

theorem gap_length {cs rest : List Char} (h : Gap cs rest) : rest.length < cs.length := by
  cases h <;> simp

/-! ## The scanner -/

section scanner

theorem closes_iff (cs : List Char) :
    closes cs = true ↔ ∃ body rest, Paired body ∧ cs = body ++ '"' :: rest := by
  constructor
  · intro h
    fun_induction closes cs with
    | case1 => cases h
    | case2 rest => exact ⟨[], rest, .nil, rfl⟩
    | case3 c cs ih =>
      obtain ⟨body, rest, hbody, rfl⟩ := ih h
      exact ⟨'\\' :: c :: body, rest, .escape c hbody, rfl⟩
    | case4 c cs hquote hescape ih =>
      obtain ⟨body, rest, hbody, rfl⟩ := ih h
      have hbackslash : c ≠ '\\' := by
        rintro rfl
        cases body with
        | nil => exact hescape _ _ rfl rfl
        | cons d body => exact hescape _ _ rfl rfl
      exact ⟨c :: body, rest, .plain hbackslash hquote hbody, rfl⟩
  · rintro ⟨body, rest, hbody, rfl⟩
    induction hbody with
    | nil => rfl
    | escape c _ ih => exact ih
    | plain hbackslash hquote _ ih => simpa [closes, hbackslash, hquote] using ih

variable (begun body rest : List Char)

theorem tokens_segment (h : Paired body) : tokens .segment begun (body ++ '"' :: rest) =
    tokens .bare ('"' :: (body.reverse ++ begun)) rest := by
  induction h generalizing begun with
  | nil => simp [tokens]
  | escape c _ ih => simpa [tokens] using ih (c :: '\\' :: begun)
  | @plain c cs hbackslash hquote _ ih => simpa [tokens, hbackslash, hquote] using ih (c :: begun)

theorem tokens_lastSegment (h : '"' ∉ rest) : tokens .lastSegment begun (body ++ '"' :: rest) =
    tokens .bare ('"' :: (body.reverse ++ begun)) rest := by
  induction body generalizing begun with
  | nil => simp [tokens, h]
  | cons c body ih => simpa [tokens] using ih (c :: begun)

theorem opened_eq (cs : List Char) : opened cs = if closes cs then some .segment
    else if '"' ∈ cs then some .lastSegment else none := by
  simp [opened]

variable {cs p token : List Char} {rest}

theorem opened_of_segment (h : Segment cs body rest) :
    ∃ place, opened cs = some place ∧
      ∀ begun, tokens place begun cs = tokens .bare ('"' :: (body.reverse ++ begun)) rest := by
  obtain ⟨rfl, hclosed | ⟨hescaped, hlast⟩⟩ := h
  · have hcloses := (closes_iff _).mpr ⟨body, rest, hclosed, rfl⟩
    exact ⟨.segment, by simp [opened_eq, hcloses], fun begun => tokens_segment begun _ _ hclosed⟩
  · have hcloses : closes (body ++ '"' :: rest) ≠ true := by
      intro hcloses
      obtain ⟨front, more, hfront, hcut⟩ := (closes_iff _).mp hcloses
      exact hescaped front more hfront hcut
    exact ⟨.lastSegment, by simp [opened_eq, hcloses],
      fun begun => tokens_lastSegment begun _ _ hlast⟩

theorem tokens_piece (h : Piece cs p rest) :
    tokens .bare begun cs = tokens .bare (p.reverse ++ begun) rest := by
  cases h with
  | bare hblank hcomma hquote => simp [tokens, isSeparator, hblank, hcomma, hquote]
  | segment hclosed =>
    obtain ⟨place, hopened, hscan⟩ := opened_of_segment _ hclosed
    simpa [tokens, isSeparator, Text.isBlank, hopened] using hscan ('"' :: begun)

theorem tokens_gap (h : Gap cs rest) :
    tokens .bare begun cs = endToken begun (tokens .bare [] rest) := by
  cases h with
  | blank hblank => simp [tokens, isSeparator, hblank]
  | comma => simp [tokens, isSeparator]
  | quote halone =>
    have hcloses : closes rest ≠ true := fun hcloses => by
      obtain ⟨front, more, -, rfl⟩ := (closes_iff _).mp hcloses
      simp at halone
    simp [tokens, isSeparator, Text.isBlank, opened_eq, hcloses, halone]

theorem tokens_ends (h : Ends rest) :
    tokens .bare begun rest = endToken begun (tokens .bare [] rest) := by
  rcases h with rfl | ⟨next, hgap⟩
  · rfl
  · rw [tokens_gap begun hgap, tokens_gap [] hgap]
    rfl

theorem tokens_run (h : Run cs token rest) :
    tokens .bare begun cs = endToken (token.reverse ++ begun) (tokens .bare [] rest) := by
  induction h generalizing begun with
  | last hpiece hends => rw [tokens_piece begun hpiece, tokens_ends _ hends]
  | more hpiece _ ih => rw [tokens_piece begun hpiece, ih]; simp

theorem tokens_eq {ts : List (List Char)} (h : Tokens cs ts) : tokens .bare [] cs = ts := by
  induction h with
  | nil => rfl
  | gap hgap _ ih => rw [tokens_gap [] hgap, ih]; rfl
  | token hrun _ ih =>
    rw [tokens_run [] hrun, ih]
    simp [endToken, (run_cut hrun).2]

end scanner

/-! ## Every text has tokens -/

theorem exists_segment (cs : List Char) (h : '"' ∈ cs) : ∃ body rest, Segment cs body rest := by
  by_cases hclosed : ∃ body rest, Paired body ∧ cs = body ++ '"' :: rest
  · obtain ⟨body, rest, hbody, hcut⟩ := hclosed
    exact ⟨body, rest, hcut, .inl hbody⟩
  · obtain ⟨tail, front, hcut, htail⟩ := List.eq_append_cons_of_mem (List.mem_reverse.mpr h)
    have hcut' : cs = front.reverse ++ '"' :: tail.reverse := by
      simpa using congrArg List.reverse hcut
    refine ⟨front.reverse, tail.reverse, hcut', .inr ⟨fun body rest hbody hb => ?_, by simpa⟩⟩
    exact hclosed ⟨body, rest, hbody, hb⟩

theorem ends_or_piece (cs : List Char) : Ends cs ∨ ∃ p rest, Piece cs p rest := by
  cases cs with
  | nil => exact .inl (.inl rfl)
  | cons c cs =>
    by_cases hblank : Text.isBlank c
    · exact .inl (.inr ⟨cs, .blank hblank⟩)
    by_cases hcomma : c = ','
    · exact .inl (.inr ⟨cs, hcomma ▸ .comma⟩)
    by_cases hquote : c = '"'
    · subst hquote
      by_cases hmore : '"' ∈ cs
      · obtain ⟨body, rest, hclosed⟩ := exists_segment cs hmore
        exact .inr ⟨_, rest, .segment hclosed⟩
      · exact .inl (.inr ⟨cs, .quote hmore⟩)
    · exact .inr ⟨[c], cs, .bare hblank hcomma hquote⟩

theorem exists_run {cs p middle : List Char} (h : Piece cs p middle) :
    ∃ token rest, Run cs token rest := by
  rcases ends_or_piece middle with hends | ⟨q, rest, hpiece⟩
  · exact ⟨p, middle, .last h hends⟩
  · have hshorter : middle.length < cs.length := by
      obtain ⟨rfl, hfilled⟩ := piece_cut h
      simpa [List.length_pos_iff] using hfilled
    obtain ⟨token, rest, hrun⟩ := exists_run hpiece
    exact ⟨p ++ token, rest, .more h hrun⟩
termination_by cs.length

theorem exists_tokens (cs : List Char) : ∃ ts, Tokens cs ts := by
  rcases ends_or_piece cs with (rfl | ⟨rest, hgap⟩) | ⟨p, middle, hpiece⟩
  · exact ⟨[], .nil⟩
  · have hshorter := gap_length hgap
    obtain ⟨ts, hts⟩ := exists_tokens rest
    exact ⟨ts, .gap hgap hts⟩
  · obtain ⟨token, rest, hrun⟩ := exists_run hpiece
    have hshorter : rest.length < cs.length := by
      obtain ⟨rfl, hfilled⟩ := run_cut hrun
      simpa [List.length_pos_iff] using hfilled
    obtain ⟨ts, hts⟩ := exists_tokens rest
    exact ⟨token :: ts, .token hrun hts⟩
termination_by cs.length

theorem tokens_iff (cs : List Char) (ts : List (List Char)) :
    Tokens cs ts ↔ tokens .bare [] cs = ts :=
  Text.graph_iff Tokens tokens_eq exists_tokens cs ts

end CellRunner.Directive.Arguments

/-! ## An argument that is one segment

A segment that an unescaped quote closes is one argument. Of the quotes that surround it as many are
dropped as there are, so one that is escaped at its end goes with the closing one.
-/

namespace CellRunner.Directive.Arguments
open Text

theorem strip_eq (p : Char → Bool) (cs : List Char) :
    strip p cs = (cs.dropWhile p).rdropWhile p := rfl

theorem paired_last {body : List Char} (h : Paired body) (hlast : body.getLast? = some '"') :
    ∃ front, body = front ++ ['\\', '"'] := by
  induction h with
  | nil => simp at hlast
  | @escape c cs _ ih =>
    cases cs with
    | nil =>
      obtain rfl : c = '"' := by simpa using hlast
      exact ⟨[], rfl⟩
    | cons d cs =>
      obtain ⟨front, hfront⟩ := ih (by simpa [List.getLast?_cons_cons] using hlast)
      exact ⟨'\\' :: c :: front, by simp [hfront]⟩
  | @plain c cs _ hquote _ ih =>
    cases cs with
    | nil => exact absurd (by simpa using hlast) hquote
    | cons d cs =>
      obtain ⟨front, hfront⟩ := ih (by simpa [List.getLast?_cons_cons] using hlast)
      exact ⟨c :: front, by simp [hfront]⟩

theorem rdropWhile_paired {body : List Char} (h : Paired body) :
    body.rdropWhile (· == '"') = if body.getLast? = some '"' then body.dropLast else body := by
  split
  · next hlast =>
    obtain ⟨front, rfl⟩ := paired_last h hlast
    have hcut : front ++ ['\\', '"'] = (front ++ ['\\']) ++ ['"'] := by simp
    rw [hcut, List.rdropWhile_concat_pos _ _ _ (by simp),
      List.rdropWhile_concat_neg _ _ _ (by simp), List.dropLast_concat]
  · next hlast =>
    rw [List.rdropWhile_eq_self_iff]
    intro hfilled hquote
    rw [List.getLast?_eq_some_getLast hfilled] at hlast
    exact hlast (congrArg some (beq_iff_eq.mp hquote))

theorem strip_segment {body : List Char} (h : Paired body) :
    strip (· == '"') ('"' :: (body ++ ['"'])) =
      if body.getLast? = some '"' then body.dropLast else body := by
  have hclosing : (body ++ ['"']).rdropWhile (· == '"') = body.rdropWhile (· == '"') :=
    List.rdropWhile_concat_pos _ _ _ (by simp)
  rw [strip_eq, List.dropWhile_cons_of_pos (by simp), ← rdropWhile_paired h, ← hclosing]
  -- the text does not begin with a quote
  cases h with
  | nil => rfl
  | escape => rw [List.cons_append, List.dropWhile_cons_of_neg (by simp)]
  | plain _ hquote => rw [List.cons_append, List.dropWhile_cons_of_neg (by simpa using hquote)]

/-- A segment keeps its text, but for an escaped quote at its end. -/
theorem split_segment (body : List Char) (h : Paired body) :
    split ('"' :: (body ++ ['"'])) =
        [if body.getLast? = some '"' then body.dropLast else body] ∧
      (split ('"' :: (body ++ ['"'])) = [body] ↔ body.getLast? ≠ some '"') := by
  have hone : Tokens ('"' :: (body ++ ['"'])) ['"' :: (body ++ ['"'])] :=
    .token (.last (.segment ⟨rfl, .inl h⟩) (.inl rfl)) .nil
  have hsplit : split ('"' :: (body ++ ['"'])) =
      [if body.getLast? = some '"' then body.dropLast else body] := by
    rw [split, tokens_eq hone, List.map_singleton, strip_segment h]
  refine ⟨hsplit, ?_⟩
  rw [hsplit]
  split
  · next hlast =>
    obtain ⟨front, rfl⟩ := paired_last h hlast
    simp
  · next hlast => simpa using hlast

/-- An escaped quote at the beginning of a segment. -/
theorem split_segment_escaped_first :
    Paired ['\\', '"', ' ', 'x'] ∧
      split ('"' :: (['\\', '"', ' ', 'x'] ++ ['"'])) = [['\\', '"', ' ', 'x']] := by
  have h : Paired ['\\', '"', ' ', 'x'] :=
    .escape '"' (.plain (by decide) (by decide) (.plain (by decide) (by decide) .nil))
  exact ⟨h, (split_segment _ h).2.mpr (by decide)⟩

/-- An escaped quote at the end of a segment is dropped, and its backslash is kept. -/
theorem escaped_quote_lost : ∃ body, body = ['\\', '"'] ∧ Paired body ∧
    split ('"' :: (body ++ ['"'])) = [['\\']] ∧ split ('"' :: (body ++ ['"'])) ≠ [body] :=
  ⟨_, rfl, .escape '"' .nil, by decide, by decide⟩

end CellRunner.Directive.Arguments
