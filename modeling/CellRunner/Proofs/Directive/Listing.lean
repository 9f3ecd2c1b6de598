import CellRunner.Proofs.Directive.Concatenation
import CellRunner.Proofs.Directive.Tokens

/-!
# Written argument lists

Arguments that are written bare or between quotes, with blanks and commas between them, are read
back as they are, from a value and from a directive line.
-/

set_option autoImplicit false

namespace CellRunner

namespace Directive

namespace Arguments
open Text

/-- An argument and a text that stands for it: the argument itself when no character of it has a
meaning outside quotes, or the argument between quotes when it has no quote and its last
backslashes are in pairs. -/
inductive Written : List Char → List Char → Prop where
  | bare {arg : List Char} (filled : arg ≠ [])
      (plain : ∀ c ∈ arg, ¬ isBlank c ∧ c ≠ ',' ∧ c ≠ '"') : Written arg arg
  | quoted (front : List Char) (pairs : Nat) {arg : List Char} (unquoted : '"' ∉ arg)
      (cut : arg = front ++ List.replicate (2 * pairs) '\\') (last : front.getLast? ≠ some '\\') :
      Written arg ('"' :: (arg ++ ['"']))

def Separators (cs : List Char) : Prop := ∀ c ∈ cs, isBlank c ∨ c = ','

instance : DecidablePred Separators :=
  List.decidableBAll (fun c => isBlank c ∨ c = ',')

/-- Written arguments, with separators between them. -/
inductive Row : List (List Char) → List Char → Prop where
  | nil : Row [] []
  | last {arg text : List Char} (written : Written arg text) : Row [arg] text
  | more (gap : List Char) {arg text rest : List Char} {args : List (List Char)}
      (written : Written arg text) (apart : gap ≠ []) (separators : Separators gap)
      (next : Row args rest) : Row (arg :: args) (text ++ gap ++ rest)

/-- A row of written arguments, with any separators before and after it. -/
def Listing (args : List (List Char)) (text : List Char) : Prop :=
  ∃ before row after, text = before ++ row ++ after ∧ Row args row ∧ Separators before ∧
    Separators after

theorem paired_backslashes (pairs : Nat) : Paired (List.replicate (2 * pairs) '\\') := by
  induction pairs with
  | zero => exact .nil
  | succ n ih => exact .escape '\\' ih

/-- Backslashes at the end are in pairs when an even number of them follows another character. -/
theorem paired_of_unquoted (front : List Char) (pairs : Nat) (h : '"' ∉ front)
    (hlast : front.getLast? ≠ some '\\') : Paired (front ++ List.replicate (2 * pairs) '\\') := by
  cases front with
  | nil => exact paired_backslashes pairs
  | cons c front =>
    obtain ⟨hquote, htail⟩ : c ≠ '"' ∧ '"' ∉ front := by simpa [eq_comm] using h
    by_cases hbackslash : c = '\\'
    · subst hbackslash
      cases front with
      | nil => exact absurd rfl hlast
      | cons d front =>
        refine .escape d (paired_of_unquoted front pairs (fun hin => htail (by simp [hin])) ?_)
        cases front with
        | nil => simp
        | cons e front => simpa using hlast
    · refine .plain hbackslash hquote (paired_of_unquoted front pairs htail ?_)
      cases front with
      | nil => simp
      | cons d front => simpa using hlast

theorem gap_of_separator {c : Char} (h : isBlank c ∨ c = ',') (rest : List Char) :
    Gap (c :: rest) rest := by
  rcases h with hblank | rfl
  · exact .blank hblank
  · exact .comma

theorem tokens_separators {gap rest : List Char} {ts : List (List Char)} (h : Separators gap)
    (hrest : Tokens rest ts) : Tokens (gap ++ rest) ts := by
  induction gap with
  | nil => exact hrest
  | cons c gap ih =>
    exact .gap (gap_of_separator (h c (by simp)) _) (ih fun d hd => h d (by simp [hd]))

theorem ends_separators {gap rest : List Char} (h : Separators gap)
    (hrest : gap = [] → rest = []) : Ends (gap ++ rest) := by
  cases gap with
  | nil => exact .inl (by simpa using hrest)
  | cons c gap => exact .inr ⟨_, gap_of_separator (h c (by simp)) _⟩

theorem bare_run {arg rest : List Char} (hfilled : arg ≠ [])
    (hplain : ∀ c ∈ arg, ¬ isBlank c ∧ c ≠ ',' ∧ c ≠ '"') (hends : Ends rest) :
    Run (arg ++ rest) arg rest := by
  induction arg with
  | nil => exact absurd rfl hfilled
  | cons c arg ih =>
    obtain ⟨hblank, hcomma, hquote⟩ := hplain c (by simp)
    cases arg with
    | nil => exact .last (.bare hblank hcomma hquote) hends
    | cons d arg =>
      have hnext := ih (by simp) fun e he => hplain e (by simp [he])
      exact .more (.bare hblank hcomma hquote) hnext

theorem strip_of_unquoted {cs : List Char} (h : '"' ∉ cs) : strip (· == '"') cs = cs := by
  have hnone : ∀ c ∈ cs, ¬ (c == '"') = true := by
    rintro c hc heq
    exact h (beq_iff_eq.mp heq ▸ hc)
  have hfront : cs.dropWhile (· == '"') = cs := by
    cases cs with
    | nil => rfl
    | cons c cs => exact List.dropWhile_cons_of_neg (hnone c (by simp))
  rw [strip_eq, hfront, List.rdropWhile_eq_self_iff]
  exact fun hfilled => hnone _ (List.getLast_mem hfilled)

/-- A written argument is one token, and without its quotes it is the argument. -/
theorem written_run {arg text rest : List Char} (h : Written arg text) (hends : Ends rest) :
    Run (text ++ rest) text rest ∧ strip (· == '"') text = arg := by
  cases h with
  | bare hfilled hplain =>
    exact ⟨bare_run hfilled hplain hends, strip_of_unquoted fun hin => (hplain _ hin).2.2 rfl⟩
  | quoted front pairs hunquoted hcut hlast =>
    subst hcut
    have hpaired := paired_of_unquoted front pairs (fun hin => hunquoted (by simp [hin])) hlast
    refine ⟨.last ?_ hends, ?_⟩
    · simpa using Piece.segment ⟨rfl, .inl hpaired⟩
    · rw [strip_segment hpaired, if_neg]
      intro hquote
      exact hunquoted (List.mem_of_getLast? hquote)

theorem tokens_row {args : List (List Char)} {row after : List Char} (h : Row args row)
    (hafter : Separators after) :
    ∃ ts, Tokens (row ++ after) ts ∧ ts.map (strip (· == '"')) = args := by
  have hrest : Tokens after [] := by simpa using tokens_separators hafter .nil
  induction h with
  | nil => exact ⟨[], hrest, rfl⟩
  | last hwritten =>
    have hends : Ends (after ++ []) := ends_separators hafter fun _ => rfl
    rw [List.append_nil] at hends
    obtain ⟨hrun, harg⟩ := written_run hwritten hends
    exact ⟨_, .token hrun hrest, by simp [harg]⟩
  | @more gap _ text rest _ hwritten hapart hgap _ ih =>
    obtain ⟨ts, hts, hargs⟩ := ih
    have hends : Ends (gap ++ (rest ++ after)) :=
      ends_separators hgap fun hnil => absurd hnil hapart
    obtain ⟨hrun, harg⟩ := written_run hwritten hends
    refine ⟨text :: ts, ?_, by simp [harg, hargs]⟩
    simpa using Tokens.token hrun (tokens_separators hgap hts)

theorem listing_split {args : List (List Char)} {text : List Char} (h : Listing args text) :
    split text = args := by
  obtain ⟨before, row, after, rfl, hrow, hbefore, hafter⟩ := h
  obtain ⟨ts, hts, hargs⟩ := tokens_row hrow hafter
  have hall := tokens_separators hbefore hts
  rw [← List.append_assoc] at hall
  rw [split, tokens_eq hall, hargs]

/-! ## A separator at the end -/

section separator

variable {c : Char} {cs rest : List Char} (h : isBlank c ∨ c = ',')
include h

theorem separator_not_quote : c ≠ '"' := by
  rintro rfl
  exact absurd h (by decide)

theorem segment_separator {body : List Char} (hs : Segment cs body rest) :
    Segment (cs ++ [c]) body (rest ++ [c]) := by
  have hquote := separator_not_quote h
  refine ⟨by simp [hs.cut], hs.closes.imp_right fun ⟨hescaped, hlast⟩ => ⟨?_, ?_⟩⟩
  · intro front more hfront hcut
    rcases List.eq_nil_or_concat more with rfl | ⟨more, d, rfl⟩
    · exact hquote (by simpa using (List.append_inj' hcut rfl).2)
    · have hcut' : cs ++ [c] = (front ++ '"' :: more) ++ [d] := by simpa using hcut
      exact hescaped front more hfront (List.append_inj' hcut' rfl).1
  · simpa [hlast, eq_comm] using hquote

theorem piece_separator {p : List Char} (hp : Piece cs p rest) :
    Piece (cs ++ [c]) p (rest ++ [c]) := by
  cases hp with
  | bare hblank hcomma hquote => exact .bare hblank hcomma hquote
  | segment hclosed => exact .segment (segment_separator h hclosed)

theorem gap_separator (hg : Gap cs rest) : Gap (cs ++ [c]) (rest ++ [c]) := by
  cases hg with
  | blank hblank => exact .blank hblank
  | comma => exact .comma
  | quote halone => exact .quote (by simpa [halone, eq_comm] using separator_not_quote h)

theorem run_separator {token : List Char} (hr : Run cs token rest) :
    Run (cs ++ [c]) token (rest ++ [c]) := by
  induction hr with
  | last hpiece hends =>
    refine .last (piece_separator h hpiece) ?_
    rcases hends with rfl | ⟨next, hgap⟩
    · exact .inr ⟨[], gap_of_separator h []⟩
    · exact .inr ⟨_, gap_separator h hgap⟩
  | more hpiece _ ih => exact .more (piece_separator h hpiece) ih

theorem tokens_separator {ts : List (List Char)} (ht : Tokens cs ts) : Tokens (cs ++ [c]) ts := by
  induction ht with
  | nil => exact .gap (gap_of_separator h []) .nil
  | gap hgap _ ih => exact .gap (gap_separator h hgap) ih
  | token hrun _ ih => exact .token (run_separator h hrun) ih

theorem split_separator (cs : List Char) : split (cs ++ [c]) = split cs := by
  obtain ⟨ts, hts⟩ := exists_tokens cs
  rw [split, split, tokens_eq hts, tokens_eq (tokens_separator h hts)]

end separator

end Arguments

end Directive

namespace Directives
open Directive

/-- A line of arguments gives those of its value. A carriage return before the newline would
separate arguments if it were a part of the value. -/
theorem parse_args (value : List Char) (hcolon : ':' ∉ value) (hnewline : '\n' ∉ value) :
    (parse ("//%args:" ++ String.ofList value ++ "\n")).programArgs =
      texts (Arguments.split value) := by
  have hspells : Spells .args ['a', 'r', 'g', 's'] := ⟨by decide, by decide, by decide⟩
  obtain ⟨kept, hkept, hparse⟩ := parse_directive hspells hcolon hnewline (.inr rfl)
  have hsource : "//%args:" ++ String.ofList value ++ "\n" =
      String.ofList (directiveLine ['a', 'r', 'g', 's'] value ++ ['\n']) := by
    rw [← String.toList_inj]
    simp [directiveLine]
  have hsame : Arguments.split kept = Arguments.split value := by
    rcases hkept with rfl | rfl
    · rfl
    · exact (Arguments.split_separator (.inl (by decide)) kept).symm
  rw [hsource, hparse]
  exact congrArg texts hsame

end Directives

namespace Directive.Arguments

/-- A written list of arguments is read back, from a value and from a directive line. -/
theorem split_listing (args : List (List Char)) (text : List Char) (h : Listing args text) :
    split text = args ∧ (':' ∉ text → '\n' ∉ text →
      (Directives.parse ("//%args:" ++ String.ofList text ++ "\n")).programArgs =
        args.map String.ofList) := by
  refine ⟨listing_split h, fun hcolon hnewline => ?_⟩
  rw [Directives.parse_args text hcolon hnewline, listing_split h]
  rfl

/-- An argument with a blank and two backslashes at its end, an empty one and a bare one, on a line
that ends in a carriage return and a newline. -/
theorem split_listing_three : ∃ args text, args = [['a', ' ', '\\', '\\'], [], ['c']] ∧
    text = " \"a \\\\\",\"\"\tc\r".toList ∧ Listing args text ∧ ':' ∉ text ∧ '\n' ∉ text ∧
    split text = args ∧
    (Directives.parse ("//%args:" ++ String.ofList text ++ "\n")).programArgs =
      args.map String.ofList := by
  have hblank : Written ['a', ' ', '\\', '\\'] "\"a \\\\\"".toList :=
    .quoted ['a', ' '] 1 (by decide) rfl (by decide)
  have hempty : Written [] "\"\"".toList := .quoted [] 0 (by decide) rfl (by decide)
  have hbare : Written ['c'] "c".toList := .bare (by decide) (by simp [Text.isBlank])
  have hrow : Row [['a', ' ', '\\', '\\'], [], ['c']] "\"a \\\\\",\"\"\tc".toList :=
    .more [','] hblank (by decide) (by decide)
      (.more ['\t'] hempty (by decide) (by decide) (.last hbare))
  have h : Listing [['a', ' ', '\\', '\\'], [], ['c']] " \"a \\\\\",\"\"\tc\r".toList :=
    ⟨[' '], _, ['\r'], rfl, hrow, by decide, by decide⟩
  have hcolon : ':' ∉ " \"a \\\\\",\"\"\tc\r".toList := by decide
  have hnewline : '\n' ∉ " \"a \\\\\",\"\"\tc\r".toList := by decide
  exact ⟨_, _, rfl, rfl, h, hcolon, hnewline, (split_listing _ _ h).1,
    (split_listing _ _ h).2 hcolon hnewline⟩

end Directive.Arguments

end CellRunner
