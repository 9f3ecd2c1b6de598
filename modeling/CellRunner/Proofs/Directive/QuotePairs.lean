import Mathlib.Algebra.Ring.Nat
import CellRunner.Proofs.Directive.Concatenation
import CellRunner.Proofs.Text.Expression

/-!
# Quoted texts as lines

The texts between the first quote of a value and the second, the third and the fourth, and so on
are the matches of an expression in it. Each of them is a line of the field that its key adds to.
-/

set_option autoImplicit false

namespace CellRunner

namespace Directive.QuotedLines
open Text Text.Expression

/-! ## Matches -/

/-- `\s*"([^"]*)"` -/
def quoted : Expression :=
  .sequence (.star (.oneOf isBlank)) (.sequence (.oneOf (· == '"'))
    (.sequence (.star (.oneOf (· != '"'))) (.oneOf (· == '"'))))

/-- A match and the text between its quotes. -/
def Encloses (found text : List Char) : Prop :=
  ∃ gap, (∀ c ∈ gap, isBlank c) ∧ '"' ∉ text ∧ found = gap ++ '"' :: (text ++ ['"'])

theorem matches_quoted_iff (cs : List Char) : Matches quoted cs ↔ ∃ text, Encloses cs text := by
  constructor
  · intro h
    obtain ⟨gap, more, rfl, hgap, hmore⟩ := matches_sequence_iff.mp h
    obtain ⟨first, inner, rfl, hfirst, hinner⟩ := matches_sequence_iff.mp hmore
    obtain ⟨text, last, rfl, htext, hlast⟩ := matches_sequence_iff.mp hinner
    obtain ⟨c, hc, rfl⟩ := matches_oneOf_iff.mp hfirst
    obtain ⟨d, hd, rfl⟩ := matches_oneOf_iff.mp hlast
    obtain rfl := beq_iff_eq.mp hc
    obtain rfl := beq_iff_eq.mp hd
    refine ⟨text, gap, matches_star_oneOf_iff.mp hgap, fun hin => ?_, rfl⟩
    exact absurd (matches_star_oneOf_iff.mp htext _ hin) (by decide)
  · rintro ⟨text, gap, hgap, htext, rfl⟩
    have hinner := matches_star_oneOf_iff.mpr (bne_of_not_mem htext)
    exact .sequence (matches_star_oneOf_iff.mpr hgap)
      (.sequence (s := ['"']) (.oneOf rfl) (.sequence hinner (.oneOf rfl)))

theorem gap_unquoted {gap : List Char} (h : ∀ c ∈ gap, isBlank c) : '"' ∉ gap := fun hin =>
  absurd (h _ hin) (by decide)

theorem consumes_quoted : quoted.Consumes := by
  intro h
  obtain ⟨text, gap, -, -, hcut⟩ := (matches_quoted_iff []).mp h
  simp at hcut

/-- A character at which no match begins adds nothing to the texts after it. -/
theorem texts_passed {c : Char} {cs : List Char} (h : quoted.rests (c :: cs) = []) :
    texts (c :: cs) = texts cs := by
  by_cases hc : c = '"'
  · subst hc
    have hcs : '"' ∉ cs := by
      intro hin
      obtain ⟨text, rest, rfl, htext⟩ := List.eq_append_cons_of_mem hin
      have hmatch : Encloses ('"' :: (text ++ ['"'])) text := ⟨[], by simp, htext, rfl⟩
      have hnone : quoted.rests ('"' :: (text ++ ['"']) ++ rest) = [] := by simpa using h
      exact not_matches_of_rests hnone ((matches_quoted_iff _).mpr ⟨text, hmatch⟩)
    have hopening : texts ('"' :: cs) = textsFrom (some []) cs := textsFrom_opening [] cs (by simp)
    rw [hopening, texts, textsFrom_unquoted _ _ hcs, textsFrom_unquoted _ _ hcs]
  · simp [texts, textsFrom, hc]

theorem texts_found {cs : List Char} {found : List (List Char)} (h : quoted.Finds cs found) :
    List.Forall₂ Encloses found (texts cs) := by
  induction h with
  | nothing => exact .nil
  | passed hnone _ ih => rwa [texts_passed hnone]
  | @found cs first rest found hcut _ hmatched _ ih =>
    obtain ⟨text, hencloses⟩ := (matches_quoted_iff _).mp (matches_of_head? hcut hmatched)
    obtain ⟨gap, hgap, htext, hfirst⟩ := hencloses
    have htexts : texts cs = text :: texts rest := by
      rw [← texts_pair rest (gap_unquoted hgap) htext, hcut, hfirst]
      simp
    rw [htexts]
    exact .cons ⟨gap, hgap, htext, hfirst⟩ ih

/-! ## Places -/

/-- The texts between the quotes of a value that come first and second, third and fourth, and so
on: the text at `j` has `2 * j` quotes before its own. -/
structure Pairs (value : List Char) (ts : List (List Char)) : Prop where
  length : ts.length = value.count '"' / 2
  between : ∀ j text, ts[j]? = some text ↔ ∃ before rest,
    value = before ++ '"' :: (text ++ '"' :: rest) ∧ before.count '"' = 2 * j ∧ '"' ∉ text

/-- A quote is known by the number of quotes before it. -/
theorem quote_unique {u v u' v' : List Char} (h : u ++ '"' :: v = u' ++ '"' :: v')
    (hcount : u.count '"' = u'.count '"') : u = u' ∧ v = v' := by
  induction u generalizing u' with
  | nil =>
    cases u' with
    | nil => exact ⟨rfl, (List.cons.inj h).2⟩
    | cons c u' =>
      obtain rfl := (List.cons.inj h).1
      simp at hcount
  | cons c u ih =>
    cases u' with
    | nil =>
      obtain rfl := (List.cons.inj h).1
      simp at hcount
    | cons d u' =>
      obtain ⟨rfl, htail⟩ := List.cons.inj h
      obtain ⟨rfl, rfl⟩ := ih htail (by simpa [List.count_cons] using hcount)
      exact ⟨rfl, rfl⟩

theorem length_texts {cs : List Char} {ts : List (List Char)} (h : Texts cs ts) :
    ts.length = cs.count '"' / 2 := by
  induction h with
  | unpaired hfew => simp; omega
  | pair hbefore htext _ ih =>
    simp [ih, List.count_eq_zero.mpr hbefore, List.count_eq_zero.mpr htext]
    omega

theorem texts_place {cs text : List Char} {ts : List (List Char)} {j : Nat} (h : Texts cs ts)
    (hj : ts[j]? = some text) : ∃ before rest,
      cs = before ++ '"' :: (text ++ '"' :: rest) ∧ before.count '"' = 2 * j ∧ '"' ∉ text := by
  induction h generalizing j with
  | unpaired => simp at hj
  | @pair before inner rest _ hbefore hinner _ ih =>
    cases j with
    | zero =>
      obtain rfl : inner = text := by simpa using hj
      exact ⟨before, rest, rfl, List.count_eq_zero.mpr hbefore, hinner⟩
    | succ j =>
      obtain ⟨front, after, rfl, hcount, htext⟩ := ih (by simpa using hj)
      refine ⟨before ++ '"' :: (inner ++ '"' :: front), after, by simp, ?_, htext⟩
      simp [hcount, List.count_eq_zero.mpr hbefore, List.count_eq_zero.mpr hinner]
      omega

theorem pairs_texts (value : List Char) : Pairs value (texts value) := by
  have h : Texts value (texts value) := (texts_iff _ _).mpr rfl
  refine ⟨length_texts h, fun j text => ⟨texts_place h, ?_⟩⟩
  rintro ⟨before, rest, rfl, hcount, htext⟩
  have hmany : j < (texts (before ++ '"' :: (text ++ '"' :: rest))).length := by
    rw [length_texts h]
    simp [hcount, List.count_eq_zero.mpr htext]
    omega
  obtain ⟨before', rest', hcut, hcount', htext'⟩ :=
    texts_place h (List.getElem?_eq_getElem hmany)
  obtain ⟨-, hrest⟩ := quote_unique hcut (hcount.trans hcount'.symm)
  obtain ⟨hsame, -⟩ := quote_unique hrest
    ((List.count_eq_zero.mpr htext).trans (List.count_eq_zero.mpr htext').symm)
  rw [List.getElem?_eq_getElem hmany, ← hsame]

theorem mem_of_texts {value text : List Char} (h : text ∈ texts value) : text ⊆ value := by
  obtain ⟨j, hj⟩ := List.mem_iff_getElem?.mp h
  obtain ⟨before, rest, hcut, -⟩ := ((pairs_texts value).between j text).mp hj
  intro c hc
  simp [hcut, hc]

theorem count_joined {value : List Char} (h : '\n' ∉ value) :
    (joined value).count '\n' = value.count '"' / 2 := by
  have hinner : ∀ text ∈ texts value, '\n' ∉ text := fun text htext hin => h (mem_of_texts htext hin)
  rw [joined, count_ended hinner, (pairs_texts value).length]

/-! ## Written texts -/

/-- Texts between quotes, with blanks before, between and after them. -/
inductive Written : List (List Char) → List Char → Prop where
  | nil {gap : List Char} (blank : ∀ c ∈ gap, isBlank c ∧ c ≠ '\n') : Written [] gap
  | cons (gap : List Char) {text row : List Char} {ts : List (List Char)}
      (blank : ∀ c ∈ gap, isBlank c ∧ c ≠ '\n')
      (plain : ∀ c ∈ text, c ≠ '"' ∧ c ≠ ':' ∧ c ≠ '\n' ∧ c ≠ '\r') (next : Written ts row) :
      Written (text :: ts) (gap ++ '"' :: (text ++ '"' :: row))

section written

variable {ts : List (List Char)} {row : List Char} (h : Written ts row)
include h

theorem written_texts : texts row = ts := by
  induction h with
  | nil hgap => exact textsFrom_unquoted _ _ (gap_unquoted fun c hc => (hgap c hc).1)
  | cons gap hgap hplain _ ih =>
    have htext := fun hin => (hplain _ hin).1 rfl
    rw [texts_pair _ (gap_unquoted fun c hc => (hgap c hc).1) htext, ih]

theorem written_characters : ':' ∉ row ∧ '\n' ∉ row := by
  have hcolon : ∀ {gap : List Char}, (∀ c ∈ gap, isBlank c ∧ c ≠ '\n') → ':' ∉ gap :=
    fun hgap hin => absurd (hgap _ hin).1 (by decide)
  have hnewline : ∀ {gap : List Char}, (∀ c ∈ gap, isBlank c ∧ c ≠ '\n') → '\n' ∉ gap :=
    fun hgap hin => (hgap _ hin).2 rfl
  induction h with
  | nil hgap => exact ⟨hcolon hgap, hnewline hgap⟩
  | @cons gap text row ts hgap hplain _ ih =>
    have htext : ':' ∉ text ∧ '\n' ∉ text :=
      ⟨fun hin => (hplain _ hin).2.1 rfl, fun hin => (hplain _ hin).2.2.1 rfl⟩
    simp [hcolon hgap, hnewline hgap, htext, ih]

theorem written_lines : Lines (ts.flatMap (· ++ ['\n'])) ts := by
  refine lines_ended ?_
  induction h with
  | nil => simp
  | cons gap _ hplain _ ih =>
    refine List.forall_mem_cons.mpr ⟨⟨fun hin => (hplain _ hin).2.2.1 rfl, fun hlast => ?_⟩, ih⟩
    exact (hplain _ (List.mem_of_getLast? hlast)).2.2.2 rfl

end written

/-- A character after a value that is no quote adds no text. -/
theorem texts_concat {c : Char} (hc : c ≠ '"') (value : List Char) :
    texts (value ++ [c]) = texts value := by
  have hmore : ∀ {ts}, Texts value ts → Texts (value ++ [c]) ts := by
    intro ts h
    induction h with
    | unpaired hfew =>
      refine .unpaired ?_
      rwa [List.count_append, List.count_singleton, if_neg (by simpa using hc)]
    | pair hbefore htext _ ih => simpa using Texts.pair hbefore htext ih
  exact texts_eq (hmore ((texts_iff _ _).mpr rfl))

end Directive.QuotedLines

namespace Directives
open Directive Directive.QuotedLines

/-- A key whose quoted texts become the lines of a field. -/
structure Quotes (key : Key) (field : Directives → String) : Prop where
  /-- what a value adds -/
  adds : ∀ d value, ∃ found ts, quoted.Finds value found ∧ List.Forall₂ Encloses found ts ∧
    Pairs value ts ∧ (field (d.append (ofLine (.directive key value)))).toList =
      (field d).toList ++ ts.flatMap (· ++ ['\n'])
  /-- the number of lines that a text gives -/
  counts : ∀ source : String, ∃ lines values, Text.Lines source.toList lines ∧
    Values key lines values ∧ (field (parse source)).toList.count '\n' =
      (values.map fun value => value.count '"' / 2).sum
  /-- texts that a directive line quotes are read back -/
  returns : ∀ ts row spelled ending, Written ts row → Spells key spelled →
    ending = [] ∨ ending = ['\n'] →
    (field (parse (String.ofList (directiveLine spelled row ++ ending)))).toList =
      ts.flatMap (· ++ ['\n']) ∧ Text.Lines (ts.flatMap (· ++ ['\n'])) ts

theorem newline_not_mem_value {source : String} {key : Key} {value : List Char}
    (h : value ∈ valuesOf source key) : '\n' ∉ value := by
  obtain ⟨l, hl, hvalue⟩ := List.mem_filterMap.mp h
  obtain ⟨line, hline, rfl⟩ := List.mem_map.mp hl
  obtain ⟨spelled, rfl, -⟩ := (valueFor_iff key line value).mp hvalue
  have hinner := ((Text.lines_iff source.toList _).mpr rfl).inner _ hline
  exact fun hin => hinner (by simp [hin])

section field

variable {key : Key} {field : Directives → String}
  (h : TextFedBy field (fun value => String.ofList (joined value)) key)
include h

theorem TextFedBy.of_directive (value : List Char) :
    (field (ofDirective key value)).toList = joined value := by
  rw [h.adds, if_pos rfl, String.toList_ofList]

theorem TextFedBy.count_newline (source : String) :
    (field (parse source)).toList.count '\n' =
      ((valuesOf source key).map fun value => value.count '"' / 2).sum := by
  rw [h.fedBy.of_parse source, List.count_flatMap]
  refine congrArg List.sum (List.map_congr_left fun value hvalue => ?_)
  rw [Function.comp_apply, String.toList_ofList, count_joined (newline_not_mem_value hvalue)]

theorem TextFedBy.quotes : Quotes key field where
  adds d value := by
    obtain ⟨found, hfound⟩ := Text.Expression.exists_finds consumes_quoted value
    refine ⟨found, QuotedLines.texts value, hfound, texts_found hfound, pairs_texts value, ?_⟩
    rw [h.append, String.toList_append, ofLine, h.of_directive, joined]
  counts source := ⟨Text.lines source.toList, valuesOf source key, (Text.lines_iff _ _).mpr rfl,
    values_read key _, h.count_newline source⟩
  returns := by
    intro ts row spelled ending hrow hspelled hending
    obtain ⟨hcolon, hnewline⟩ := written_characters hrow
    obtain ⟨kept, hkept, hparse⟩ := parse_directive hspelled hcolon hnewline hending
    have htexts : QuotedLines.texts kept = ts := by
      rw [← written_texts hrow]
      rcases hkept with rfl | rfl
      · rfl
      · exact (texts_concat (by decide) kept).symm
    rw [hparse, h.of_directive, joined, htexts]
    exact ⟨rfl, written_lines hrow⟩

end field

/-- The texts that pairs of quotes enclose are the lines of the input, and those of the expected
output. -/
theorem quotes_give_lines : Quotes .stdin (·.stdin) ∧ Quotes .stdout (·.expectedStdout) :=
  ⟨TextFedBy.quotes ⟨fun _ _ => rfl, rfl, fun k v => by cases k <;> rfl⟩,
    TextFedBy.quotes ⟨fun _ _ => rfl, rfl, fun k v => by cases k <;> rfl⟩⟩

/-- A backslash before a closing quote, an empty text and a text with blanks, on a line with its key
in capitals and a carriage return at its end. -/
theorem quotes_give_lines_backslash : ∃ ts row spelled, ts = [['a', '\\'], [], ['b', ' ', 'c']] ∧
    row = " \"a\\\"\"\"\t\"b c\"\r".toList ∧ spelled = " STDIN".toList ∧ Written ts row ∧
    Spells .stdin spelled ∧
    (parse (String.ofList (directiveLine spelled row ++ ['\n']))).stdin.toList =
      ts.flatMap (· ++ ['\n']) ∧ Text.Lines (ts.flatMap (· ++ ['\n'])) ts := by
  have hrow : Written [['a', '\\'], [], ['b', ' ', 'c']] " \"a\\\"\"\"\t\"b c\"\r".toList := by
    have hlast : Written [] ['\r'] := .nil (by simp [Text.isBlank])
    have hthird : Written [['b', ' ', 'c']] "\t\"b c\"\r".toList :=
      .cons ['\t'] (by simp [Text.isBlank]) (by simp) hlast
    have hsecond : Written [[], ['b', ' ', 'c']] "\"\"\t\"b c\"\r".toList :=
      .cons [] (by simp [Text.isBlank]) (by simp) hthird
    exact .cons [' '] (by simp [Text.isBlank]) (by simp) hsecond
  have hspelled : Spells .stdin " STDIN".toList := ⟨by decide, by decide, by decide⟩
  exact ⟨_, _, _, rfl, rfl, rfl, hrow, hspelled,
    quotes_give_lines.1.returns _ _ _ _ hrow hspelled (.inr rfl)⟩

end Directives

end CellRunner
