import CellRunner.Text.Blank

/-!
# The lines and the words of a text

What the lines of a text are, and what its words are, said without the way in which they are read.
-/

set_option autoImplicit false

namespace CellRunner.Text

/-- A relation that relates everything, and only as a function does, is the function. -/
theorem graph_iff {α β : Type} (R : α → β → Prop) {f : α → β}
    (sound : ∀ {a b}, R a b → f a = b) (total : ∀ a, ∃ b, R a b) (a : α) (b : β) :
    R a b ↔ f a = b := by
  refine ⟨sound, ?_⟩
  rintro rfl
  obtain ⟨b, h⟩ := total a
  exact sound h ▸ h

/-- The lines of a text: each ends in a newline, alone or after one carriage return, and what
follows the last newline is a line when there is something. -/
inductive Lines : List Char → List (List Char) → Prop where
  | nothing : Lines [] []
  | last {line : List Char} (filled : line ≠ []) (inner : '\n' ∉ line) : Lines line [line]
  | newline {line rest : List Char} {ls : List (List Char)} (inner : '\n' ∉ line)
      (alone : line.getLast? ≠ some '\r') (next : Lines rest ls) :
      Lines (line ++ '\n' :: rest) (line :: ls)
  | both {line rest : List Char} {ls : List (List Char)} (inner : '\n' ∉ line)
      (next : Lines rest ls) : Lines (line ++ '\r' :: '\n' :: rest) (line :: ls)

theorem linesFrom_last (begun line : List Char) (h : '\n' ∉ line) (hfilled : line ≠ []) :
    linesFrom begun line = [begun.reverse ++ line] := by
  induction line generalizing begun with
  | nil => exact absurd rfl hfilled
  | cons c line ih =>
    obtain ⟨hc, hline⟩ : c ≠ '\n' ∧ '\n' ∉ line := by simpa [eq_comm] using h
    rw [linesFrom, if_neg hc]
    cases line with
    | nil => simp [linesFrom]
    | cons d line => simpa using ih (c :: begun) hline (by simp)

theorem linesFrom_newline (begun line rest : List Char) (h : '\n' ∉ line) :
    linesFrom begun (line ++ '\n' :: rest) =
      endedLine (line.reverse ++ begun) :: linesFrom [] rest := by
  induction line generalizing begun with
  | nil => simp [linesFrom]
  | cons c line ih =>
    obtain ⟨hc, hline⟩ : c ≠ '\n' ∧ '\n' ∉ line := by simpa [eq_comm] using h
    rw [List.cons_append, linesFrom, if_neg hc, ih _ hline]
    simp

theorem lines_newline (line rest : List Char) (h : '\n' ∉ line) :
    lines (line ++ '\n' :: rest) = endedLine line.reverse :: lines rest := by
  simpa [lines] using linesFrom_newline [] line rest h

theorem endedLine_alone (line : List Char) (h : line.getLast? ≠ some '\r') :
    endedLine line.reverse = line := by
  rw [List.getLast?_eq_head?_reverse] at h
  unfold endedLine
  split
  · next heq => simp [heq] at h
  · simp

theorem endedLine_return (line : List Char) : endedLine (line ++ ['\r']).reverse = line := by
  simp [endedLine]

theorem lines_eq {cs : List Char} {ls : List (List Char)} (h : Lines cs ls) : lines cs = ls := by
  induction h with
  | nothing => rfl
  | last hfilled hinner => simpa [lines] using linesFrom_last [] _ hinner hfilled
  | newline hinner halone _ ih => rw [lines_newline _ _ hinner, endedLine_alone _ halone, ih]
  | @both line rest ls hinner _ ih =>
    have hcut : line ++ '\r' :: '\n' :: rest = (line ++ ['\r']) ++ '\n' :: rest := by simp
    rw [hcut, lines_newline _ _ (by simpa using hinner), endedLine_return, ih]

theorem exists_lines (cs : List Char) : ∃ ls, Lines cs ls := by
  by_cases h : '\n' ∈ cs
  · obtain ⟨line, rest, rfl, hinner⟩ := List.eq_append_cons_of_mem h
    obtain ⟨ls, hls⟩ := exists_lines rest
    by_cases hr : line.getLast? = some '\r'
    · obtain ⟨line, rfl⟩ := List.getLast?_eq_some_iff.mp hr
      refine ⟨line :: ls, ?_⟩
      simpa using Lines.both (by simpa using hinner) hls
    · exact ⟨line :: ls, .newline hinner hr hls⟩
  · by_cases hfilled : cs = []
    · exact ⟨[], hfilled ▸ .nothing⟩
    · exact ⟨[cs], .last hfilled h⟩
termination_by cs.length

theorem lines_iff (cs : List Char) (ls : List (List Char)) : Lines cs ls ↔ lines cs = ls :=
  graph_iff Lines lines_eq exists_lines cs ls

theorem Lines.inner {cs : List Char} {ls : List (List Char)} (h : Lines cs ls) :
    ∀ line ∈ ls, '\n' ∉ line := by
  induction h with
  | nothing => simp
  | last _ hinner => simpa using hinner
  | newline hinner _ _ ih => exact List.forall_mem_cons.mpr ⟨hinner, ih⟩
  | both hinner _ ih => exact List.forall_mem_cons.mpr ⟨hinner, ih⟩

/-- A text that does not stop inside a line. -/
def Whole (cs : List Char) : Prop := cs = [] ∨ cs.getLast? = some '\n'

theorem Whole.rest (front : List Char) {rest : List Char} (h : Whole (front ++ rest)) : Whole rest := by
  rcases h with hnil | hlast
  · exact .inl (List.append_eq_nil_iff.mp hnil).2
  · cases hrest : rest.getLast? with
    | none => exact .inl (List.getLast?_eq_none_iff.mp hrest)
    | some c =>
      rw [List.getLast?_append, hrest, Option.some_or] at hlast
      exact .inr (hrest.trans hlast)

theorem Whole.append {a b : List Char} (ha : Whole a) (hb : Whole b) : Whole (a ++ b) := by
  rcases hb with rfl | hlast
  · simpa using ha
  · refine .inr ?_
    rw [List.getLast?_append, hlast, Option.some_or]

theorem not_whole {line : List Char} (hfilled : line ≠ []) (h : '\n' ∉ line) : ¬ Whole line := by
  rintro (hnil | hlast)
  · exact hfilled hnil
  · exact h (List.mem_of_getLast? hlast)

/-- The lines of a text that goes on after a newline. -/
theorem Lines.append {a b : List Char} {la lb : List (List Char)} (ha : Lines a la)
    (hwhole : Whole a) (hb : Lines b lb) : Lines (a ++ b) (la ++ lb) := by
  induction ha with
  | nothing => exact hb
  | last hfilled hinner => exact absurd hwhole (not_whole hfilled hinner)
  | @newline line rest _ hinner halone _ ih =>
    have hrest : Whole rest := Whole.rest (line ++ ['\n']) (by simpa using hwhole)
    simpa using Lines.newline hinner halone (ih hrest)
  | @both line rest _ hinner _ ih =>
    have hrest : Whole rest := Whole.rest (line ++ ['\r', '\n']) (by simpa using hwhole)
    simpa using Lines.both hinner (ih hrest)

/-- A text that is one line, which may have a newline. A carriage return at the end of `value` is
no part of the line where the newline follows it. -/
theorem exists_line {front value ending : List Char} (hfilled : front ≠ [])
    (hend : front.getLast? ≠ some '\r') (hinner : '\n' ∉ front ++ value)
    (hending : ending = [] ∨ ending = ['\n']) :
    ∃ kept, (kept = value ∨ value = kept ++ ['\r']) ∧
      Lines (front ++ value ++ ending) [front ++ kept] := by
  rcases hending with rfl | rfl
  · refine ⟨value, .inl rfl, ?_⟩
    simpa using Lines.last (by simp [hfilled]) hinner
  · by_cases hreturn : value.getLast? = some '\r'
    · obtain ⟨kept, rfl⟩ := List.getLast?_eq_some_iff.mp hreturn
      have hkept : '\n' ∉ front ++ kept := by simp_all
      refine ⟨kept, .inr rfl, ?_⟩
      simpa using Lines.both hkept .nothing
    · refine ⟨value, .inl rfl, .newline hinner ?_ .nothing⟩
      rw [List.getLast?_append]
      cases hlast : value.getLast? with
      | none => simpa using hend
      | some c => simpa [hlast] using hreturn

theorem lines_ended {ls : List (List Char)}
    (h : ∀ line ∈ ls, '\n' ∉ line ∧ line.getLast? ≠ some '\r') :
    Lines (ls.flatMap (· ++ ['\n'])) ls := by
  induction ls with
  | nil => exact .nothing
  | cons line ls ih =>
    obtain ⟨⟨hinner, halone⟩, hrest⟩ := List.forall_mem_cons.mp h
    simpa using Lines.newline hinner halone (ih hrest)

theorem count_ended {ls : List (List Char)} (h : ∀ line ∈ ls, '\n' ∉ line) :
    (ls.flatMap (· ++ ['\n'])).count '\n' = ls.length := by
  induction ls with
  | nil => rfl
  | cons line ls ih =>
    obtain ⟨hinner, hrest⟩ := List.forall_mem_cons.mp h
    rw [List.flatMap_cons, List.count_append, ih hrest, List.count_append,
      List.count_eq_zero.mpr hinner, List.length_cons, List.count_singleton_self]
    omega

/-- The words of a text: its longest runs of characters that are not blank. -/
inductive Words : List Char → List (List Char) → Prop where
  | blank {gap : List Char} (gaps : ∀ c ∈ gap, isBlank c) : Words gap []
  | word {gap word rest : List Char} {ws : List (List Char)} (gaps : ∀ c ∈ gap, isBlank c)
      (filled : word ≠ []) (inner : ∀ c ∈ word, ¬ isBlank c)
      (ends : ∀ c, rest.head? = some c → isBlank c) (next : Words rest ws) :
      Words (gap ++ word ++ rest) (word :: ws)

theorem wordsFrom_gap (gap rest : List Char) (h : ∀ c ∈ gap, isBlank c) :
    wordsFrom [] (gap ++ rest) = wordsFrom [] rest := by
  induction gap with
  | nil => rfl
  | cons c gap ih =>
    rw [List.cons_append, wordsFrom, if_pos (h c (by simp))]
    exact ih fun d hd => h d (by simp [hd])

theorem wordsFrom_inner (begun word rest : List Char) (h : ∀ c ∈ word, ¬ isBlank c) :
    wordsFrom begun (word ++ rest) = wordsFrom (word.reverse ++ begun) rest := by
  induction word generalizing begun with
  | nil => rfl
  | cons c word ih =>
    rw [List.cons_append, wordsFrom, if_neg (h c (by simp)), ih _ fun d hd => h d (by simp [hd])]
    simp

theorem wordsFrom_end (begun rest : List Char) (hfilled : begun ≠ [])
    (h : ∀ c, rest.head? = some c → isBlank c) :
    wordsFrom begun rest = begun.reverse :: wordsFrom [] rest := by
  cases rest with
  | nil => simp [wordsFrom, hfilled]
  | cons c rest => simp [wordsFrom, hfilled, h c rfl]

theorem words_eq {cs : List Char} {ws : List (List Char)} (h : Words cs ws) : words cs = ws := by
  induction h with
  | blank hgap => simpa [words, wordsFrom] using wordsFrom_gap _ [] hgap
  | word hgap hfilled hinner hends _ ih =>
    rw [words, List.append_assoc, wordsFrom_gap _ _ hgap, wordsFrom_inner _ _ _ hinner,
      wordsFrom_end _ _ (by simpa using hfilled) hends]
    simpa [words] using ih

theorem exists_words (cs : List Char) : ∃ ws, Words cs ws := by
  cases hfirst : cs.find? (!isBlank ·) with
  | none => exact ⟨[], .blank (by simpa using hfirst)⟩
  | some c =>
    obtain ⟨hc, gap, more, hcs, hgap⟩ := List.find?_eq_some_iff_append.mp hfirst
    replace hc : ¬ isBlank c := by simpa using hc
    replace hgap : ∀ d ∈ gap, isBlank d := by simpa using hgap
    cases hend : more.find? isBlank with
    | none =>
      have hmore : ∀ d ∈ more, ¬ isBlank d := List.find?_eq_none.mp hend
      have hnothing : Words [] [] := .blank (by simp)
      refine ⟨[c :: more], ?_⟩
      simpa [hcs] using Words.word hgap (List.cons_ne_nil c more)
        (List.forall_mem_cons.mpr ⟨hc, hmore⟩) (by simp) hnothing
    | some b =>
      obtain ⟨hb, word, rest, hmore, hword⟩ := List.find?_eq_some_iff_append.mp hend
      replace hword : ∀ d ∈ word, ¬ isBlank d := by simpa using hword
      have hshorter : (b :: rest).length < cs.length := by simp [hcs, hmore]; omega
      obtain ⟨ws, hws⟩ := exists_words (b :: rest)
      refine ⟨(c :: word) :: ws, ?_⟩
      simpa [hcs, hmore] using Words.word hgap (List.cons_ne_nil c word)
        (List.forall_mem_cons.mpr ⟨hc, hword⟩) (by simpa using hb) hws
termination_by cs.length

theorem words_iff (cs : List Char) (ws : List (List Char)) : Words cs ws ↔ words cs = ws :=
  graph_iff Words words_eq exists_words cs ws

end CellRunner.Text
