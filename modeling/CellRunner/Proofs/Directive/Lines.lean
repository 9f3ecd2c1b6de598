import Mathlib.Data.List.Forall2
import Mathlib.Data.List.TakeWhile
import CellRunner.Directive.Basic
import CellRunner.Directive.Line
import CellRunner.Proofs.Text.Case
import CellRunner.Proofs.Text.Lines

/-!
# What the lines of a source text add

A directive line has one form, and all other lines are passed over. Each field of the directives
of a text holds what the lines with its key add, in the order of the lines, and nothing else.
-/

set_option autoImplicit false

/-! ## The quoted texts of a value

The quotes of a value are paired off from the left, and each pair has one text between them.
-/

namespace CellRunner.Directive.QuotedLines

/-- The texts between the quotes of a value. A quote that is left over has none. -/
inductive Texts : List Char → List (List Char) → Prop where
  | unpaired {cs : List Char} (few : cs.count '"' ≤ 1) : Texts cs []
  | pair {before text rest : List Char} {ts : List (List Char)} (outside : '"' ∉ before)
      (inside : '"' ∉ text) (next : Texts rest ts) :
      Texts (before ++ '"' :: (text ++ '"' :: rest)) (text :: ts)

theorem textsFrom_unquoted (inside : Option (List Char)) (cs : List Char) (h : '"' ∉ cs) :
    textsFrom inside cs = [] := by
  induction cs generalizing inside with
  | nil => rfl
  | cons c cs ih =>
    obtain ⟨hc, hcs⟩ : c ≠ '"' ∧ '"' ∉ cs := by simpa [eq_comm] using h
    cases inside <;> simp [textsFrom, hc, ih _ hcs]

theorem textsFrom_opening (before rest : List Char) (h : '"' ∉ before) :
    textsFrom none (before ++ '"' :: rest) = textsFrom (some []) rest := by
  induction before with
  | nil => rfl
  | cons c before ih =>
    obtain ⟨hc, hbefore⟩ : c ≠ '"' ∧ '"' ∉ before := by simpa [eq_comm] using h
    simpa [textsFrom, hc] using ih hbefore

theorem textsFrom_closing (begun text rest : List Char) (h : '"' ∉ text) :
    textsFrom (some begun) (text ++ '"' :: rest) =
      (begun.reverse ++ text) :: textsFrom none rest := by
  induction text generalizing begun with
  | nil => simp [textsFrom]
  | cons c text ih =>
    obtain ⟨hc, htext⟩ : c ≠ '"' ∧ '"' ∉ text := by simpa [eq_comm] using h
    simpa [textsFrom, hc] using ih (c :: begun) htext

theorem texts_pair {before text : List Char} (rest : List Char) (hbefore : '"' ∉ before)
    (htext : '"' ∉ text) :
    texts (before ++ '"' :: (text ++ '"' :: rest)) = text :: texts rest := by
  rw [texts, textsFrom_opening _ _ hbefore, textsFrom_closing _ _ _ htext]
  rfl

theorem texts_eq {cs : List Char} {ts : List (List Char)} (h : Texts cs ts) : texts cs = ts := by
  induction h with
  | @unpaired cs hfew =>
    by_cases hquote : '"' ∈ cs
    · obtain ⟨before, rest, rfl, hbefore⟩ := List.eq_append_cons_of_mem hquote
      have hrest : '"' ∉ rest := by
        rw [List.count_append, List.count_cons_self] at hfew
        exact List.count_eq_zero.mp (by omega)
      rw [texts, textsFrom_opening _ _ hbefore, textsFrom_unquoted _ _ hrest]
    · exact textsFrom_unquoted _ _ hquote
  | pair houtside hinside _ ih => rw [texts_pair _ houtside hinside, ih]

theorem exists_texts (cs : List Char) : ∃ ts, Texts cs ts := by
  by_cases hfirst : '"' ∈ cs
  · obtain ⟨before, more, hcs, hbefore⟩ := List.eq_append_cons_of_mem hfirst
    by_cases hsecond : '"' ∈ more
    · obtain ⟨text, rest, rfl, htext⟩ := List.eq_append_cons_of_mem hsecond
      have hshorter : rest.length < cs.length := by simp [hcs]; omega
      obtain ⟨ts, hts⟩ := exists_texts rest
      exact ⟨text :: ts, hcs ▸ .pair hbefore htext hts⟩
    · refine ⟨[], .unpaired ?_⟩
      simp [hcs, List.count_eq_zero.mpr hbefore, List.count_eq_zero.mpr hsecond]
  · exact ⟨[], .unpaired (by simp [List.count_eq_zero.mpr hfirst])⟩
termination_by cs.length

theorem texts_iff (cs : List Char) (ts : List (List Char)) : Texts cs ts ↔ texts cs = ts :=
  Text.graph_iff Texts texts_eq exists_texts cs ts

end CellRunner.Directive.QuotedLines

/-! ## What the lines of a source text add -/

namespace CellRunner

namespace Directive

/-- A line that gives a key a value: the marker, the key in letters of either case with blanks
around it, the only colon, and the value. -/
def Gives (key : Key) (line value : List Char) : Prop :=
  ∃ spelled, line = '/' :: '/' :: '%' :: (spelled ++ ':' :: value) ∧ ':' ∉ spelled ∧ ':' ∉ value ∧
    (Text.trim spelled).map Char.toLower = key.name.toList

/-- The values that lines give a key, in order. -/
inductive Values (key : Key) : List (List Char) → List (List Char) → Prop where
  | nil : Values key [] []
  | given {line value : List Char} {lines vs : List (List Char)} (gives : Gives key line value)
      (next : Values key lines vs) : Values key (line :: lines) (value :: vs)
  | passed {line : List Char} {lines vs : List (List Char)}
      (gives : ∀ value, ¬ Gives key line value) (next : Values key lines vs) :
      Values key (line :: lines) vs

theorem bne_of_not_mem {x : Char} {cs : List Char} (h : x ∉ cs) : ∀ c ∈ cs, (c != x) = true := by
  intro c hc
  rw [bne_iff_ne]
  rintro rfl
  exact h hc

theorem splitAtColon_colon (k v : List Char) (hk : ':' ∉ k) :
    splitAtColon (k ++ ':' :: v) = if ':' ∈ v then none else some (k, v) := by
  unfold splitAtColon
  rw [List.dropWhile_append_of_pos (bne_of_not_mem hk), List.takeWhile_append_of_pos (bne_of_not_mem hk)]
  simp

theorem splitAtColon_iff (cs k v : List Char) :
    splitAtColon cs = some (k, v) ↔ cs = k ++ ':' :: v ∧ ':' ∉ k ∧ ':' ∉ v := by
  constructor
  · intro h
    by_cases hcolon : ':' ∈ cs
    · obtain ⟨k', v', rfl, hk⟩ := List.eq_append_cons_of_mem hcolon
      rw [splitAtColon_colon _ _ hk] at h
      split at h
      · cases h
      · cases h
        exact ⟨rfl, hk, ‹_›⟩
    · have hnone : cs.dropWhile (· != ':') = [] :=
        List.dropWhile_eq_nil_iff.mpr (bne_of_not_mem hcolon)
      simp [splitAtColon, hnone] at h
  · rintro ⟨rfl, hk, hv⟩
    rw [splitAtColon_colon _ _ hk, if_neg hv]

theorem afterMarker_iff (line rest : List Char) :
    afterMarker line = some rest ↔ line = '/' :: '/' :: '%' :: rest := by
  unfold afterMarker
  constructor
  · intro h
    split at h
    · next hprefix =>
      obtain ⟨rest', rfl⟩ := List.isPrefixOf_iff_prefix.mp hprefix
      cases h
      rfl
    · cases h
  · rintro rfl
    rfl

theorem ofName?_iff (cs : List Char) (key : Key) :
    Key.ofName? cs = some key ↔ cs = key.name.toList := by
  constructor
  · intro h
    have hname := List.find?_some h
    exact (beq_iff_eq.mp hname).symm
  · rintro rfl
    cases key <;> rfl

theorem name_plain (key : Key) : ∀ c ∈ key.name.toList, Text.IsAscii c ∧ c ≠ 'k' := by
  cases key <;> simp [Key.name, Text.IsAscii]

theorem read_directive_iff (line : List Char) (key : Key) (value : List Char) :
    Line.read line = .directive key value ↔ Gives key line value := by
  constructor
  · intro h
    unfold Line.read at h
    cases hrest : afterMarker line with
    | none => simp [hrest] at h
    | some rest =>
      cases hsplit : splitAtColon rest with
      | none => simp [hrest, hsplit] at h
      | some kv =>
        obtain ⟨spelled, v⟩ := kv
        cases hname : Key.ofName? (Text.lowercase (Text.trim spelled)) with
        | none => simp [hrest, hsplit, hname] at h
        | some k =>
          obtain ⟨rfl, rfl⟩ : k = key ∧ v = value := by simpa [hrest, hsplit, hname] using h
          obtain ⟨rfl, hk, hv⟩ := (splitAtColon_iff _ _ _).mp hsplit
          refine ⟨spelled, (afterMarker_iff _ _).mp hrest, hk, hv, ?_⟩
          exact (Text.lowercase_eq_iff _ _ (name_plain k)).mp ((ofName?_iff _ _).mp hname)
  · rintro ⟨spelled, hline, hk, hv, hname⟩
    have hrest := (afterMarker_iff line _).mpr hline
    have hsplit := (splitAtColon_iff _ spelled value).mpr ⟨rfl, hk, hv⟩
    have hkey := (ofName?_iff _ key).mpr ((Text.lowercase_eq_iff _ _ (name_plain key)).mpr hname)
    simp [Line.read, hrest, hsplit, hkey]

/-- A line gives one key one value at most. -/
theorem gives_unique (line : List Char) (key key' : Key) (value value' : List Char)
    (h : Gives key line value) (h' : Gives key' line value') : key = key' ∧ value = value' := by
  rw [← read_directive_iff] at h h'
  simpa using h.symm.trans h'

def Line.valueFor (key : Key) : Line → Option (List Char)
  | .directive k value => if k = key then some value else none
  | _ => none

theorem valueFor_iff (key : Key) (line value : List Char) :
    (Line.read line).valueFor key = some value ↔ Gives key line value := by
  rw [← read_directive_iff]
  cases Line.read line with
  | directive k v => by_cases hk : k = key <;> simp [Line.valueFor, hk]
  | _ => simp [Line.valueFor]

theorem values_read (key : Key) (lines : List (List Char)) :
    Values key lines ((lines.map Line.read).filterMap (Line.valueFor key)) := by
  induction lines with
  | nil => exact .nil
  | cons line lines ih =>
    rw [List.map_cons]
    cases hline : (Line.read line).valueFor key with
    | none =>
      rw [List.filterMap_cons_none hline]
      refine .passed (fun value hgives => ?_) ih
      rw [(valueFor_iff _ _ _).mpr hgives] at hline
      cases hline
    | some value =>
      rw [List.filterMap_cons_some hline]
      exact .given ((valueFor_iff _ _ _).mp hline) ih

end Directive

namespace Directives
open Directive

/-- Each field holds what the values of its key add. -/
structure Collected (values : Key → List (List Char)) (d : Directives) : Prop where
  compileFlags : ∃ ws, List.Forall₂ Text.Words (values .cflags) ws ∧
    d.compileFlags = texts ws.flatten
  linkFlags : ∃ ws, List.Forall₂ Text.Words (values .ldflags) ws ∧ d.linkFlags = texts ws.flatten
  stdin : ∃ ts, List.Forall₂ QuotedLines.Texts (values .stdin) ts ∧
    d.stdin.toList = ts.flatten.flatMap (· ++ ['\n'])
  expectedStdout : ∃ ts, List.Forall₂ QuotedLines.Texts (values .stdout) ts ∧
    d.expectedStdout.toList = ts.flatten.flatMap (· ++ ['\n'])
  testScripts : d.testScripts = texts (values .testScript)
  noTerminator : d.memoryHints.noTerminator = String.join ((values .memTotalNoTerm).map fun v =>
    "If you only allocated " ++ String.ofList v ++
      " bytes, you have likely left off space for string termination.\n")
  total : d.memoryHints.total = String.join ((values .memTotal).map fun v =>
    "If you only allocated " ++ String.ofList v ++
      " bytes, you may not have allocated space for the array, " ++
      "which may or may not be what you wanted to do.\n")
  auxiliary : d.memoryHints.auxiliary = String.join ((values .memAux).map fun v =>
    "If you only allocated " ++ String.ofList v ++
      " bytes, you may not have allocated space for each string " ++
      "in the array, only the pointers to each string.\n")
  expected : d.memoryHints.expected = String.join ((values .memExpect).map fun v =>
    "You should expect to use about " ++ String.ofList v ++
      " bytes, you can use valgrind and gdb to check " ++
      "that you've got this right in next week's workshop.\n")
  programArgs : d.programArgs = texts ((values .args).flatMap Arguments.split)

section field

variable {α : Type} {f : Directives → List α} {g : List Char → List α} {key : Key}

/-- A field that appends as the directives do, and to which one key adds. -/
structure FedBy (f : Directives → List α) (g : List Char → List α) (key : Key) : Prop where
  append : ∀ a b, f (a.append b) = f a ++ f b
  empty : f {} = []
  adds : ∀ k v, f (ofDirective k v) = if k = key then g v else []

def valuesOf (source : String) (key : Key) : List (List Char) :=
  (linesOf source).filterMap (Line.valueFor key)

theorem FedBy.of_line (h : FedBy f g key) (l : Line) :
    f (ofLine l) = ((l.valueFor key).map g).getD [] := by
  cases l with
  | directive k v => by_cases hk : k = key <;> simp [ofLine, Line.valueFor, h.adds, hk]
  | _ => exact h.empty

theorem FedBy.of_foldl (h : FedBy f g key) (d : Directives) (ls : List Line) :
    f (ls.foldl (fun d l => d.append (ofLine l)) d) =
      f d ++ (ls.filterMap (Line.valueFor key)).flatMap g := by
  induction ls generalizing d with
  | nil => simp
  | cons l ls ih =>
    rw [List.foldl_cons, ih, h.append, h.of_line, List.append_assoc]
    cases hl : l.valueFor key with
    | none => simp [hl]
    | some v => simp [hl]

theorem FedBy.of_parse (h : FedBy f g key) (source : String) :
    f (parse source) = (valuesOf source key).flatMap g := by
  rw [parse, h.of_foldl, h.empty, List.nil_append, valuesOf]

end field

/-- The same of a field that is one text. -/
structure TextFedBy (f : Directives → String) (g : List Char → String) (key : Key) : Prop where
  append : ∀ a b, f (a.append b) = f a ++ f b
  empty : f {} = ""
  adds : ∀ k v, f (ofDirective k v) = if k = key then g v else ""

theorem TextFedBy.fedBy {f : Directives → String} {g : List Char → String} {key : Key}
    (h : TextFedBy f g key) : FedBy (fun d => (f d).toList) (fun v => (g v).toList) key where
  append a b := by rw [h.append, String.toList_append]
  empty := by rw [h.empty, String.toList_empty]
  adds k v := by
    rw [h.adds]
    split
    · rfl
    · exact String.toList_empty

section kinds

variable {key : Key} (source : String)

theorem parse_words (f : Directives → List String)
    (h : FedBy f (fun v => texts (Text.words v)) key) :
    ∃ ws, List.Forall₂ Text.Words (valuesOf source key) ws ∧
      f (parse source) = texts ws.flatten := by
  refine ⟨(valuesOf source key).map Text.words, ?_, ?_⟩
  · rw [List.forall₂_map_right_iff, List.forall₂_same]
    exact fun v _ => (Text.words_iff v _).mpr rfl
  · rw [h.of_parse, texts, List.map_flatten, List.map_map, List.flatMap_def]
    rfl

theorem parse_quoted (f : Directives → String)
    (h : TextFedBy f (fun v => String.ofList (QuotedLines.joined v)) key) :
    ∃ ts, List.Forall₂ QuotedLines.Texts (valuesOf source key) ts ∧
      (f (parse source)).toList = ts.flatten.flatMap (· ++ ['\n']) := by
  refine ⟨(valuesOf source key).map QuotedLines.texts, ?_, ?_⟩
  · rw [List.forall₂_map_right_iff, List.forall₂_same]
    exact fun v _ => (QuotedLines.texts_iff v _).mpr rfl
  · rw [h.fedBy.of_parse source, ← List.flatMap_def, List.flatMap_assoc]
    simp only [String.toList_ofList]
    rfl

theorem parse_text (f : Directives → String) {g : List Char → String} (h : TextFedBy f g key) :
    f (parse source) = String.join ((valuesOf source key).map g) := by
  rw [← String.toList_inj, String.toList_join, List.flatMap_map]
  exact h.fedBy.of_parse source

end kinds

theorem parse_collected (source : String) : Collected (valuesOf source) (parse source) where
  compileFlags := parse_words source (·.compileFlags)
    ⟨fun _ _ => rfl, rfl, fun k v => by cases k <;> rfl⟩
  linkFlags := parse_words source (·.linkFlags)
    ⟨fun _ _ => rfl, rfl, fun k v => by cases k <;> rfl⟩
  stdin := parse_quoted source (·.stdin)
    ⟨fun _ _ => rfl, rfl, fun k v => by cases k <;> rfl⟩
  expectedStdout := parse_quoted source (·.expectedStdout)
    ⟨fun _ _ => rfl, rfl, fun k v => by cases k <;> rfl⟩
  testScripts := by
    have h : FedBy (·.testScripts) (fun v => texts [v]) .testScript :=
      ⟨fun _ _ => rfl, rfl, fun k v => by cases k <;> rfl⟩
    exact (h.of_parse source).trans (List.map_eq_flatMap ..).symm
  noTerminator := parse_text source (·.memoryHints.noTerminator)
    ⟨fun _ _ => rfl, rfl, fun k v => by cases k <;> rfl⟩
  total := parse_text source (·.memoryHints.total)
    ⟨fun _ _ => rfl, rfl, fun k v => by cases k <;> rfl⟩
  auxiliary := parse_text source (·.memoryHints.auxiliary)
    ⟨fun _ _ => rfl, rfl, fun k v => by cases k <;> rfl⟩
  expected := parse_text source (·.memoryHints.expected)
    ⟨fun _ _ => rfl, rfl, fun k v => by cases k <;> rfl⟩
  programArgs := by
    have h : FedBy (·.programArgs) (fun v => texts (Arguments.split v)) .args :=
      ⟨fun _ _ => rfl, rfl, fun k v => by cases k <;> rfl⟩
    simpa [texts, List.map_flatMap] using h.of_parse source

/-- Each field holds what the lines of its key add, in order, and no line has two keys. -/
theorem parse_collects (source : String) :
    (∃ lines values, Text.Lines source.toList lines ∧ (∀ key, Values key lines (values key)) ∧
      Collected values (parse source)) ∧
    ∀ line key key' value value', Gives key line value → Gives key' line value' →
      key = key' ∧ value = value' :=
  ⟨⟨Text.lines source.toList, valuesOf source, (Text.lines_iff _ _).mpr rfl,
    fun key => values_read key _, parse_collected source⟩, gives_unique⟩

end Directives

end CellRunner
