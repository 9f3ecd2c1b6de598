import CellRunner.Proofs.Directive.Lines

/-!
# Texts put together

What a text asks for is the sum of what its lines ask for. So a text that goes on after a newline
asks for what its parts ask for, lines with different keys may stand in either order, and a line
that gives no key a value may stand anywhere.
-/

set_option autoImplicit false

namespace CellRunner.Directives
open Directive

theorem append_assoc (a b c : Directives) : (a.append b).append c = a.append (b.append c) := by
  simp [append, MemoryHints.append, String.append_assoc]

theorem empty_append (d : Directives) : append {} d = d := by
  simp [append, MemoryHints.append]

theorem append_empty (d : Directives) : d.append {} = d := by
  simp [append, MemoryHints.append]

/-- What lines ask for together. -/
def ofLines : List (List Char) → Directives
  | [] => {}
  | line :: ls => (ofLine (Line.read line)).append (ofLines ls)

theorem ofLines_singleton (line : List Char) : ofLines [line] = ofLine (Line.read line) :=
  append_empty _

theorem ofLines_append (a b : List (List Char)) :
    ofLines (a ++ b) = (ofLines a).append (ofLines b) := by
  induction a with
  | nil => exact (empty_append _).symm
  | cons line a ih => rw [List.cons_append, ofLines, ih, ofLines, append_assoc]

theorem foldl_ofLines (d : Directives) (ls : List (List Char)) :
    (ls.map Line.read).foldl (fun d l => d.append (ofLine l)) d = d.append (ofLines ls) := by
  induction ls generalizing d with
  | nil => exact (append_empty d).symm
  | cons line ls ih => rw [List.map_cons, List.foldl_cons, ih, append_assoc, ofLines]

theorem parse_eq {source : String} {ls : List (List Char)} (h : Text.Lines source.toList ls) :
    parse source = ofLines ls := by
  rw [parse, linesOf, Text.lines_eq h, foldl_ofLines, empty_append]

theorem parse_append {a : String} (b : String) (h : Text.Whole a.toList) :
    parse (a ++ b) = (parse a).append (parse b) := by
  obtain ⟨la, ha⟩ := Text.exists_lines a.toList
  obtain ⟨lb, hb⟩ := Text.exists_lines b.toList
  have hab : Text.Lines (a ++ b).toList (la ++ lb) := by
    rw [String.toList_append]
    exact ha.append h hb
  rw [parse_eq hab, parse_eq ha, parse_eq hb, ofLines_append]

/-- A text that is one line and the newline that ends it. -/
structure Ended (text line : List Char) : Prop where
  whole : Text.Whole text
  lines : Text.Lines text [line]

theorem parse_ended {text : String} {line : List Char} (h : Ended text.toList line) :
    parse text = ofLine (Line.read line) := by
  rw [parse_eq h.lines, ofLines_singleton]

/-- The name of a key as a line may have it, in letters of either case and with blanks around it. -/
structure Spells (key : Key) (spelled : List Char) : Prop where
  colon : ':' ∉ spelled
  newline : '\n' ∉ spelled
  name : (Text.trim spelled).map Char.toLower = key.name.toList

def directiveLine (spelled value : List Char) : List Char :=
  '/' :: '/' :: '%' :: (spelled ++ ':' :: value)

/-- A text that is one directive line. A carriage return before the newline is no part of the
value. -/
theorem parse_directive {key : Key} {spelled value ending : List Char} (h : Spells key spelled)
    (hcolon : ':' ∉ value) (hnewline : '\n' ∉ value) (hending : ending = [] ∨ ending = ['\n']) :
    ∃ kept, (kept = value ∨ value = kept ++ ['\r']) ∧
      parse (String.ofList (directiveLine spelled value ++ ending)) = ofDirective key kept := by
  have hcut : ∀ v, directiveLine spelled v = ('/' :: '/' :: '%' :: spelled) ++ [':'] ++ v := by
    simp [directiveLine]
  have hinner : '\n' ∉ ('/' :: '/' :: '%' :: spelled) ++ [':'] ++ value := by
    simp [h.newline, hnewline]
  have hend : (('/' :: '/' :: '%' :: spelled) ++ [':']).getLast? ≠ some '\r' := by
    rw [List.getLast?_concat]
    decide
  obtain ⟨kept, hkept, hlines⟩ := Text.exists_line (by simp) hend hinner hending
  have hsource : Text.Lines (String.ofList (directiveLine spelled value ++ ending)).toList
      [directiveLine spelled kept] := by
    rwa [String.toList_ofList, hcut, hcut]
  have hgives : Gives key (directiveLine spelled kept) kept := by
    refine ⟨spelled, rfl, h.colon, ?_, h.name⟩
    rcases hkept with rfl | rfl
    · exact hcolon
    · exact fun hin => hcolon (List.mem_append_left _ hin)
  refine ⟨kept, hkept, ?_⟩
  rw [parse_eq hsource, ofLines_singleton, (read_directive_iff _ _ _).mpr hgives, ofLine]

/-- A line that gives no key a value adds nothing. -/
theorem ofLine_passed {line : List Char} (h : ∀ key value, ¬ Gives key line value) :
    ofLine (Line.read line) = {} := by
  cases hline : Line.read line with
  | directive key value => exact absurd ((read_directive_iff _ _ _).mp hline) (h key value)
  | _ => rfl

-- each key adds to one field and leaves the others empty
theorem ofDirective_comm {key key' : Key} (h : key ≠ key') (v v' : List Char) :
    (ofDirective key v).append (ofDirective key' v') =
      (ofDirective key' v').append (ofDirective key v) := by
  cases key <;> cases key' <;>
    first | exact absurd rfl h | simp [ofDirective, append, MemoryHints.append]

theorem ofLine_comm {line line' : List Char}
    (h : ∀ key value value', Gives key line value → ¬ Gives key line' value') :
    (ofLine (Line.read line)).append (ofLine (Line.read line')) =
      (ofLine (Line.read line')).append (ofLine (Line.read line)) := by
  by_cases hfirst : ∃ key value, Gives key line value
  · by_cases hsecond : ∃ key value, Gives key line' value
    · obtain ⟨key, value, hgives⟩ := hfirst
      obtain ⟨key', value', hgives'⟩ := hsecond
      have hne : key ≠ key' := by
        rintro rfl
        exact h key value value' hgives hgives'
      rw [(read_directive_iff _ _ _).mpr hgives, (read_directive_iff _ _ _).mpr hgives']
      exact ofDirective_comm hne value value'
    · have hnothing : ofLine (Line.read line') = {} := ofLine_passed (by simpa using hsecond)
      rw [hnothing, empty_append, append_empty]
  · have hnothing : ofLine (Line.read line) = {} := ofLine_passed (by simpa using hfirst)
    rw [hnothing, empty_append, append_empty]

section texts

variable {before first second : String} (after : String) {line line' : List Char}
  (hbefore : Text.Whole before.toList) (hfirst : Ended first.toList line)
include hbefore hfirst

theorem whole_append : Text.Whole (before ++ first).toList := by
  rw [String.toList_append]
  exact hbefore.append hfirst.whole

theorem parse_two (hsecond : Ended second.toList line') :
    parse (before ++ first ++ second ++ after) = (((parse before).append
      ((ofLine (Line.read line)).append (ofLine (Line.read line')))).append (parse after)) := by
  have hfront := whole_append hbefore hfirst
  rw [parse_append after (whole_append hfront hsecond), parse_append second hfront,
    parse_append first hbefore, parse_ended hfirst, parse_ended hsecond, append_assoc (parse before)]

theorem parse_swap (hsecond : Ended second.toList line')
    (h : ∀ key value value', Gives key line value → ¬ Gives key line' value') :
    parse (before ++ first ++ second ++ after) = parse (before ++ second ++ first ++ after) := by
  rw [parse_two after hbefore hfirst hsecond, parse_two after hbefore hsecond hfirst,
    ofLine_comm h]

theorem parse_passed (h : ∀ key value, ¬ Gives key line value) :
    parse (before ++ first ++ after) = parse (before ++ after) := by
  rw [parse_append after (whole_append hbefore hfirst), parse_append first hbefore,
    parse_ended hfirst, ofLine_passed h, append_empty, parse_append after hbefore]

end texts

/-- What a text asks for is what its parts ask for, where the first part does not stop inside a
line. So lines with different keys may change places, and a line without a key may be left out. -/
theorem parse_joins :
    (∀ a b : String, Text.Whole a.toList → parse (a ++ b) = (parse a).append (parse b)) ∧
    (∀ (before first second after : String) (line line' : List Char), Text.Whole before.toList →
      Ended first.toList line → Ended second.toList line' →
      (∀ key value value', Gives key line value → ¬ Gives key line' value') →
      parse (before ++ first ++ second ++ after) = parse (before ++ second ++ first ++ after)) ∧
    (∀ (before text after : String) (line : List Char), Text.Whole before.toList →
      Ended text.toList line → (∀ key value, ¬ Gives key line value) →
      parse (before ++ text ++ after) = parse (before ++ after)) :=
  ⟨fun _ b => parse_append b,
    fun _ _ _ after _ _ hbefore hfirst => parse_swap after hbefore hfirst,
    fun _ _ after _ hbefore htext => parse_passed after hbefore htext⟩

/-- A line of flags that ends in a carriage return and a newline, a line of input, and a line with
two colons, before a line of flags that does not end. -/
theorem parse_joins_four : ∃ flags input note last : String, flags = "//%cflags: -g\r\n" ∧
    input = "//%stdin: \"1\"\n" ∧ note = "//%cflags: a:b\n" ∧ last = "//%cflags: -O2" ∧
    Text.Whole flags.toList ∧ Ended flags.toList "//%cflags: -g".toList ∧
    Ended input.toList "//%stdin: \"1\"".toList ∧ Ended note.toList "//%cflags: a:b".toList ∧
    (∀ key value value', Gives key "//%cflags: -g".toList value →
      ¬ Gives key "//%stdin: \"1\"".toList value') ∧
    (∀ key value, ¬ Gives key "//%cflags: a:b".toList value) ∧
    parse (flags ++ last) = (parse flags).append (parse last) ∧
    parse (flags ++ flags ++ input ++ last) = parse (flags ++ input ++ flags ++ last) ∧
    parse (flags ++ note ++ last) = parse (flags ++ last) ∧
    (parse (flags ++ last)).compileFlags = ["-g", "-O2"] := by
  have hflags : Ended "//%cflags: -g\r\n".toList "//%cflags: -g".toList :=
    ⟨.inr (by decide), (Text.lines_iff _ _).mpr rfl⟩
  have hinput : Ended "//%stdin: \"1\"\n".toList "//%stdin: \"1\"".toList :=
    ⟨.inr (by decide), (Text.lines_iff _ _).mpr rfl⟩
  have hnote : Ended "//%cflags: a:b\n".toList "//%cflags: a:b".toList :=
    ⟨.inr (by decide), (Text.lines_iff _ _).mpr rfl⟩
  have hreadflags : Line.read "//%cflags: -g".toList = .directive .cflags " -g".toList := rfl
  have hreadinput : Line.read "//%stdin: \"1\"".toList = .directive .stdin " \"1\"".toList := rfl
  have hreadnote : Line.read "//%cflags: a:b".toList = .malformed "//%cflags: a:b".toList := rfl
  have hkeys : ∀ key value value', Gives key "//%cflags: -g".toList value →
      ¬ Gives key "//%stdin: \"1\"".toList value' := by
    intro key value value' hfirst hsecond
    rw [← read_directive_iff, hreadflags] at hfirst
    rw [← read_directive_iff, hreadinput] at hsecond
    cases hfirst
    cases hsecond
  have hnone : ∀ key value, ¬ Gives key "//%cflags: a:b".toList value := by
    intro key value hgives
    rw [← read_directive_iff, hreadnote] at hgives
    cases hgives
  exact ⟨_, _, _, _, rfl, rfl, rfl, rfl, hflags.whole, hflags, hinput, hnote, hkeys, hnone,
    parse_joins.1 _ _ hflags.whole,
    parse_joins.2.1 _ _ _ _ _ _ hflags.whole hflags hinput hkeys,
    parse_joins.2.2 _ _ _ _ hflags.whole hnote hnone, rfl⟩

end CellRunner.Directives

/-! ## How lines end

It makes no difference to what a text asks for whether its lines end in a newline or in a carriage
return and a newline, nor whether the last line ends at all.
-/

namespace CellRunner

namespace Text

/-- A text with a carriage return before each newline. -/
def returned (cs : List Char) : List Char :=
  cs.flatMap fun c => if c = '\n' then ['\r', '\n'] else [c]

theorem returned_append (a b : List Char) : returned (a ++ b) = returned a ++ returned b :=
  List.flatMap_append

theorem returned_inner {line : List Char} (h : '\n' ∉ line) : returned line = line := by
  induction line with
  | nil => rfl
  | cons c line ih =>
    obtain ⟨hc, hline⟩ : c ≠ '\n' ∧ '\n' ∉ line := by simpa [eq_comm] using h
    have hcut : returned (c :: line) = [c] ++ returned line := by simp [returned, hc]
    rw [hcut, ih hline, List.singleton_append]

theorem returned_newline {line : List Char} (h : '\n' ∉ line) (rest : List Char) :
    returned (line ++ '\n' :: rest) = line ++ '\r' :: '\n' :: returned rest := by
  rw [returned_append, returned_inner h]
  rfl

theorem Lines.returned {cs : List Char} {ls : List (List Char)} (h : Lines cs ls)
    (halone : ¬ ['\r', '\n'] <:+: cs) : Lines (Text.returned cs) ls := by
  induction h with
  | nothing => exact .nothing
  | last hfilled hinner =>
    rw [returned_inner hinner]
    exact .last hfilled hinner
  | @newline line rest _ hinner _ _ ih =>
    rw [returned_newline hinner]
    refine .both hinner (ih fun hrest => halone (hrest.trans ?_))
    exact ⟨line ++ ['\n'], [], by simp⟩
  | @both line rest => exact absurd ⟨line, rest, by simp⟩ halone

/-- A text that stops inside a line ends as the last of its parts ends. -/
theorem open_rest {front rest : List Char} (hfront : Whole front) (h : ¬ Whole (front ++ rest)) :
    ¬ Whole rest ∧ (front ++ rest).getLast? = rest.getLast? := by
  refine ⟨fun hrest => h (hfront.append hrest), ?_⟩
  cases hlast : rest.getLast? with
  | none =>
    obtain rfl := List.getLast?_eq_none_iff.mp hlast
    exact absurd (by simpa using hfront) h
  | some c => rw [List.getLast?_append, hlast, Option.some_or]

/-- A newline ends the last line of a text that stops inside it. -/
theorem Lines.closed {cs : List Char} {ls : List (List Char)} (h : Lines cs ls)
    (hopen : ¬ Whole cs) (hlast : cs.getLast? ≠ some '\r') : Lines (cs ++ ['\n']) ls := by
  induction h with
  | nothing => exact absurd (.inl rfl) hopen
  | last _ hinner => exact .newline hinner hlast .nothing
  | @newline line rest _ hinner halone _ ih =>
    have hcut : line ++ '\n' :: rest = (line ++ ['\n']) ++ rest := by simp
    rw [hcut] at hopen hlast
    obtain ⟨hrest, hsame⟩ := open_rest (.inr (by simp)) hopen
    simpa using Lines.newline hinner halone (ih hrest (hsame ▸ hlast))
  | @both line rest _ hinner _ ih =>
    have hcut : line ++ '\r' :: '\n' :: rest = (line ++ ['\r', '\n']) ++ rest := by simp
    rw [hcut] at hopen hlast
    obtain ⟨hrest, hsame⟩ := open_rest (.inr (by simp)) hopen
    simpa using Lines.both hinner (ih hrest (hsame ▸ hlast))

end Text

namespace Directives
open Directive

theorem parse_returned (source : String) (h : ¬ ['\r', '\n'] <:+: source.toList) :
    parse (String.ofList (Text.returned source.toList)) = parse source := by
  obtain ⟨ls, hls⟩ := Text.exists_lines source.toList
  have hreturned : Text.Lines (String.ofList (Text.returned source.toList)).toList ls := by
    rw [String.toList_ofList]
    exact hls.returned h
  rw [parse_eq hreturned, parse_eq hls]

theorem parse_closed (source : String) (h : source.toList.getLast? ≠ some '\r') :
    parse (source ++ "\n") = parse source := by
  by_cases hwhole : Text.Whole source.toList
  · have hline : Text.Lines "\n".toList [[]] := (Text.lines_iff _ _).mpr rfl
    have hempty : parse "\n" = {} := parse_eq hline
    rw [parse_append _ hwhole, hempty, append_empty]
  · obtain ⟨ls, hls⟩ := Text.exists_lines source.toList
    have hclosed : Text.Lines (source ++ "\n").toList ls := by
      rw [String.toList_append]
      exact hls.closed hwhole h
    rw [parse_eq hclosed, parse_eq hls]

/-- Carriage returns before the newlines of a text make no difference, and neither does a newline
at its end. -/
theorem parse_endings (source : String) :
    (¬ ['\r', '\n'] <:+: source.toList →
      parse (String.ofList (Text.returned source.toList)) = parse source) ∧
    (source.toList.getLast? ≠ some '\r' → parse (source ++ "\n") = parse source) :=
  ⟨parse_returned source, parse_closed source⟩

/-- Scripts whose names end in a blank and at the end of the text, and stray carriage returns at the
beginning of a line and in a memory hint. -/
theorem parse_endings_scripts : ∃ source : String,
    source = "//%test_script: a.sh \n\r//%args: x\n//%memaux: \r8\n//%test_script:b" ∧
    ¬ ['\r', '\n'] <:+: source.toList ∧ source.toList.getLast? ≠ some '\r' ∧
    parse (String.ofList (Text.returned source.toList)) = parse source ∧
    parse (source ++ "\n") = parse source ∧ (parse source).testScripts = [" a.sh ", "b"] := by
  obtain ⟨source, hsource⟩ : ∃ source,
      source = "//%test_script: a.sh \n\r//%args: x\n//%memaux: \r8\n//%test_script:b" := ⟨_, rfl⟩
  have halone : ¬ ['\r', '\n'] <:+: source.toList := by simp [hsource, List.infix_cons_iff]
  have hlast : source.toList.getLast? ≠ some '\r' := by simp [hsource]
  have hscripts : (parse source).testScripts = [" a.sh ", "b"] := by
    rw [hsource]
    rfl
  exact ⟨source, hsource, halone, hlast, (parse_endings source).1 halone,
    (parse_endings source).2 hlast, hscripts⟩

end Directives

end CellRunner
