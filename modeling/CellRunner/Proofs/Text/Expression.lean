/-!
# Regular expressions whose choices are ordered

An expression is tried from left to right: of two alternatives the first comes first, and a
repetition goes on before it ends. Of the matches at a place the first one that comes to its end
is the match there.
-/

set_option autoImplicit false

namespace CellRunner.Text

inductive Expression where
  | oneOf (members : Char → Bool)
  | sequence (a b : Expression)
  | either (a b : Expression)
  /-- any number of times -/
  | star (r : Expression)

namespace Expression

/-- At least once. -/
def plus (r : Expression) : Expression := .sequence r (.star r)

/-- What follows after a number of rounds, for more rounds before fewer. A round takes at least
one character. -/
def repeated (once : List Char → List (List Char)) (cs : List Char) : List (List Char) :=
  ((once cs).filter (·.length < cs.length)).attach.flatMap (fun rest => repeated once rest.1) ++
    [cs]
termination_by cs.length
decreasing_by exact of_decide_eq_true (List.mem_filter.mp rest.2).2

/-- What follows the matches at the front of a text, in the order in which they are found. -/
def rests : Expression → List Char → List (List Char)
  | oneOf _, [] => []
  | oneOf members, c :: cs => if members c then [cs] else []
  | sequence a b, cs => (a.rests cs).flatMap b.rests
  | either a b, cs => a.rests cs ++ b.rests cs
  | star r, cs => repeated r.rests cs

/-- The matches in a text, from left to right: each begins at the first place, not before the end
of the one before, where there is one, and takes at least one character. -/
inductive Finds (r : Expression) : List Char → List (List Char) → Prop where
  | nothing (unmatched : r.rests [] = []) : Finds r [] []
  | passed {c : Char} {cs : List Char} {found : List (List Char)}
      (unmatched : r.rests (c :: cs) = []) (next : Finds r cs found) : Finds r (c :: cs) found
  | found {cs first rest : List Char} {found : List (List Char)} (cut : cs = first ++ rest)
      (filled : first ≠ []) (matched : (r.rests cs).head? = some rest) (next : Finds r rest found) :
      Finds r cs (first :: found)

/-- What a search for matches comes to: a character that it passes over, or a match. -/
inductive Part where
  | passed (c : Char)
  | found (text : List Char)
  deriving DecidableEq

def Part.text : Part → List Char
  | passed c => [c]
  | found text => text

def Part.match? : Part → Option (List Char)
  | passed _ => none
  | found text => some text

/-- A search for matches in a text, from left to right, with everything that it comes to. -/
inductive Searched (r : Expression) : List Char → List Part → Prop where
  | nothing (unmatched : r.rests [] = []) : Searched r [] []
  | passed {c : Char} {cs : List Char} {parts : List Part}
      (unmatched : r.rests (c :: cs) = []) (next : Searched r cs parts) :
      Searched r (c :: cs) (.passed c :: parts)
  | found {cs first rest : List Char} {parts : List Part} (cut : cs = first ++ rest)
      (filled : first ≠ []) (matched : (r.rests cs).head? = some rest)
      (next : Searched r rest parts) : Searched r cs (.found first :: parts)

theorem searched_unique {r : Expression} {cs : List Char} {parts parts' : List Part}
    (h : Searched r cs parts) (h' : Searched r cs parts') : parts = parts' := by
  induction h generalizing parts' with
  | nothing hnone =>
    cases h' with
    | nothing => rfl
    | found hcut hfilled =>
      obtain ⟨rfl, rfl⟩ := List.append_eq_nil_iff.mp hcut.symm
      exact absurd rfl hfilled
  | passed hnone _ ih =>
    cases h' with
    | passed _ hnext => rw [ih hnext]
    | found _ _ hmatched => simp [hnone] at hmatched
  | found hcut hfilled hmatched _ ih =>
    cases h' with
    | nothing hnone => simp [hnone] at hmatched
    | passed hnone => simp [hnone] at hmatched
    | found hcut' _ hmatched' hnext =>
      obtain rfl := Option.some.inj (hmatched.symm.trans hmatched')
      obtain rfl := List.append_cancel_right (hcut.symm.trans hcut')
      rw [ih hnext]

theorem finds_iff_searched {r : Expression} {cs : List Char} {found : List (List Char)} :
    Finds r cs found ↔ ∃ parts, Searched r cs parts ∧ parts.filterMap Part.match? = found := by
  constructor
  · intro h
    induction h with
    | nothing hnone => exact ⟨[], .nothing hnone, rfl⟩
    | passed hnone _ ih =>
      obtain ⟨parts, hparts, rfl⟩ := ih
      exact ⟨_, .passed hnone hparts, rfl⟩
    | found hcut hfilled hmatched _ ih =>
      obtain ⟨parts, hparts, rfl⟩ := ih
      exact ⟨_, .found hcut hfilled hmatched hparts, rfl⟩
  · rintro ⟨parts, h, rfl⟩
    induction h with
    | nothing hnone => exact .nothing hnone
    | passed hnone _ ih => exact .passed hnone ih
    | found hcut hfilled hmatched _ ih => exact .found hcut hfilled hmatched ih

theorem finds_unique {r : Expression} {cs : List Char} {found found' : List (List Char)}
    (h : Finds r cs found) (h' : Finds r cs found') : found = found' := by
  obtain ⟨parts, hparts, rfl⟩ := finds_iff_searched.mp h
  obtain ⟨parts', hparts', rfl⟩ := finds_iff_searched.mp h'
  rw [searched_unique hparts hparts']

/-- A search leaves nothing out. -/
theorem searched_text {r : Expression} {cs : List Char} {parts : List Part}
    (h : Searched r cs parts) : cs = parts.flatMap Part.text := by
  induction h with
  | nothing => rfl
  | passed _ _ ih => rw [List.flatMap_cons, ← ih, Part.text, List.singleton_append]
  | found hcut _ _ _ ih => rw [List.flatMap_cons, ← ih, Part.text, hcut]

/-- No match begins where a character is passed over. -/
theorem searched_unmatched {r : Expression} {cs : List Char} {parts before after : List Part}
    {c : Char} (h : Searched r cs parts) (hparts : parts = before ++ .passed c :: after) :
    r.rests (c :: after.flatMap Part.text) = [] := by
  induction h generalizing before with
  | nothing => simp at hparts
  | passed hnone hnext ih =>
    cases before with
    | nil =>
      obtain ⟨hc, rfl⟩ := List.cons.inj hparts
      obtain rfl := Part.passed.inj hc
      rwa [← searched_text hnext]
    | cons part before => exact ih (List.cons.inj hparts).2
  | found _ _ _ _ ih =>
    cases before with
    | nil => simp at hparts
    | cons part before => exact ih (List.cons.inj hparts).2

theorem repeated_eq (once : List Char → List (List Char)) (cs : List Char) :
    repeated once cs =
      ((once cs).filter (·.length < cs.length)).flatMap (repeated once) ++ [cs] := by
  rw [repeated, List.flatMap_def, List.attach_map_val, ← List.flatMap_def]

theorem mem_repeated_iff (once : List Char → List (List Char)) (cs rest : List Char) :
    rest ∈ repeated once cs ↔
      (∃ next ∈ once cs, next.length < cs.length ∧ rest ∈ repeated once next) ∨ rest = cs := by
  rw [repeated_eq]
  simp [and_assoc]

/-- The texts that an expression matches as a whole, in whatever order they are tried. -/
inductive Matches : Expression → List Char → Prop where
  | oneOf {members : Char → Bool} {c : Char} (member : members c) : Matches (.oneOf members) [c]
  | sequence {a b : Expression} {s t : List Char} (first : Matches a s) (second : Matches b t) :
      Matches (.sequence a b) (s ++ t)
  | left {a s} (b : Expression) (first : Matches a s) : Matches (.either a b) s
  | right {b s} (a : Expression) (second : Matches b s) : Matches (.either a b) s
  | done (r : Expression) : Matches r.star []
  | round {r : Expression} {s t : List Char} (first : Matches r s) (next : Matches r.star t) :
      Matches r.star (s ++ t)

theorem repeated_matches {r : Expression} {cs rest : List Char}
    (once : ∀ cs rest, rest ∈ r.rests cs → ∃ first, cs = first ++ rest ∧ Matches r first)
    (h : rest ∈ repeated r.rests cs) : ∃ first, cs = first ++ rest ∧ Matches r.star first := by
  rcases (mem_repeated_iff _ _ _).mp h with ⟨next, hnext, hshorter, hrest⟩ | rfl
  · obtain ⟨s, hcs, hs⟩ := once cs next hnext
    obtain ⟨t, hnext, ht⟩ := repeated_matches once hrest
    exact ⟨s ++ t, by rw [hcs, hnext, List.append_assoc], .round hs ht⟩
  · exact ⟨[], rfl, .done r⟩
termination_by cs.length

theorem matches_of_mem (r : Expression) (cs rest : List Char) (h : rest ∈ r.rests cs) :
    ∃ first, cs = first ++ rest ∧ Matches r first := by
  induction r generalizing cs rest with
  | oneOf members =>
    cases cs with
    | nil => simp [rests] at h
    | cons c cs =>
      obtain ⟨hc, rfl⟩ : members c ∧ rest = cs := by simpa [rests] using h
      exact ⟨[c], rfl, .oneOf hc⟩
  | sequence a b iha ihb =>
    obtain ⟨middle, hmiddle, hrest⟩ := List.mem_flatMap.mp h
    obtain ⟨s, rfl, hs⟩ := iha _ _ hmiddle
    obtain ⟨t, rfl, ht⟩ := ihb _ _ hrest
    exact ⟨s ++ t, by simp, .sequence hs ht⟩
  | either a b iha ihb =>
    rcases List.mem_append.mp h with h | h
    · exact (iha _ _ h).imp fun _ => And.imp_right (.left b)
    · exact (ihb _ _ h).imp fun _ => And.imp_right (.right a)
  | star r ih => exact repeated_matches ih h

theorem mem_of_matches {r : Expression} {first : List Char} (h : Matches r first)
    (rest : List Char) : rest ∈ r.rests (first ++ rest) := by
  induction h generalizing rest with
  | oneOf hmember => simp [rests, hmember]
  | @sequence a b s t _ _ iha ihb =>
    rw [List.append_assoc]
    exact List.mem_flatMap.mpr ⟨t ++ rest, iha _, ihb _⟩
  | left b _ ih => exact List.mem_append_left _ (ih rest)
  | right a _ ih => exact List.mem_append_right _ (ih rest)
  | done r => exact (mem_repeated_iff _ _ _).mpr (.inr rfl)
  | @round r s t _ _ ihs iht =>
    -- a round that takes nothing is no round
    by_cases hs : s = []
    · simpa [hs] using iht rest
    · have hshorter : (t ++ rest).length < (s ++ t ++ rest).length := by
        simpa [List.length_pos_iff] using hs
      refine (mem_repeated_iff _ _ _).mpr (.inl ⟨t ++ rest, ?_, hshorter, iht rest⟩)
      rw [List.append_assoc]
      exact ihs (t ++ rest)

/-- What follows the matches at the front of a text: each is found, and nothing else. -/
theorem mem_rests_iff (r : Expression) (cs rest : List Char) :
    rest ∈ r.rests cs ↔ ∃ first, cs = first ++ rest ∧ Matches r first := by
  constructor
  · exact matches_of_mem r cs rest
  · rintro ⟨first, rfl, hfirst⟩
    exact mem_of_matches hfirst rest

theorem matches_of_head? {r : Expression} {cs first rest : List Char} (hcut : cs = first ++ rest)
    (h : (r.rests cs).head? = some rest) : Matches r first := by
  obtain ⟨first', hcut', hfirst⟩ := (mem_rests_iff r cs rest).mp (List.mem_of_mem_head? h)
  rwa [← List.append_cancel_right (hcut'.symm.trans hcut)]

theorem not_matches_of_rests {r : Expression} {first rest : List Char}
    (h : r.rests (first ++ rest) = []) : ¬ Matches r first := by
  intro hfirst
  have hmem := (mem_rests_iff r _ rest).mpr ⟨first, rfl, hfirst⟩
  simp [h] at hmem

theorem matches_oneOf_iff {members : Char → Bool} {cs : List Char} :
    Matches (oneOf members) cs ↔ ∃ c, members c ∧ cs = [c] := by
  constructor
  · rintro ⟨hmember⟩
    exact ⟨_, hmember, rfl⟩
  · rintro ⟨c, hmember, rfl⟩
    exact .oneOf hmember

theorem matches_sequence_iff {a b : Expression} {cs : List Char} :
    Matches (sequence a b) cs ↔ ∃ s t, cs = s ++ t ∧ Matches a s ∧ Matches b t := by
  constructor
  · rintro ⟨⟩
    exact ⟨_, _, rfl, ‹_›, ‹_›⟩
  · rintro ⟨s, t, rfl, hs, ht⟩
    exact .sequence hs ht

theorem matches_star_oneOf_iff {members : Char → Bool} {cs : List Char} :
    Matches (oneOf members).star cs ↔ ∀ c ∈ cs, members c := by
  constructor
  · intro h
    generalize hr : (oneOf members).star = r at h
    induction h with
    | done => simp
    | round hfirst _ _ ih =>
      cases hr
      obtain ⟨c, hc, rfl⟩ := matches_oneOf_iff.mp hfirst
      exact List.forall_mem_cons.mpr ⟨hc, ih rfl⟩
    | _ => cases hr
  · intro h
    induction cs with
    | nil => exact .done _
    | cons c cs ih =>
      obtain ⟨hc, hcs⟩ := List.forall_mem_cons.mp h
      exact .round (s := [c]) (.oneOf hc) (ih hcs)

/-- Each match takes at least one character. -/
def Consumes (r : Expression) : Prop := ¬ Matches r []

theorem consumes_oneOf (members : Char → Bool) : (oneOf members).Consumes := nofun

theorem consumes_sequence {a : Expression} (b : Expression) (h : a.Consumes) :
    (sequence a b).Consumes := by
  intro hmatches
  generalize hs : [] = s at hmatches
  cases hmatches with
  | sequence hfirst =>
    obtain ⟨rfl, -⟩ := List.append_eq_nil_iff.mp hs.symm
    exact h hfirst

theorem consumes_either {a b : Expression} (ha : a.Consumes) (hb : b.Consumes) :
    (either a b).Consumes := by
  intro hmatches
  cases hmatches with
  | left _ hfirst => exact ha hfirst
  | right _ hsecond => exact hb hsecond

theorem length_rests {r : Expression} (h : r.Consumes) (cs : List Char) :
    ∀ rest ∈ r.rests cs, rest.length < cs.length := by
  intro rest hrest
  obtain ⟨first, rfl, hfirst⟩ := (mem_rests_iff r cs rest).mp hrest
  have hfilled : first ≠ [] := by
    rintro rfl
    exact h hfirst
  simpa [List.length_pos_iff] using hfilled

theorem exists_searched {r : Expression} (h : r.Consumes) (cs : List Char) :
    ∃ parts, Searched r cs parts := by
  cases hrests : r.rests cs with
  | nil =>
    cases cs with
    | nil => exact ⟨[], .nothing hrests⟩
    | cons c cs =>
      obtain ⟨parts, hparts⟩ := exists_searched h cs
      exact ⟨_, .passed hrests hparts⟩
  | cons rest others =>
    have hmem : rest ∈ r.rests cs := by simp [hrests]
    have hshorter := length_rests h cs rest hmem
    obtain ⟨first, hcut, -⟩ := (mem_rests_iff r cs rest).mp hmem
    have hfilled : first ≠ [] := by
      rintro rfl
      simp [hcut] at hshorter
    obtain ⟨parts, hparts⟩ := exists_searched h rest
    exact ⟨_, .found hcut hfilled (by simp [hrests]) hparts⟩
termination_by cs.length

theorem exists_finds {r : Expression} (h : r.Consumes) (cs : List Char) :
    ∃ found, Finds r cs found := by
  obtain ⟨parts, hparts⟩ := exists_searched h cs
  exact ⟨_, finds_iff_searched.mpr ⟨parts, hparts, rfl⟩⟩

theorem rests_star {r : Expression} (h : r.Consumes) (cs : List Char) :
    r.star.rests cs = (r.rests cs).flatMap r.star.rests ++ [cs] := by
  have hall : (r.rests cs).filter (·.length < cs.length) = r.rests cs := by
    simpa [List.filter_eq_self] using length_rests h cs
  rw [rests, repeated_eq, hall]
  rfl

theorem head?_flatMap_of_ne_nil {α β : Type} (f : α → List β) (hf : ∀ a, f a ≠ []) (as : List α) :
    (as.flatMap f).head? = as.head?.bind fun a => (f a).head? := by
  cases as with
  | nil => rfl
  | cons a as =>
    obtain ⟨b, bs, hb⟩ := List.exists_cons_of_ne_nil (hf a)
    simp [hb]

theorem rests_star_ne_nil (r : Expression) (cs : List Char) : r.star.rests cs ≠ [] := by
  rw [rests, repeated_eq]
  simp

theorem head?_rests_plus {r : Expression} {cs rest : List Char}
    (h : (r.rests cs).head? = some rest) :
    (r.plus.rests cs).head? = (r.star.rests rest).head? := by
  rw [plus, rests, head?_flatMap_of_ne_nil _ (rests_star_ne_nil r), h]
  rfl

theorem rests_plus_of_nil {r : Expression} {cs : List Char} (h : r.rests cs = []) :
    r.plus.rests cs = [] := by
  simp [plus, rests, h]

/-- A repetition goes on with the first match of a round. -/
theorem head?_rests_star {r : Expression} {cs rest : List Char} (hr : r.Consumes)
    (h : (r.rests cs).head? = some rest) :
    (r.star.rests cs).head? = (r.star.rests rest).head? := by
  obtain ⟨first, more, hfirst⟩ := List.exists_cons_of_ne_nil (rests_star_ne_nil r rest)
  rw [rests_star hr, List.head?_append, head?_flatMap_of_ne_nil _ (rests_star_ne_nil r), h]
  simp [hfirst]

/-- A repetition ends where a round has no match. -/
theorem head?_rests_star_of_nil {r : Expression} {cs : List Char} (h : r.rests cs = []) :
    (r.star.rests cs).head? = some cs := by
  rw [rests, repeated_eq, h]
  rfl

end Expression

end CellRunner.Text
