import CellRunner.Toml.Node

/-!
# A key is set once

No table of a document has two entries with the same key, whichever statements made them.
-/

set_option autoImplicit false

namespace CellRunner.Toml
open Node

/-- The keys of a table, in order. -/
def names (es : Entries) : List String := es.map (·.1.text)

/-- No table in a node has a key twice. -/
inductive Node.Distinct : Node → Prop where
  | scalar (span : Span) (v : Scalar) : Distinct (.scalar span v)
  | array (span : Span) (items : List Node) (h : ∀ n ∈ items, Distinct n) :
      Distinct (.array span items)
  | tables (span : Span) (items : List Node) (h : ∀ n ∈ items, Distinct n) :
      Distinct (.tables span items)
  | table (span : Span) (origin : Origin) (es : Entries) (once : (names es).Nodup)
      (h : ∀ e ∈ es, Distinct e.2) : Distinct (.table span origin es)

/-- The entries of a table without a key that is there twice, here or further inside. -/
structure SetOnce (es : Entries) : Prop where
  once : (names es).Nodup
  inside : ∀ e ∈ es, e.2.Distinct

theorem setOnce_nil : SetOnce [] := ⟨List.nodup_nil, by simp⟩

theorem setOnce_of_table {span : Span} {origin : Origin} {es : Entries}
    (h : Distinct (.table span origin es)) : SetOnce es := by
  cases h with
  | table _ _ _ once h => exact ⟨once, h⟩

theorem distinct_table (span : Span) (origin : Origin) (es : Entries) (h : SetOnce es) :
    Distinct (.table span origin es) :=
  .table span origin es h.once h.inside

theorem distinct_found (es : Entries) (k : Key) (n : Node) (h : SetOnce es)
    (hn : find? es k = some n) : n.Distinct := by
  obtain ⟨e, he, rfl⟩ := Option.map_eq_some_iff.mp hn
  exact h.inside e (List.mem_of_find?_eq_some he)

theorem setOnce_put (es : Entries) (k : Key) (v : Node) (h : SetOnce es) (hv : v.Distinct) :
    SetOnce (put es k v) := by
  unfold put
  split
  next =>
    have hnames : names (es.map fun e => if e.1.text == k.text then (e.1, v) else e) =
        names es := by
      rw [names, List.map_map]
      refine List.map_congr_left fun e _ => ?_
      rw [Function.comp_apply]
      split <;> rfl
    refine ⟨hnames ▸ h.once, fun e he => ?_⟩
    obtain ⟨f, hf, rfl⟩ := List.mem_map.mp he
    split
    · exact hv
    · exact h.inside f hf
  next hnew =>
    have hfresh : k.text ∉ names es := by
      simpa [names] using hnew
    refine ⟨?_, fun e he => ?_⟩
    · rw [names, List.map_append, List.nodup_append]
      refine ⟨h.once, by simp, fun a ha b hb => ?_⟩
      obtain rfl := List.mem_singleton.mp hb
      rintro rfl
      exact hfresh ha
    · obtain he | he := List.mem_append.mp he
      · exact h.inside e he
      · rw [List.mem_singleton.mp he]
        exact hv

theorem setOnce_filter (es : Entries) (p : Key × Node → Bool) (h : SetOnce es) :
    SetOnce (es.filter p) :=
  ⟨(List.filter_sublist.map _).nodup h.once, fun e he => h.inside e (List.mem_filter.mp he).1⟩

/-- A change that sets no key twice. -/
def Node.Change.Sound (change : Change) : Prop :=
  ∀ origin es es', SetOnce es → change origin es = some es' → SetOnce es'

/-- A change is sound wherever a path leads. -/
theorem descend_sound (made : Origin) (change : Change) (hc : change.Sound) (path : Path) :
    Change.Sound (descend made change path) := by
  induction path with
  | nil => exact hc
  | cons k ks ih =>
    intro origin es es' h hd
    unfold descend at hd
    split at hd
    next =>
      obtain ⟨inner, hinner, hput⟩ := Option.bind_eq_some_iff.mp hd
      obtain rfl := Option.some.inj hput
      exact setOnce_put es k _ h (distinct_table _ _ _ (ih made [] inner setOnce_nil hinner))
    next span o inner hfound =>
      have hold := setOnce_of_table (distinct_found es k _ h hfound)
      split at hd
      · contradiction
      · obtain ⟨inner', hinner, hput⟩ := Option.bind_eq_some_iff.mp hd
        obtain rfl := Option.some.inj hput
        exact setOnce_put es k _ h (distinct_table _ _ _ (ih o inner inner' hold hinner))
    next span items hfound =>
      have hitems : ∀ n ∈ items, n.Distinct := by
        cases distinct_found es k _ h hfound with
        | tables _ _ hitems => exact hitems
      split at hd
      next s o inner hlast =>
        have hold := setOnce_of_table (hitems _ (List.mem_of_getLast? hlast))
        obtain ⟨inner', hinner, hput⟩ := Option.bind_eq_some_iff.mp hd
        obtain rfl := Option.some.inj hput
        refine setOnce_put es k _ h (.tables span _ fun n hn => ?_)
        obtain hn | hn := List.mem_append.mp hn
        · exact hitems n (List.dropLast_subset items hn)
        · rw [List.mem_singleton.mp hn]
          exact distinct_table _ _ _ (ih o inner inner' hold hinner)
      next => contradiction
    next => contradiction

theorem insertNew_sound (k : Key) (v : Node) (hv : v.Distinct) : Change.Sound (insertNew k v) := by
  intro origin es es' h hi
  unfold insertNew at hi
  split at hi
  · obtain rfl := Option.some.inj hi
    exact setOnce_put es k v h hv
  · contradiction

theorem assign_sound (path : Path) (v : Node) (hv : v.Distinct) :
    Change.Sound (assign path v) := by
  intro origin es es' h ha
  unfold assign at ha
  split at ha
  · contradiction
  next k _ =>
    refine descend_sound .dotted _ ?_ path.dropLast origin es es' h ha
    intro o es es' h hi
    dsimp only at hi
    split at hi
    · exact insertNew_sound k v hv o es es' h hi
    · contradiction

/-- The values of a document have no key twice. -/
theorem ofExpression_distinct (fuel : Nat) :
    (∀ e n, ofExpression fuel e = some n → n.Distinct) ∧
    (∀ es ns, ofItems fuel es = some ns → ∀ n ∈ ns, n.Distinct) ∧
    ∀ es out out', SetOnce out → ofEntries fuel es out = some out' → SetOnce out' := by
  induction fuel with
  | zero => refine ⟨?_, ?_, ?_⟩ <;> intros <;> contradiction
  | succ fuel ih =>
    obtain ⟨hexpression, hitems, hentries⟩ := ih
    refine ⟨fun e n h => ?_, fun es ns h => ?_, fun es out out' hout h => ?_⟩
    · cases e with
      | scalar span v =>
        obtain rfl := Option.some.inj h
        exact .scalar span v
      | array span items =>
        obtain ⟨ns, hns, hn⟩ := Option.bind_eq_some_iff.mp h
        obtain rfl := Option.some.inj hn
        exact .array span ns (hitems items ns hns)
      | inline span entries =>
        obtain ⟨es, hes, hn⟩ := Option.bind_eq_some_iff.mp h
        obtain rfl := Option.some.inj hn
        exact distinct_table span .inline es (hentries entries [] es setOnce_nil hes)
    · cases es with
      | nil =>
        obtain rfl := Option.some.inj h
        simp
      | cons e es =>
        obtain ⟨n, hn, h⟩ := Option.bind_eq_some_iff.mp h
        obtain ⟨rest, hrest, h⟩ := Option.bind_eq_some_iff.mp h
        obtain rfl := Option.some.inj h
        simpa using ⟨hexpression e n hn, hitems es rest hrest⟩
    · cases es with
      | nil =>
        obtain rfl := Option.some.inj h
        exact hout
      | cons e es =>
        obtain ⟨n, hn, h⟩ := Option.bind_eq_some_iff.mp h
        obtain ⟨mid, hmid, h⟩ := Option.bind_eq_some_iff.mp h
        exact hentries es mid out'
          (assign_sound e.1 n (hexpression e.2 n hn) .inline out mid hout hmid) h

theorem openTable_sound (span : Span) (k : Key) : Change.Sound (openTable span k) := by
  intro origin es es' h ho
  unfold openTable at ho
  split at ho
  next =>
    obtain rfl := Option.some.inj ho
    exact setOnce_put es k _ h (distinct_table _ _ _ setOnce_nil)
  next s inner hfound =>
    obtain rfl := Option.some.inj ho
    have hold := setOnce_of_table (distinct_found es k _ h hfound)
    exact setOnce_put _ k _ (setOnce_filter es _ h) (distinct_table _ _ _ hold)
  next => contradiction

theorem addTable_sound (span : Span) (k : Key) : Change.Sound (addTable span k) := by
  have hnew : Distinct (.table span .header []) := distinct_table _ _ _ setOnce_nil
  intro origin es es' h ha
  unfold addTable at ha
  split at ha
  next =>
    obtain rfl := Option.some.inj ha
    exact setOnce_put es k _ h (.tables span _ (by simpa using hnew))
  next s items hfound =>
    obtain rfl := Option.some.inj ha
    refine setOnce_put es k _ h (.tables s _ fun n hn => ?_)
    obtain hn | hn := List.mem_append.mp hn
    · cases distinct_found es k _ h hfound with
      | tables _ _ hitems => exact hitems n hn
    · rw [List.mem_singleton.mp hn]
      exact hnew
  next => contradiction

/-- A statement sets no key twice. -/
theorem carryOut_setOnce (fuel : Nat) (s t : State) (statement : Statement)
    (h : SetOnce s.root) (ht : carryOut fuel s statement = some t) : SetOnce t.root := by
  have hwithin (path : Path) (change : Change) (hc : change.Sound) (root : Entries)
      (hroot : within path change s.root = some root) : SetOnce root :=
    descend_sound .passed change hc path .header s.root root h hroot
  cases statement with
  | header span path =>
    simp only [carryOut] at ht
    split at ht
    · contradiction
    next k _ =>
      obtain ⟨root, hroot, ht⟩ := Option.bind_eq_some_iff.mp ht
      obtain rfl := Option.some.inj ht
      exact hwithin _ _ (openTable_sound span k) root hroot
  | arrayHeader span path =>
    simp only [carryOut] at ht
    split at ht
    · contradiction
    next k _ =>
      obtain ⟨root, hroot, ht⟩ := Option.bind_eq_some_iff.mp ht
      obtain rfl := Option.some.inj ht
      exact hwithin _ _ (addTable_sound span k) root hroot
  | assignment path e =>
    obtain ⟨v, hv, ht⟩ := Option.bind_eq_some_iff.mp ht
    obtain ⟨root, hroot, ht⟩ := Option.bind_eq_some_iff.mp ht
    obtain rfl := Option.some.inj ht
    exact hwithin _ _ (assign_sound path v ((ofExpression_distinct fuel).1 e v hv)) root hroot

/-- Statements that are carried out one after the other set no key twice. -/
theorem statements_setOnce (fuel : Nat) (statements : List Statement) (s t : State)
    (h : SetOnce s.root) (ht : statements.foldlM (carryOut fuel) s = some t) : SetOnce t.root := by
  induction statements generalizing s with
  | nil =>
    obtain rfl := Option.some.inj ht
    exact h
  | cons statement statements ih =>
    rw [List.foldlM_cons] at ht
    obtain ⟨mid, hmid, ht⟩ := Option.bind_eq_some_iff.mp ht
    exact ih mid (carryOut_setOnce fuel s mid statement h hmid) ht

/-- In a document that is read no key is set twice. -/
theorem parse_setOnce (text : String) (es : Entries) (h : parse text = some es) : SetOnce es := by
  obtain ⟨statements, -, h⟩ := Option.bind_eq_some_iff.mp h
  obtain ⟨s, hs, h⟩ := Option.bind_eq_some_iff.mp h
  obtain rfl := Option.some.inj h
  exact statements_setOnce _ statements {} s setOnce_nil hs

end CellRunner.Toml
