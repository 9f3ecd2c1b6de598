import Mathlib.Data.List.Forall2
import CellRunner.Config.Load
import CellRunner.Proofs.Toml.Keys

/-!
# Tables of known keys

Which tables a section takes, and what each of its fields is afterwards: what the table has
at the key of the field, or its default.
-/

set_option autoImplicit false

namespace CellRunner.Config

open Toml (Node Entries names SetOnce)

/-! ## What nodes mean -/

def IsText (n : Node) (s : String) : Prop := ∃ span, n = .scalar span (.string s)

def IsArray (n : Node) (items : List Node) : Prop :=
  ∃ span, n = .array span items ∨ n = .tables span items

/-- An array of strings. -/
def IsTexts (n : Node) (ss : List String) : Prop :=
  ∃ items, IsArray n items ∧ List.Forall₂ IsText items ss

/-- An integer that is not negative. -/
def IsNumber (n : Node) (v : Nat) : Prop := ∃ span, n = .scalar span (.integer v)

def IsTable (n : Node) (es : Entries) : Prop := ∃ span origin, n = .table span origin es

theorem isText_unique : Relator.RightUnique IsText := by
  rintro n s s' ⟨span, rfl⟩ ⟨span', h⟩
  cases h
  rfl

theorem isArray_unique : Relator.RightUnique IsArray := by
  rintro n items items' ⟨span, rfl | rfl⟩ ⟨span', h | h⟩ <;> cases h <;> rfl

theorem isTexts_unique : Relator.RightUnique IsTexts := by
  rintro n ss ss' ⟨items, hn, hs⟩ ⟨items', hn', hs'⟩
  obtain rfl := isArray_unique hn hn'
  exact List.right_unique_forall₂' isText_unique hs hs'

theorem isNumber_unique : Relator.RightUnique IsNumber := by
  rintro n v v' ⟨span, rfl⟩ ⟨span', h⟩
  cases h
  rfl

theorem bind_ok_iff {α β ε : Type} (x : Except ε α) (f : α → Except ε β) (b : β) :
    (x >>= f) = .ok b ↔ ∃ a, x = .ok a ∧ f a = .ok b := by
  cases x <;> simp [bind, Except.bind]

theorem mapM_ok_iff {α β ε : Type} (f : α → Except ε β) (l : List α) (r : List β) :
    l.mapM f = .ok r ↔ List.Forall₂ (fun a b => f a = .ok b) l r := by
  induction l generalizing r with
  | nil => simp [pure, Except.pure, eq_comm]
  | cons a l ih =>
    rw [List.mapM_cons, bind_ok_iff, List.forall₂_cons_left_iff]
    simp only [bind_ok_iff, ih, pure, Except.pure, Except.ok.injEq, eq_comm (b := r)]
    constructor
    · rintro ⟨b, hb, bs, hbs, hr⟩
      exact ⟨b, bs, hb, hbs, hr⟩
    · rintro ⟨b, bs, hb, hbs, hr⟩
      exact ⟨b, hb, bs, hbs, hr⟩

theorem text_ok_iff (n : Node) (expected s : String) : text n expected = .ok s ↔ IsText n s := by
  unfold text
  split
  next span s' => simp [IsText]
  next hn =>
    constructor
    · intro h
      cases h
    · rintro ⟨span, rfl⟩
      exact absurd rfl (hn span s)

theorem strings_ok_iff (n : Node) (ss : List String) : strings n = .ok ss ↔ IsTexts n ss := by
  have hitems (items : List Node) :
      items.mapM string = .ok ss ↔ List.Forall₂ IsText items ss := by
    rw [mapM_ok_iff]
    simp only [string, text_ok_iff]
  unfold strings
  split
  next span items => simp [hitems, IsTexts, IsArray]
  next span items => simp [hitems, IsTexts, IsArray]
  next harray htables =>
    constructor
    · intro h
      cases h
    · rintro ⟨items, ⟨span, rfl | rfl⟩, -⟩
      · exact absurd rfl (harray span items)
      · exact absurd rfl (htables span items)

theorem word_ok_iff (n : Node) (v : Nat) :
    word n = .ok v ↔ IsNumber n v ∧ v < UInt32.size := by
  have hsize : Int.pow 2 32 = UInt32.size := rfl
  unfold word
  split
  next span m =>
    have hnumber : IsNumber (.scalar span (.integer m)) v ↔ m = v := by simp [IsNumber]
    rw [hnumber]
    split
    next h =>
      simp only [Bool.and_eq_true, decide_eq_true_eq, hsize] at h
      rw [Except.ok.injEq]
      omega
    next h =>
      simp only [Bool.and_eq_true, decide_eq_true_eq, hsize] at h
      refine ⟨fun hx => ?_, fun hv => absurd hv (by omega)⟩
      split at hx <;> cases hx
  next hn =>
    refine ⟨fun h => ?_, ?_⟩
    · cases h
    · rintro ⟨⟨span, rfl⟩, -⟩
      exact absurd rfl (hn span v)

/-! ## Reading a table -/

/-- A table without any other keys. -/
def Known (es : Entries) (keys : List String) : Prop := ∀ e ∈ es, e.1.text ∈ keys

/-- What a table has at a key, when it has the key. -/
def WhenSet (es : Entries) (key : String) (p : Node → Prop) : Prop :=
  ∀ e ∈ es, e.1.text = key → p e.2

/-- A value is what a table has at a key, or the default when the key is absent. -/
def Setting {γ : Type} (es : Entries) (key : String) (Means : Node → γ → Prop)
    (default v : γ) : Prop :=
  WhenSet es key (Means · v) ∧ (key ∉ names es → v = default)

/-- A demand that the default meets is met by a value just when what is written meets it. -/
theorem setting_meets_iff {γ : Type} {es : Entries} {key : String} {Means : Node → γ → Prop}
    {default v : γ} (h : Setting es key Means default v) (unique : Relator.RightUnique Means)
    (p : γ → Prop) (hdefault : p default) :
    p v ↔ WhenSet es key fun n => ∃ u, Means n u ∧ p u := by
  constructor
  · exact fun hv e he hkey => ⟨v, h.1 e he hkey, hv⟩
  · intro hset
    by_cases hkey : key ∈ names es
    · obtain ⟨e, he, hkey⟩ := List.mem_map.mp hkey
      obtain ⟨u, hu, hp⟩ := hset e he hkey
      rwa [unique (h.1 e he hkey) hu]
    · rwa [h.2 hkey]

theorem insertByKey_perm (e : Toml.Key × Node) (es : Entries) :
    (insertByKey e es).Perm (e :: es) := by
  induction es with
  | nil => exact .refl _
  | cons f es ih =>
    unfold insertByKey
    split
    · exact .refl _
    · exact (ih.cons f).trans (.swap e f es)

theorem sortByKey_perm (es : Entries) : (sortByKey es).Perm es := by
  have hfold (out : Entries) :
      (es.foldl (fun out e => insertByKey e out) out).Perm (es ++ out) := by
    induction es generalizing out with
    | nil => exact .refl _
    | cons e es ih =>
      exact (ih _).trans (((insertByKey_perm e out).append_left es).trans List.perm_middle)
  simpa [sortByKey] using hfold []

theorem foldlM_ok_iff {α β ε : Type} (f : β → α → Except ε β) (ok : α → Prop)
    (h : ∀ b a, (∃ c, f b a = .ok c) ↔ ok a) (l : List α) (b : β) :
    (∃ c, l.foldlM f b = .ok c) ↔ ∀ a ∈ l, ok a := by
  induction l generalizing b with
  | nil => simp [pure, Except.pure]
  | cons a l ih =>
    simp only [List.foldlM_cons, bind_ok_iff, List.forall_mem_cons]
    constructor
    · rintro ⟨c, mid, hmid, hc⟩
      exact ⟨(h b a).mp ⟨mid, hmid⟩, (ih mid).mp ⟨c, hc⟩⟩
    · rintro ⟨ha, hl⟩
      obtain ⟨mid, hmid⟩ := (h b a).mpr ha
      obtain ⟨c, hc⟩ := (ih mid).mpr hl
      exact ⟨c, mid, hmid, hc⟩

namespace Section

variable {α γ : Type}

theorem readEntry_ok_iff (s : Section α) (a b : α) (e : Toml.Key × Node) :
    s.readEntry a e = .ok b ↔
      ∃ f, s.fields.find? (fun f => f.1 == e.1.text) = some f ∧ f.2 e.2 a = .ok b := by
  unfold readEntry
  split
  next f hf => simp [hf]
  next hf => simp [hf]

/-- The nodes that each field takes, whatever is set already. -/
def Take (fields : List (String × (Node → α → Checked α)))
    (kinds : List (String × (Node → Prop))) : Prop :=
  List.Forall₂ (fun f k => f.1 = k.1 ∧ ∀ n a, (∃ b, f.2 n a = .ok b) ↔ k.2 n) fields kinds

theorem take_names (fields : List (String × (Node → α → Checked α)))
    (kinds : List (String × (Node → Prop))) (h : Take fields kinds) :
    kinds.map (·.1) = fields.map (·.1) := by
  induction h with
  | nil => rfl
  | cons hfk _ ih => rw [List.map_cons, List.map_cons, ih, hfk.1]

theorem take_iff (fields : List (String × (Node → α → Checked α)))
    (kinds : List (String × (Node → Prop))) (h : Take fields kinds)
    (once : (fields.map (·.1)).Nodup) (key : String) (n : Node) (a : α) :
    (∃ b f, fields.find? (fun f => f.1 == key) = some f ∧ f.2 n a = .ok b) ↔
      key ∈ fields.map (·.1) ∧ ∀ k ∈ kinds, key = k.1 → k.2 n := by
  induction h with
  | nil => simp
  | @cons f k fields kinds hfk hrest ih =>
    obtain ⟨hnew, once⟩ := List.nodup_cons.mp once
    by_cases hkey : f.1 = key
    · subst hkey
      have hother : ∀ l ∈ kinds, f.1 = l.1 → l.2 n := by
        intro l hl heq
        rw [← take_names fields kinds hrest] at hnew
        exact absurd (List.mem_map.mpr ⟨l, hl, heq.symm⟩) hnew
      simp only [List.find?_cons, beq_self_eq_true, Option.some.injEq, exists_eq_left',
        hfk.2 n a, List.map_cons, List.mem_cons, true_or, true_and, forall_eq_or_imp, hfk.1,
        forall_true_left]
      rw [← hfk.1]
      exact ⟨fun hk => ⟨hk, hother⟩, And.left⟩
    · have hk : key ≠ k.1 := fun hk => hkey (hfk.1.trans hk.symm)
      have hne : key ≠ f.1 := fun h => hkey h.symm
      simp only [List.find?_cons, beq_eq_false_iff_ne.mpr hkey, ih once, List.map_cons,
        List.mem_cons, hne, false_or, forall_eq_or_imp, hk, false_imp_iff, true_and]

/-- A section takes the tables without unknown keys that have, at each key, what its field
takes. -/
theorem readEntries_ok_iff (s : Section α) (kinds : List (String × (Node → Prop)))
    (once : s.names.Nodup) (h : Take s.fields kinds) (es : Entries) (a : α) :
    (∃ b, s.readEntries es a = .ok b) ↔
      Known es (kinds.map (·.1)) ∧ ∀ k ∈ kinds, WhenSet es k.1 k.2 := by
  have hentry (a : α) (e : Toml.Key × Node) : (∃ b, s.readEntry a e = .ok b) ↔
      e.1.text ∈ kinds.map (·.1) ∧ ∀ k ∈ kinds, e.1.text = k.1 → k.2 e.2 := by
    simp only [readEntry_ok_iff, take_names s.fields kinds h]
    exact take_iff s.fields kinds h once e.1.text e.2 a
  rw [readEntries, foldlM_ok_iff _ _ hentry]
  simp only [(sortByKey_perm es).mem_iff, Known, WhenSet]
  constructor
  · exact fun hall => ⟨fun e he => (hall e he).1, fun k hk e he => (hall e he).2 k hk⟩
  · exact fun ⟨hknown, hset⟩ e he => ⟨hknown e he, fun k hk => hset k hk e he⟩

/-- A field that alone sets a part of the value, to what the node at its key means. -/
structure Sets (s : Section α) (key : String) (get : α → γ) (Means : Node → γ → Prop) :
    Prop where
  own : ∀ f ∈ s.fields, f.1 = key → ∀ n a b, f.2 n a = .ok b → Means n (get b)
  others : ∀ f ∈ s.fields, f.1 ≠ key → ∀ n a b, f.2 n a = .ok b → get b = get a

/-- The part is what the table has at the key, or what it was before. -/
theorem readEntries_setting {s : Section α} {key : String} {get : α → γ}
    {Means : Node → γ → Prop} (h : s.Sets key get Means) (es : Entries)
    (once : (Toml.names es).Nodup) (a b : α) (hb : s.readEntries es a = .ok b) :
    Setting es key Means (get a) (get b) := by
  have hentry (a b : α) (e : Toml.Key × Node) (he : s.readEntry a e = .ok b) :
      (e.1.text = key → Means e.2 (get b)) ∧ (e.1.text ≠ key → get b = get a) := by
    obtain ⟨f, hf, hread⟩ := (readEntry_ok_iff s a b e).mp he
    have hname : f.1 = e.1.text := by simpa using List.find?_some hf
    rw [← hname]
    exact ⟨fun hkey => h.own f (List.mem_of_find?_eq_some hf) hkey _ _ _ hread,
      fun hkey => h.others f (List.mem_of_find?_eq_some hf) hkey _ _ _ hread⟩
  -- the entry of the key, if there is one, is the last that changes the part
  have hfold (es : Entries) (once : (Toml.names es).Nodup) (a : α)
      (hb : es.foldlM s.readEntry a = .ok b) : Setting es key Means (get a) (get b) := by
    induction es generalizing a with
    | nil =>
      obtain rfl := Except.ok.inj hb
      exact ⟨by simp [WhenSet], fun _ => rfl⟩
    | cons e es ih =>
      rw [List.foldlM_cons, bind_ok_iff] at hb
      obtain ⟨mid, hmid, hb⟩ := hb
      obtain ⟨hnew, once⟩ := List.nodup_cons.mp once
      obtain ⟨hset, habsent⟩ := ih once mid hb
      obtain ⟨hown, hother⟩ := hentry a mid e hmid
      refine ⟨List.forall_mem_cons.mpr ⟨fun hkey => ?_, hset⟩, fun hkey => ?_⟩
      · rw [habsent (hkey ▸ hnew)]
        exact hown hkey
      · obtain ⟨hne, hkey⟩ := not_or.mp (List.mem_cons.not.mp hkey)
        rw [habsent hkey, hother (Ne.symm hne)]
  obtain ⟨hset, habsent⟩ := hfold (sortByKey es)
    (((sortByKey_perm es).map _).nodup_iff.mpr once) a hb
  refine ⟨fun e he => hset e ((sortByKey_perm es).mem_iff.mpr he), fun hkey => habsent ?_⟩
  rwa [Toml.names, ((sortByKey_perm es).map _).mem_iff]

end Section

/-! ## The sections of a configuration -/

theorem toolchain_ok_iff (es : Entries) (t : Toolchain) :
    (∃ u, toolchainSection.readEntries es t = .ok u) ↔
      Known es ["compiler", "baseline_flags"] ∧ WhenSet es "compiler" (∃ s, IsText · s) ∧
        WhenSet es "baseline_flags" (∃ ss, IsTexts · ss) := by
  have h := toolchainSection.readEntries_ok_iff
    [("compiler", (∃ s, IsText · s)), ("baseline_flags", (∃ ss, IsTexts · ss))] (by decide)
    (by simp [toolchainSection, Section.Take, bind_ok_iff, string, text_ok_iff, strings_ok_iff,
      pure, Except.pure]) es t
  simpa using h

theorem workspace_ok_iff (es : Entries) (w : Workspace) :
    (∃ u, workspaceSection.readEntries es w = .ok u) ↔
      Known es ["temp_dir"] ∧ WhenSet es "temp_dir" (∃ dir, IsText · dir) := by
  have h := workspaceSection.readEntries_ok_iff [("temp_dir", (∃ s, IsText · s))] (by decide)
    (by simp [workspaceSection, Section.Take, bind_ok_iff, path, text_ok_iff, pure,
      Except.pure]) es w
  simpa using h

theorem verification_ok_iff (es : Entries) (v : Verification) :
    (∃ u, verificationSection.readEntries es v = .ok u) ↔
      Known es ["interpreter", "script_mode"] ∧ WhenSet es "interpreter" (∃ s, IsText · s) ∧
        WhenSet es "script_mode" (fun n => ∃ mode, IsNumber n mode ∧ mode < UInt32.size) := by
  have h := verificationSection.readEntries_ok_iff [("interpreter", (∃ s, IsText · s)),
      ("script_mode", fun n => ∃ mode, IsNumber n mode ∧ mode < UInt32.size)] (by decide)
    (by simp [verificationSection, Section.Take, bind_ok_iff, string, text_ok_iff, word_ok_iff,
      pure, Except.pure]) es v
  simpa using h

theorem root_ok_iff (es : Entries) (c : Config) :
    (∃ d, rootSection.readEntries es c = .ok d) ↔
      Known es ["toolchain", "workspace", "verification"] ∧
        WhenSet es "toolchain" (∃ t, toolchainSection.read · {} = .ok t) ∧
        WhenSet es "workspace" (∃ w, workspaceSection.read · {} = .ok w) ∧
        WhenSet es "verification" (∃ v, verificationSection.read · {} = .ok v) := by
  have h := rootSection.readEntries_ok_iff
    [("toolchain", (∃ t, toolchainSection.read · {} = .ok t)),
      ("workspace", (∃ w, workspaceSection.read · {} = .ok w)),
      ("verification", (∃ v, verificationSection.read · {} = .ok v))] (by decide)
    (by simp [rootSection, Section.Take, bind_ok_iff, pure, Except.pure]) es c
  simpa using h

theorem toolchain_settings (es : Entries) (once : (names es).Nodup) (t u : Toolchain)
    (h : toolchainSection.readEntries es t = .ok u) :
    Setting es "compiler" IsText t.compiler u.compiler ∧
      Setting es "baseline_flags" IsTexts t.baselineFlags u.baselineFlags := by
  constructor <;> refine Section.readEntries_setting ⟨?_, ?_⟩ es once t u h <;>
    simp +contextual [toolchainSection, bind_ok_iff, string, text_ok_iff, strings_ok_iff, pure,
      Except.pure]

theorem workspace_settings (es : Entries) (once : (names es).Nodup) (w u : Workspace)
    (h : workspaceSection.readEntries es w = .ok u) :
    Setting es "temp_dir" (fun n dir => ∃ s, IsText n s ∧ dir = some s) w.tempDir u.tempDir := by
  refine Section.readEntries_setting ⟨?_, ?_⟩ es once w u h <;>
    simp +contextual [workspaceSection, bind_ok_iff, path, text_ok_iff, pure, Except.pure]

theorem verification_settings (es : Entries) (once : (names es).Nodup) (v u : Verification)
    (h : verificationSection.readEntries es v = .ok u) :
    Setting es "interpreter" IsText v.interpreter u.interpreter ∧
      Setting es "script_mode" IsNumber v.scriptMode u.scriptMode := by
  constructor <;> refine Section.readEntries_setting ⟨?_, ?_⟩ es once v u h <;>
    simp only [verificationSection, List.forall_mem_cons, List.not_mem_nil, false_imp_iff,
      implies_true, and_true, ne_eq, not_true_eq_false, forall_const, String.reduceEq,
      not_false_eq_true, true_and, bind_ok_iff, string, text_ok_iff, word_ok_iff, pure,
      Except.pure, Except.ok.injEq]
  · rintro n a b ⟨s, hs, rfl⟩
    exact hs
  · rintro n a b ⟨mode, -, rfl⟩
    rfl
  · rintro n a b ⟨mode, ⟨hmode, -⟩, rfl⟩
    exact hmode
  · rintro n a b ⟨s, -, rfl⟩
    rfl

theorem root_settings (es : Entries) (once : (names es).Nodup) (c d : Config)
    (h : rootSection.readEntries es c = .ok d) :
    Setting es "toolchain" (toolchainSection.read · {} = .ok ·) c.toolchain d.toolchain ∧
      Setting es "workspace" (workspaceSection.read · {} = .ok ·) c.workspace d.workspace ∧
      Setting es "verification" (verificationSection.read · {} = .ok ·) c.verification
        d.verification := by
  refine ⟨?_, ?_, ?_⟩ <;> refine Section.readEntries_setting ⟨?_, ?_⟩ es once c d h <;>
    simp [rootSection, bind_ok_iff, pure, Except.pure]

end CellRunner.Config
