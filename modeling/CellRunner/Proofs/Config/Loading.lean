import Mathlib
import CellRunner.Proofs.Config.Sections
import CellRunner.Proofs.Session.Ventures
import CellRunner.Proofs.Utf8.Scan

/-!
# Loading a configuration

A document is read first and checked after: an unknown key or a value of another type is
reported before any fault of the values, and of these the first one. Without a file there are
the defaults, but a file that cannot be looked up is taken for one that is not there.
-/

set_option autoImplicit false

namespace CellRunner.Config

open Toml (Node Entries names SetOnce)

variable {σ : Type}

/-! ## Documents -/

/-- The entries of the table at a key; none when there is no table. -/
def table (doc : Entries) (key : String) : Entries :=
  match doc.find? (fun e => e.1.text == key) with
  | some (_, .table _ _ es) => es
  | _ => []

/-- The sections of a configuration are tables when they are there. -/
def Sectioned (doc : Entries) : Prop :=
  ∀ key ∈ ["toolchain", "workspace", "verification"], WhenSet doc key (∃ es, IsTable · es)

/-- What the values of a configuration have to meet. -/
structure Demands where
  compiler : String → Prop
  flag : String → Prop
  dir : String → Prop
  mode : Nat → Prop

/-- The keys of a document are known, and what it has there is of the right type and meets
the demands. -/
structure Admits (d : Demands) (doc : Entries) : Prop where
  sections : Known doc ["toolchain", "workspace", "verification"]
  toolchain : Known (table doc "toolchain") ["compiler", "baseline_flags"]
  workspace : Known (table doc "workspace") ["temp_dir"]
  verification : Known (table doc "verification") ["interpreter", "script_mode"]
  compiler : WhenSet (table doc "toolchain") "compiler" fun n => ∃ s, IsText n s ∧ d.compiler s
  flags : WhenSet (table doc "toolchain") "baseline_flags" fun n =>
    ∃ flags, IsTexts n flags ∧ ∀ flag ∈ flags, d.flag flag
  dir : WhenSet (table doc "workspace") "temp_dir" fun n => ∃ dir, IsText n dir ∧ d.dir dir
  interpreter : WhenSet (table doc "verification") "interpreter" fun n => ∃ s, IsText n s
  mode : WhenSet (table doc "verification") "script_mode" fun n =>
    ∃ mode, IsNumber n mode ∧ d.mode mode

/-- Types only: a mode is a word of 32 bits. -/
def typed : Demands := ⟨fun _ => True, fun _ => True, fun _ => True, (· < UInt32.size)⟩

/-- A string of blank characters only, or no character. -/
def Blank (s : String) : Prop := ∀ c ∈ s.toList, Text.isBlank c = true

/-- What can be used while the world is in a state. -/
def usable (w : World σ) (world : σ) : Demands :=
  ⟨(¬ Blank ·), (¬ Blank ·), (w.lookup world · = .ok .directory), (· ≤ 0o7777)⟩

/-- Each field is what the document has for it, or its own default. -/
structure Written (doc : Entries) (c : Config) : Prop where
  compiler : Setting (table doc "toolchain") "compiler" IsText "gcc" c.toolchain.compiler
  flags : Setting (table doc "toolchain") "baseline_flags" IsTexts defaultBaselineFlags
    c.toolchain.baselineFlags
  dir : Setting (table doc "workspace") "temp_dir" (fun n dir => ∃ s, IsText n s ∧ dir = some s)
    none c.workspace.tempDir
  interpreter : Setting (table doc "verification") "interpreter" IsText "/bin/bash"
    c.verification.interpreter
  mode : Setting (table doc "verification") "script_mode" IsNumber 0o777
    c.verification.scriptMode

/-! ## Reading -/

theorem table_eq {doc : Entries} (once : (names doc).Nodup) {e : Toml.Key × Node}
    (he : e ∈ doc) {es : Entries} (h : IsTable e.2 es) : table doc e.1.text = es := by
  obtain ⟨f, hf⟩ : ∃ f, doc.find? (fun f => f.1.text == e.1.text) = some f :=
    Option.isSome_iff_exists.mp (List.find?_isSome.mpr ⟨e, he, by simp⟩)
  have hfe : f = e := List.inj_on_of_nodup_map once (List.mem_of_find?_eq_some hf) he
    (by simpa using List.find?_some hf)
  obtain ⟨k, n⟩ := e
  obtain ⟨span, origin, rfl⟩ := h
  simp only [table, hf, hfe]

theorem table_absent (doc : Entries) (key : String) (h : key ∉ names doc) :
    table doc key = [] := by
  have hfind : doc.find? (fun e => e.1.text == key) = none := by
    simpa [names] using h
  rw [table, hfind]

theorem table_setOnce (doc : Entries) (key : String) (h : SetOnce doc) :
    SetOnce (table doc key) := by
  unfold table
  split
  next k span origin es hfound =>
    exact Toml.setOnce_of_table (h.inside _ (List.mem_of_find?_eq_some hfound))
  next => exact Toml.setOnce_nil

/-- What a section sets in a document is what its table sets. -/
theorem section_setting {α : Type} (s : Section α) (a b : α) {doc : Entries}
    (once : (names doc).Nodup) (key : String) (h : WhenSet doc key (∃ es, IsTable · es))
    (hb : Setting doc key (s.read · a = .ok ·) a b) :
    s.readEntries (table doc key) a = .ok b := by
  by_cases hkey : key ∈ names doc
  · obtain ⟨e, he, rfl⟩ := List.mem_map.mp hkey
    obtain ⟨es, hes⟩ := h e he rfl
    have hread := hb.1 e he rfl
    rw [table_eq once he hes]
    obtain ⟨span, origin, hes⟩ := hes
    rwa [hes] at hread
  · rw [table_absent doc key hkey, hb.2 hkey]
    rfl

/-- A section of a document is taken just when its table is. -/
theorem section_ok_iff {α : Type} (s : Section α) (a : α) {doc : Entries}
    (once : (names doc).Nodup) (key : String) (h : WhenSet doc key (∃ es, IsTable · es)) :
    WhenSet doc key (∃ b, s.read · a = .ok b) ↔ ∃ b, s.readEntries (table doc key) a = .ok b := by
  by_cases hkey : key ∈ names doc
  · obtain ⟨e, he, rfl⟩ := List.mem_map.mp hkey
    have hread (f : Toml.Key × Node) (hf : f ∈ doc) (hname : f.1.text = e.1.text) :
        s.read f.2 a = s.readEntries (table doc e.1.text) a := by
      obtain ⟨es, hes⟩ := h f hf hname
      rw [← hname, table_eq once hf hes]
      obtain ⟨span, origin, hes⟩ := hes
      rw [hes]
      rfl
    constructor
    · intro hset
      obtain ⟨b, hb⟩ := hset e he rfl
      exact ⟨b, (hread e he rfl).symm.trans hb⟩
    · rintro ⟨b, hb⟩ f hf hname
      exact ⟨b, (hread f hf hname).trans hb⟩
  · rw [table_absent doc key hkey]
    have hnone : WhenSet doc key (∃ b, s.read · a = .ok b) := by
      rintro e he rfl
      exact absurd (List.mem_map_of_mem he) hkey
    exact iff_of_true hnone ⟨a, rfl⟩

/-- A document is read just when it has known keys with values of their types. -/
theorem ofEntries_ok_iff (doc : Entries) (once : (names doc).Nodup) (hs : Sectioned doc) :
    (∃ c, ofEntries doc = .ok c) ↔ Admits typed doc := by
  have htables (key : String) (hkey : key ∈ ["toolchain", "workspace", "verification"]) :
      WhenSet doc key (∃ es, IsTable · es) := hs key hkey
  rw [ofEntries, root_ok_iff, section_ok_iff _ _ once _ (htables "toolchain" (by simp)),
    section_ok_iff _ _ once _ (htables "workspace" (by simp)),
    section_ok_iff _ _ once _ (htables "verification" (by simp)), toolchain_ok_iff,
    workspace_ok_iff, verification_ok_iff]
  constructor
  · rintro ⟨hkeys, ⟨ht, hcompiler, hflags⟩, ⟨hw, hdir⟩, hv, hinterpreter, hmode⟩
    exact ⟨hkeys, ht, hw, hv, by simpa [typed] using hcompiler, by simpa [typed] using hflags,
      by simpa [typed] using hdir, hinterpreter, hmode⟩
  · rintro ⟨hkeys, ht, hw, hv, hcompiler, hflags, hdir, hinterpreter, hmode⟩
    exact ⟨hkeys, ⟨ht, by simpa [typed] using hcompiler, by simpa [typed] using hflags⟩,
      ⟨hw, by simpa [typed] using hdir⟩, hv, hinterpreter, hmode⟩

/-- What is read is what is written. -/
theorem ofEntries_written (doc : Entries) (once : SetOnce doc) (hs : Sectioned doc) (c : Config)
    (h : ofEntries doc = .ok c) : Written doc c := by
  obtain ⟨ht, hw, hv⟩ := root_settings doc once.once {} c h
  have ht := section_setting _ _ _ once.once "toolchain" (hs _ (by simp)) ht
  have hw := section_setting _ _ _ once.once "workspace" (hs _ (by simp)) hw
  have hv := section_setting _ _ _ once.once "verification" (hs _ (by simp)) hv
  obtain ⟨hcompiler, hflags⟩ := toolchain_settings _ (table_setOnce doc _ once).once _ _ ht
  obtain ⟨hinterpreter, hmode⟩ := verification_settings _ (table_setOnce doc _ once).once _ _ hv
  exact ⟨hcompiler, hflags, workspace_settings _ (table_setOnce doc _ once).once _ _ hw,
    hinterpreter, hmode⟩

/-! ## Checking -/

/-- The values of a configuration meet the demands. -/
structure Demands.Met (d : Demands) (c : Config) : Prop where
  compiler : d.compiler c.toolchain.compiler
  flags : ∀ flag ∈ c.toolchain.baselineFlags, d.flag flag
  dir : ∀ dir, c.workspace.tempDir = some dir → d.dir dir
  mode : d.mode c.verification.scriptMode

/-- The first value that does not meet the demands, in the order compiler, flags, directory,
mode. -/
inductive FirstFault (d : Demands) (c : Config) : Invalid → Prop where
  | compiler (h : ¬ d.compiler c.toolchain.compiler) : FirstFault d c .emptyCompiler
  | flag (hcompiler : d.compiler c.toolchain.compiler) (front : List String) (flag : String)
      (back : List String) (hflags : c.toolchain.baselineFlags = front ++ flag :: back)
      (hfront : ∀ f ∈ front, d.flag f) (h : ¬ d.flag flag) : FirstFault d c (.emptyFlag flag)
  | dir (hcompiler : d.compiler c.toolchain.compiler)
      (hflags : ∀ flag ∈ c.toolchain.baselineFlags, d.flag flag) (dir : String)
      (hdir : c.workspace.tempDir = some dir) (h : ¬ d.dir dir) : FirstFault d c (.noDirectory dir)
  | mode (hcompiler : d.compiler c.toolchain.compiler)
      (hflags : ∀ flag ∈ c.toolchain.baselineFlags, d.flag flag)
      (hdir : ∀ dir, c.workspace.tempDir = some dir → d.dir dir)
      (h : ¬ d.mode c.verification.scriptMode) :
      FirstFault d c (.scriptMode c.verification.scriptMode)

/-- A configuration that is written in a document meets demands just when the document does. -/
theorem admits_iff_met (d : Demands) (hdefaults : d.Met {}) (doc : Entries) (c : Config)
    (hc : Written doc c) (ht : Admits typed doc) : Admits d doc ↔ d.Met c := by
  have hcompiler := setting_meets_iff hc.compiler isText_unique d.compiler hdefaults.compiler
  have hflags := setting_meets_iff hc.flags isTexts_unique (∀ flag ∈ ·, d.flag flag)
    hdefaults.flags
  have hdir := setting_meets_iff hc.dir
    (by
      rintro n _ _ ⟨s, hs, rfl⟩ ⟨s', hs', rfl⟩
      rw [isText_unique hs hs'])
    (∀ dir, · = some dir → d.dir dir) hdefaults.dir
  have hmode := setting_meets_iff hc.mode isNumber_unique d.mode hdefaults.mode
  constructor
  · intro h
    refine ⟨hcompiler.mpr h.compiler, hflags.mpr h.flags, hdir.mpr ?_, hmode.mpr h.mode⟩
    simpa using h.dir
  · rintro ⟨h1, h2, h3, h4⟩
    exact ⟨ht.sections, ht.toolchain, ht.workspace, ht.verification, hcompiler.mp h1,
      hflags.mp h2, by simpa using hdir.mp h3, ht.interpreter, hmode.mp h4⟩

theorem isBlankText_iff (s : String) : Text.isBlankText s = true ↔ Blank s := by
  simp [Text.isBlankText, Blank]

theorem not_isBlankText_iff (s : String) : Text.isBlankText s = false ↔ ¬ Blank s := by
  rw [← isBlankText_iff, Bool.not_eq_true]

theorem isDirectory_iff (w : World σ) (world : σ) (dir : String) :
    isDirectory w world dir = true ↔ w.lookup world dir = .ok .directory := by
  unfold isDirectory
  split
  next kind h => simp [h]
  next e h => simp [h]

/-- The defaults can be used in every state of the world. -/
theorem usable_defaults (w : World σ) (world : σ) : (usable w world).Met {} := by
  have hflags : ∀ flag ∈ defaultBaselineFlags, Text.isBlankText flag = false := by decide
  refine ⟨?_, fun flag h => ?_, fun dir h => ?_, ?_⟩
  · exact (not_isBlankText_iff "gcc").mp (by decide)
  · exact (not_isBlankText_iff flag).mp (hflags flag h)
  · cases h
  · show 0o777 ≤ 0o7777
    decide

/-- No fault when all demands are met, and else the first one. -/
def Verdict (d : Demands) (c : Config) : Option Invalid → Prop
  | none => d.Met c
  | some f => FirstFault d c f

theorem fault_verdict (w : World σ) (world : σ) (c : Config) :
    Verdict (usable w world) c (c.fault? (isDirectory w world)) := by
  unfold fault?
  split
  next hcompiler => exact .compiler (not_not.mpr ((isBlankText_iff _).mp hcompiler))
  next hcompiler =>
    have hcompiler : ¬ Blank c.toolchain.compiler := (isBlankText_iff _).not.mp hcompiler
    split
    next flag hflag =>
      obtain ⟨hblank, front, back, hflags, hfront⟩ := List.find?_eq_some_iff_append.mp hflag
      refine .flag hcompiler front flag back hflags (fun f hf => ?_)
        (not_not.mpr ((isBlankText_iff _).mp hblank))
      exact (not_isBlankText_iff f).mp (by simpa using hfront f hf)
    next hflags =>
      have hflags : ∀ flag ∈ c.toolchain.baselineFlags, ¬ Blank flag := fun flag hflag =>
        (isBlankText_iff flag).not.mp (List.find?_eq_none.mp hflags flag hflag)
      split
      next dir hdir =>
        obtain ⟨hdir, hnone⟩ := Option.filter_eq_some_iff.mp hdir
        refine .dir hcompiler hflags dir hdir ((isDirectory_iff w world dir).not.mp ?_)
        simpa using hnone
      next hdir =>
        have hdir : ∀ dir, c.workspace.tempDir = some dir →
            w.lookup world dir = .ok .directory := by
          intro dir hset
          rw [hset, Option.filter_eq_none_iff] at hdir
          exact (isDirectory_iff w world dir).mp (by simpa using hdir dir rfl)
        split
        next hmode => exact .mode hcompiler hflags hdir (Nat.not_le.mpr hmode)
        next hmode => exact ⟨hcompiler, hflags, hdir, Nat.not_lt.mp hmode⟩

theorem firstFault_not_met (d : Demands) (c : Config) (f : Invalid) (h : FirstFault d c f) :
    ¬ d.Met c := by
  intro hmet
  cases h with
  | compiler h => exact h hmet.compiler
  | flag _ front flag back hflags _ h => exact h (hmet.flags flag (by simp [hflags]))
  | dir _ _ dir hdir h => exact h (hmet.dir dir hdir)
  | mode _ _ _ h => exact h hmet.mode

/-! ## Files -/

/-- What a path holds: a text that is a document. -/
structure Holds (w : World σ) (world : σ) (path source : String) (doc : Entries) : Prop where
  text : ∃ bytes, w.read world path = .ok bytes ∧ Utf8.text bytes = .ok source
  document : Toml.parse source = some doc

theorem load_document (w : World σ) (world : σ) (path source : String) (doc : Entries)
    (h : Holds w world path source doc) :
    load w world path = (ofEntries doc).mapError (.tomlSchema source ·) := by
  obtain ⟨bytes, hread, htext⟩ := h.text
  simp only [load, hread, ofBytes, htext, h.document]
  cases ofEntries doc <;> rfl

theorem loadAndValidate_unread (w : World σ) (world : σ) (path source : String) (doc : Entries)
    (h : Holds w world path source doc) (f : SchemaFault) (hf : ofEntries doc = .error f) :
    loadAndValidate w world path = .error (.tomlSchema source f) := by
  rw [loadAndValidate, load_document w world path source doc h, hf]
  rfl

theorem loadAndValidate_read (w : World σ) (world : σ) (path source : String) (doc : Entries)
    (h : Holds w world path source doc) (c : Config) (hc : ofEntries doc = .ok c) :
    loadAndValidate w world path = validate w world c := by
  rw [loadAndValidate, load_document w world path source doc h, hc]
  rfl

/-- What can be used is of the right type. -/
theorem admits_typed (w : World σ) (world : σ) (doc : Entries)
    (h : Admits (usable w world) doc) : Admits typed doc :=
  { h with
    compiler := fun e he hkey => (h.compiler e he hkey).imp fun s hs => ⟨hs.1, trivial⟩
    flags := fun e he hkey => (h.flags e he hkey).imp fun ss hs => ⟨hs.1, fun _ _ => trivial⟩
    dir := fun e he hkey => (h.dir e he hkey).imp fun s hs => ⟨hs.1, trivial⟩
    mode := fun e he hkey => (h.mode e he hkey).imp fun m hm =>
      ⟨hm.1, Nat.lt_of_le_of_lt hm.2 (by decide)⟩ }

theorem not_ok_of_error {α : Type} {r : Except Fault α} {f : Fault} (h : r = .error f) :
    ∀ c, r ≠ .ok c := by
  rintro c hc
  rw [h] at hc
  cases hc

/-- A document whose sections are tables is accepted just when its keys are known and what it
has there is of the right type and can be used; then each field is what is written or its own
default. Otherwise the first thing that is reported is an unknown key or a value of another
type, even one that is beyond 32 bits, and after these the first value that cannot be used. -/
theorem loadAndValidate_document (w : World σ) (world : σ) (path source : String)
    (doc : Entries) (h : Holds w world path source doc) (hs : Sectioned doc) :
    ((∃ c, loadAndValidate w world path = .ok c) ↔ Admits (usable w world) doc) ∧
    (∀ c, loadAndValidate w world path = .ok c → Written doc c) ∧
    (¬ Admits typed doc → ∃ f, loadAndValidate w world path = .error (.tomlSchema source f)) ∧
    (Admits typed doc → ¬ Admits (usable w world) doc → ∃ c f, Written doc c ∧
      FirstFault (usable w world) c f ∧ loadAndValidate w world path = .error (.config f)) := by
  have once := Toml.parse_setOnce source doc h.document
  have htyped := ofEntries_ok_iff doc once.once hs
  cases hc : ofEntries doc with
  | error f =>
    have hresult := loadAndValidate_unread w world path source doc h f hc
    have hrefused := not_ok_of_error hresult
    have hnot : ¬ Admits typed doc := fun ht => by
      obtain ⟨c, hok⟩ := htyped.mpr ht
      cases hok.symm.trans hc
    refine ⟨⟨?_, fun hu => absurd (admits_typed w world doc hu) hnot⟩, ?_,
      fun _ => ⟨f, hresult⟩, fun ht => absurd ht hnot⟩
    · exact fun ⟨c, hok⟩ => absurd hok (hrefused c)
    · exact fun c hok => absurd hok (hrefused c)
  | ok c =>
    have ht : Admits typed doc := htyped.mp ⟨c, hc⟩
    have hwritten := ofEntries_written doc once hs c hc
    have hmet := admits_iff_met (usable w world) (usable_defaults w world) doc c hwritten ht
    have hverdict := fault_verdict w world c
    rw [loadAndValidate_read w world path source doc h c hc, validate]
    cases hf : c.fault? (isDirectory w world) with
    | none =>
      rw [hf] at hverdict
      have hu : Admits (usable w world) doc := hmet.mpr hverdict
      refine ⟨⟨fun _ => hu, fun _ => ⟨c, rfl⟩⟩, fun d hd => ?_, fun hn => absurd ht hn,
        fun _ hn => absurd hu hn⟩
      obtain rfl := Except.ok.inj hd
      exact hwritten
    | some f =>
      rw [hf] at hverdict
      have hnot : ¬ Admits (usable w world) doc :=
        hmet.not.mpr (firstFault_not_met _ c f hverdict)
      refine ⟨⟨fun ⟨d, hd⟩ => ?_, fun hu => absurd hu hnot⟩, fun d hd => ?_,
        fun hn => absurd ht hn, fun _ _ => ⟨c, f, hwritten, hverdict, rfl⟩⟩ <;> cases hd

/-- A world in which every file has this text. -/
def withText (source : String) : World Nat :=
  { World.granting fun _ => 0 with read := fun _ _ => .ok (Utf8.encode source) }

/-- A compiler that is blank, and a mode beyond 32 bits after it. -/
def mixedText : String := "toolchain.compiler = \"\"\nverification.script_mode = 4294967296\n"

def mixedDocument : Entries :=
  [(⟨"toolchain", 0, 9⟩, .table ⟨0, 9⟩ .dotted
      [(⟨"compiler", 10, 18⟩, .scalar ⟨21, 23⟩ (.string ""))]),
    (⟨"verification", 24, 36⟩, .table ⟨24, 36⟩ .dotted
      [(⟨"script_mode", 37, 48⟩, .scalar ⟨51, 61⟩ (.integer 4294967296))])]

/-- The mode is reported. -/
theorem mixedDocument_reported :
    Holds (withText mixedText) 0 defaultPath mixedText mixedDocument ∧
    Sectioned mixedDocument ∧ ¬ Admits typed mixedDocument ∧
    ∃ f, loadAndValidate (withText mixedText) 0 defaultPath = .error (.tomlSchema mixedText f) := by
  have hholds : Holds (withText mixedText) 0 defaultPath mixedText mixedDocument :=
    ⟨⟨Utf8.encode mixedText, rfl, by simp [Utf8.text, Utf8.scan_encode]⟩, by cbv⟩
  have hsections : Sectioned mixedDocument := by
    simp [Sectioned, WhenSet, mixedDocument, IsTable]
  have hwide : ¬ Admits typed mixedDocument := by
    intro h
    have hmode := h.mode
    simp [table, mixedDocument, WhenSet, IsNumber, typed, UInt32.size] at hmode
    omega
  exact ⟨hholds, hsections, hwide, (loadAndValidate_document (withText mixedText) 0 defaultPath
    mixedText mixedDocument hholds hsections).2.2.1 hwide⟩

/-! ## Files that are not there -/

theorem validate_met (w : World σ) (world : σ) (c : Config) (h : (usable w world).Met c) :
    validate w world c = .ok c := by
  have hverdict := fault_verdict w world c
  unfold validate
  cases hf : c.fault? (isDirectory w world) with
  | none => rfl
  | some f =>
    rw [hf] at hverdict
    exact absurd h (firstFault_not_met _ c f hverdict)

theorem loadOrDefault_eq (w : World σ) (world : σ) (path : String) :
    loadOrDefault w world path =
      (match w.lookup world path with
        | .ok _ => loadAndValidate w world path
        | .error _ => .ok {}) := by
  unfold loadOrDefault isThere
  cases w.lookup world path with
  | ok kind => rfl
  | error e => exact validate_met w world {} (usable_defaults w world)

theorem loadOrDefault_absent (w : World σ) (world : σ) (path : String) (e : SystemError)
    (h : w.lookup world path = .error e) : loadOrDefault w world path = .ok {} := by
  rw [loadOrDefault_eq, h]

/-- What is promised for a path: the defaults when it does not exist, and else what loading it
gives. -/
def promised (w : World σ) (world : σ) (path : String) : Except Fault Config :=
  match w.lookup world path with
  | .error .noEntry => .ok {}
  | _ => loadAndValidate w world path

/-- The defaults stand in for every path that cannot be looked up. So the promise is kept just
when a path that cannot be looked up does not exist or holds the defaults; when it cannot be
read either, the defaults hide this fault. -/
theorem loadOrDefault_promised (w : World σ) (world : σ) (path : String) :
    loadOrDefault w world path =
      (match w.lookup world path with
        | .ok _ => loadAndValidate w world path
        | .error _ => .ok {}) ∧
    (loadOrDefault w world path = promised w world path ↔
      ∀ e, w.lookup world path = .error e →
        e = .noEntry ∨ loadAndValidate w world path = .ok {}) ∧
    ∀ e f, w.lookup world path = .error e → e ≠ .noEntry → w.read world path = .error f →
      loadOrDefault w world path = .ok {} ∧ promised w world path = .error (.io f) := by
  have hother (e : SystemError) (hlookup : w.lookup world path = .error e) (he : e ≠ .noEntry) :
      promised w world path = loadAndValidate w world path := by
    unfold promised
    split
    next h => cases hlookup.symm.trans h; contradiction
    next => rfl
  refine ⟨loadOrDefault_eq w world path, ?_, fun e f hlookup he hread =>
    ⟨loadOrDefault_absent w world path e hlookup, ?_⟩⟩
  · cases hlookup : w.lookup world path with
    | ok kind => simp [loadOrDefault_eq, promised, hlookup]
    | error e =>
      rw [loadOrDefault_absent w world path e hlookup]
      by_cases he : e = .noEntry
      · simp [promised, hlookup, he]
      · rw [hother e hlookup he]
        simp [he, eq_comm]
  · rw [hother e hlookup he, loadAndValidate, load, hread]

/-- A world that lets nobody into its directories. -/
def shut : World Nat :=
  { World.granting fun _ => 0 with
    lookup := fun _ _ => .error .accessDenied
    read := fun _ _ => .error (.system .accessDenied) }

/-- The defaults are taken although the file may be there. -/
theorem loadOrDefault_shut : shut.lookup 0 defaultPath = .error .accessDenied ∧
    loadAndValidate shut 0 defaultPath = .error (.io (.system .accessDenied)) ∧
    promised shut 0 defaultPath = .error (.io (.system .accessDenied)) ∧
    loadOrDefault shut 0 defaultPath = .ok {} :=
  ⟨rfl, rfl, rfl, loadOrDefault_absent shut 0 defaultPath .accessDenied rfl⟩

end CellRunner.Config
