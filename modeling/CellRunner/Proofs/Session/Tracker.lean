import CellRunner.Proofs.Session.Removals

/-!
# The history of a tracker

Files are made and cleaned up in any order, while others change files as they like. Each file that
was made is tried to be removed once: by the first cleanup after its making, or else when the
tracker is dropped. What others put at a path after that is not touched.
-/

set_option autoImplicit false

namespace CellRunner

variable {σ κ γ : Type}

/-- What becomes of the places of a file system when a file is asked for. -/
inductive Creation (place : String → κ) (before : κ → Spot γ) :
    Except IoFault String → (κ → Spot γ) → Prop where
  | made (path : String) (content : γ) (after : κ → Spot γ) (fresh : before (place path) = .gone)
      (there : after (place path) = .file content)
      (elsewhere : ∀ j, j ≠ place path → after j = before j) :
      Creation place before (.ok path) after
  | refused (e : IoFault) : Creation place before (.error e) before

/-- Whatever it comes to, filling a file leaves a file, and changes no other place. -/
structure Filling (k : κ) (before after : κ → Spot γ) : Prop where
  still : ∀ content, before k = .file content → ∃ content', after k = .file content'
  elsewhere : ∀ j, j ≠ k → after j = before j

/-- A view of the file system of a world in which files are made, filled and removed. -/
structure FileSystem (w : World σ) (κ γ : Type) extends Places w κ γ where
  create (s : σ) (dir suffix : String) :
    Creation place (view s) (w.create s dir suffix).1 (view (w.create s dir suffix).2)
  fill (s : σ) (path : String) (contents : List UInt8) :
    Filling (place path) (view s) (view (w.fill s path contents).2)

/-- A file is where there was none, and nothing else changed. -/
structure FileSystem.Adds {w : World σ} (fs : FileSystem w κ γ) (path : String)
    (before after : κ → Spot γ) : Prop where
  fresh : before (fs.place path) = .gone
  there : ∃ content, after (fs.place path) = .file content
  elsewhere : ∀ j, j ≠ fs.place path → after j = before j

namespace TempFiles
open Act

/-- A file that is asked for is new, or nothing has changed. -/
theorem create_places (w : World σ) (fs : FileSystem w κ γ) (suffix : String)
    (contents : List UInt8) (s : Scene (Recording σ)) :
    (create w.recorded suffix contents).Traces s fun r t _ _ =>
      (∃ path, r = .ok path ∧
        fs.Adds path (fs.view s.world.world) (fs.view t.world.world)) ∨
      (∃ e, r = .error e) ∧ fs.view t.world.world = fs.view s.world.world := by
  refine traces_bind_get ?_
  have hmade := fs.create s.world.world s.files.dir suffix
  refine traces_bind_note _ (.create s.files.dir suffix)
    (w.create s.world.world s.files.dir suffix) rfl ?_
  generalize w.create s.world.world s.files.dir suffix = made at hmade ⊢
  obtain ⟨made, world⟩ := made
  cases made with
  | error e =>
    refine traces_bind_emit _ <| traces_fail _ (.inr ⟨⟨_, rfl⟩, ?_⟩)
    generalize hafter : fs.view world = after at hmade
    cases hmade
    exact hafter
  | ok path =>
    have hfill := fs.fill world path contents
    refine traces_bind_note _ (.fill path contents) (w.fill world path contents) rfl ?_
    generalize w.fill world path contents = done at hfill ⊢
    obtain ⟨done, filled⟩ := done
    generalize hafter : fs.view world = after at hmade hfill
    obtain ⟨_, content, _, fresh, there, elsewhere⟩ := hmade
    obtain ⟨content', hfile⟩ := hfill.still content there
    have hothers (j : κ) (hj : j ≠ fs.place path) :
        fs.view filled j = fs.view s.world.world j :=
      (hfill.elsewhere j hj).trans (elsewhere j hj)
    cases done with
    | ok _ =>
      refine traces_bind_modify _ [] rfl (by simp [Scene.deeds]) ?_
      exact traces_bind_emit _ <| traces_pure path
        (.inl ⟨path, rfl, fresh, ⟨content', hfile⟩, hothers⟩)
    | error e =>
      refine traces_bind (removeFile_places w fs.toPlaces path _) ?_ (by simp)
      rintro _ t _ _ ⟨v, -, -, hremoval⟩
      refine traces_fail _ (.inr ⟨⟨_, rfl⟩, ?_⟩)
      -- the place was empty before the file was made, and is again
      funext j
      by_cases hj : j = fs.place path
      · subst hj
        rw [fresh]
        refine Places.removal_empties hremoval ?_
        exact (congrArg Spot.cause? hfile).trans rfl
      · exact (Places.removal_frame hremoval j fun h => absurd h hj).trans (hothers j hj)

/-! ## Uses -/

/-- What happens to a tracker and to its files. -/
inductive Use (σ : Type) where
  | create (suffix : String) (contents : List UInt8)
  | cleanup
  /-- others change what there is -/
  | outside (change : σ → σ)

namespace Use

def isCleanup : Use σ → Bool
  | .cleanup => true
  | _ => false

/-- Others change what there is, and the record does not note it. -/
def recorded : Use σ → Use (Recording σ)
  | .create suffix contents => .create suffix contents
  | .cleanup => .cleanup
  | .outside change => .outside fun s => { s with world := change s.world }

end Use

/-- One use; a file that is made has a path. -/
def perform (w : World σ) : Use σ → Act σ (Option String)
  | .create suffix contents => do return some (← create w suffix contents)
  | .cleanup => do
    cleanup w
    return none
  | .outside change => do
    modify fun s => { s with world := change s.world }
    return none

theorem perform_mirrors (w : World σ) (u : Use σ) :
    Mirrors (perform w.recorded u.recorded) (perform w u) := by
  cases u with
  | create suffix contents =>
    exact mirrors_bind (create_mirrors w suffix contents) fun _ => mirrors_pure _
  | cleanup => exact mirrors_bind (cleanup_mirrors w) fun _ => mirrors_pure _
  | outside change =>
    exact mirrors_bind (mirrors_modify _ _ fun _ => rfl) fun _ => mirrors_pure _

/-- What a use comes to and asks of the world while some files are tracked, and the files that are
tracked after it. -/
inductive Lawful (dir : String) (tracked : List String) :
    Use σ → Except Stop (Option String) → List Deed → List String → Prop where
  | granted (suffix : String) (contents : List UInt8) (path : String) (ds : List Deed)
      (h : Attempt dir suffix contents ds (some path)) :
      Lawful dir tracked (.create suffix contents) (.ok (some path)) ds (tracked ++ [path])
  | refused (suffix : String) (contents : List UInt8) (e : Stop) (ds : List Deed)
      (h : Attempt dir suffix contents ds none) :
      Lawful dir tracked (.create suffix contents) (.error e) ds tracked
  | cleanup (r : Except Stop Unit) (ds : List Deed)
      (h : ds.map Deed.removed? = tracked.map some)
      (told : TellsFirst Deed.removalFailure? ds r) :
      Lawful dir tracked .cleanup (r.map fun _ => none) ds []
  | outside (change : σ → σ) : Lawful dir tracked (.outside change) (.ok none) [] tracked

theorem perform_traces (w : World σ) (u : Use σ) (s : Scene (Recording σ)) :
    (perform w.recorded u.recorded).Traces s fun r t _ ds => t.files.dir = s.files.dir ∧
      Lawful s.files.dir s.files.paths u r ds t.files.paths := by
  cases u with
  | create suffix contents =>
    refine traces_bind (create_traces w suffix contents s) ?_ ?_
    · rintro path t _ ds ⟨-, ⟨_, ⟨⟩, h, hfiles⟩ | ⟨⟨e, he⟩, -⟩⟩
      · refine traces_pure _ ?_
        rw [hfiles, List.append_nil]
        exact ⟨rfl, .granted suffix contents path ds h⟩
      · contradiction
    · rintro e t _ ds ⟨-, ⟨_, he, -⟩ | ⟨-, h, hfiles⟩⟩
      · contradiction
      · rw [hfiles]
        exact ⟨rfl, .refused suffix contents e ds h⟩
  | cleanup =>
    have hcleanup := traces_and (cleanup_traces w s) (cleanup_cleaned w s)
    refine traces_bind hcleanup ?_ ?_
    · rintro _ t _ ds ⟨⟨hfiles, -, h, -⟩, hr⟩
      refine traces_pure _ ?_
      rw [hfiles, List.append_nil]
      exact ⟨rfl, .cleanup (.ok ()) ds h (hr ▸ tellsFirst Deed.removalFailure? ds)⟩
    · rintro e t _ ds ⟨⟨hfiles, -, h, -⟩, hr⟩
      rw [hfiles]
      exact ⟨rfl, .cleanup (.error e) ds h (hr ▸ tellsFirst Deed.removalFailure? ds)⟩
  | outside change =>
    refine traces_bind_modify _ [] rfl (by simp [Scene.deeds]) ?_
    exact traces_pure _ ⟨rfl, .outside change⟩

/-- What a use does to a file system. -/
inductive Changes {w : World σ} (fs : FileSystem w κ γ) (s t : Scene (Recording σ)) :
    Use σ → Except Stop (Option String) → Prop where
  | granted (suffix : String) (contents : List UInt8) (path : String)
      (adds : fs.Adds path (fs.view s.world.world) (fs.view t.world.world)) :
      Changes fs s t (.create suffix contents) (.ok (some path))
  | refused (suffix : String) (contents : List UInt8) (e : Stop)
      (same : fs.view t.world.world = fs.view s.world.world) :
      Changes fs s t (.create suffix contents) (.error e)
  | cleanup (r : Except Stop (Option String))
      (sweeps : fs.Sweeps s.files.paths (fs.view s.world.world) (fs.view t.world.world)) :
      Changes fs s t .cleanup r
  | outside (change : σ → σ) (changed : t.world.world = change s.world.world) :
      Changes fs s t (.outside change) (.ok none)

theorem perform_places (w : World σ) (fs : FileSystem w κ γ) (u : Use σ)
    (s : Scene (Recording σ)) :
    (perform w.recorded u.recorded).Traces s fun r t _ _ => Changes fs s t u r := by
  cases u with
  | create suffix contents =>
    refine traces_bind (create_places w fs suffix contents s) ?_ ?_
    · rintro path t _ _ (⟨_, ⟨⟩, hadds⟩ | ⟨⟨e, he⟩, -⟩)
      · exact traces_pure _ (.granted suffix contents path hadds)
      · contradiction
    · rintro e t _ _ (⟨_, he, -⟩ | ⟨-, hsame⟩)
      · contradiction
      · exact .refused suffix contents e hsame
  | cleanup =>
    refine traces_bind (cleanup_places w fs.toPlaces s) ?_ ?_
    · rintro _ t _ _ ⟨hsweeps, -⟩
      exact traces_pure _ (.cleanup _ hsweeps)
    · rintro e t _ _ ⟨hsweeps, -⟩
      exact .cleanup _ hsweeps
  | outside change =>
    refine traces_bind_modify _ [] rfl (by simp [Scene.deeds]) ?_
    exact traces_pure _ (.outside change rfl)

/-! ## Histories -/

/-- A use, what it came to and the requests that were made in it. -/
structure Entry (σ : Type) where
  use : Use σ
  outcome : Except Stop (Option String)
  deeds : List Deed

/-- The path of the file that was made. -/
def Entry.path? (e : Entry σ) : Option String := e.outcome.toOption.join

/-- A tracker with its uses so far. -/
structure History (σ : Type) where
  entries : List (Entry σ) := []
  scene : Scene (Recording σ)

/-- One use more; whatever it comes to, the tracker can be used again. -/
def History.next (w : World σ) (h : History σ) (u : Use σ) : History σ :=
  let action := perform w.recorded u.recorded
  let scene := action.after h.scene
  let deeds := scene.deeds.drop h.scene.deeds.length
  { entries := h.entries ++ [{ use := u, outcome := action.outcome h.scene, deeds }], scene }

/-- The history of a tracker from its beginning. -/
def history (w : World σ) (dir : String) (world : σ) (us : List (Use σ)) : History σ :=
  us.foldl (History.next w) { scene := { world := { world }, files := { dir } } }

/-- The scene after some uses, whatever each of them came to. -/
def afterUses (w : World σ) (s : Scene σ) (us : List (Use σ)) : Scene σ :=
  us.foldl (fun s u => (perform w u).after s) s

/-- The files that were made, in order. -/
def granted (entries : List (Entry σ)) : List String := entries.filterMap Entry.path?

/-- The files that cleanups tried to remove, in order. -/
def attempted (entries : List (Entry σ)) : List String :=
  (entries.filter (·.use.isCleanup)).flatMap fun e => removed e.deeds

/-- The uses after the last cleanup. -/
def sinceCleanup (entries : List (Entry σ)) : List (Entry σ) :=
  (entries.reverse.takeWhile (!·.use.isCleanup)).reverse

theorem sinceCleanup_append (entries : List (Entry σ)) (e : Entry σ) :
    sinceCleanup (entries ++ [e]) =
      if e.use.isCleanup then [] else sinceCleanup entries ++ [e] := by
  refine (reverse_takeWhile_snoc _ entries e).trans ?_
  cases e.use.isCleanup <;> rfl

@[simp] theorem granted_append (entries more : List (Entry σ)) :
    granted (entries ++ more) = granted entries ++ granted more := List.filterMap_append

@[simp] theorem attempted_append (entries more : List (Entry σ)) :
    attempted (entries ++ more) = attempted entries ++ attempted more := by
  simp [attempted]

/-- What holds between two uses. -/
structure History.Keeps (h : History σ) (dir : String) : Prop where
  dir : h.scene.files.dir = dir
  deeds : h.scene.deeds = h.entries.flatMap (·.deeds)
  tracked : h.scene.files.paths = granted (sinceCleanup h.entries)
  /-- the files that were made are, one for one, those that a cleanup tried to remove and then those
  that are tracked -/
  once : granted h.entries = attempted h.entries ++ h.scene.files.paths

/-- The history `h'` is `h` with one use more, which is as it should be. -/
def History.Continues (w : World σ) (h h' : History σ) (u : Use σ) : Prop :=
  ∃ e, h'.entries = h.entries ++ [e] ∧ e.use = u ∧
    Lawful h.scene.files.dir h.scene.files.paths u e.outcome e.deeds h'.scene.files.paths ∧
    ∀ (κ γ : Type) (fs : FileSystem w κ γ), Changes fs h.scene h'.scene u e.outcome

theorem lawful_keeps (entries : List (Entry σ)) (e : Entry σ) (dir : String)
    (tracked after : List String) (hl : Lawful dir tracked e.use e.outcome e.deeds after)
    (ht : tracked = granted (sinceCleanup entries))
    (ho : granted entries = attempted entries ++ tracked) :
    after = granted (sinceCleanup (entries ++ [e])) ∧
      granted (entries ++ [e]) = attempted (entries ++ [e]) ++ after := by
  obtain ⟨use, outcome, ds⟩ := e
  rw [sinceCleanup_append, granted_append, attempted_append, ho]
  cases hl with
  | cleanup r _ h =>
    obtain ⟨-, hremoved⟩ := paths_of_removals ds tracked h
    cases r <;> simp [Use.isCleanup, granted, attempted, Entry.path?, Except.toOption, hremoved]
  | granted | refused | outside =>
    simp [ht, Use.isCleanup, granted, attempted, Entry.path?, Except.toOption]

theorem next_run (w : World σ) (h : History σ) (u : Use σ) :
    ∃ es e, (h.next w u).entries = h.entries ++ [e] ∧ e.use = u ∧
      (h.next w u).scene.deeds = h.scene.deeds ++ e.deeds ∧
      ∀ P : Except Stop (Option String) → Scene (Recording σ) → List Event → List Deed → Prop,
        (perform w.recorded u.recorded).Traces h.scene P →
          P e.outcome (h.next w u).scene es e.deeds := by
  obtain ⟨es, ds, -, hds, hall⟩ := traces_run (perform_traces w u h.scene)
  refine ⟨es, ⟨u, (perform w.recorded u.recorded).outcome h.scene, ds⟩, ?_, rfl, hds, hall⟩
  simp [History.next, hds]

theorem keeps_next (w : World σ) (h : History σ) (u : Use σ) (dir : String) (hk : h.Keeps dir) :
    (h.next w u).Keeps dir ∧ h.Continues w (h.next w u) u := by
  obtain ⟨es, e, hentries, rfl, hdeeds, hall⟩ := next_run w h u
  obtain ⟨hdir, hlawful⟩ := hall _ (perform_traces w e.use h.scene)
  obtain ⟨htracked, honce⟩ := lawful_keeps h.entries e _ _ _ hlawful hk.tracked hk.once
  refine ⟨?_, e, hentries, rfl, hlawful, fun κ γ fs => hall _ (perform_places w fs e.use h.scene)⟩
  exact {
    dir := hdir.trans hk.dir
    deeds := by simp [hdeeds, hentries, hk.deeds]
    tracked := by rw [hentries, htracked]
    once := by rw [hentries, honce] }

theorem keeps_uses (w : World σ) (h : History σ) (us : List (Use σ)) (dir : String)
    (hk : h.Keeps dir) : (us.foldl (History.next w) h).Keeps dir := by
  induction us generalizing h with
  | nil => exact hk
  | cons u us ih => exact ih _ (keeps_next w h u dir hk).1

theorem keeps_start (world : σ) (dir : String) :
    History.Keeps { scene := { world := { world }, files := { dir } } } dir where
  dir := rfl
  deeds := rfl
  tracked := rfl
  once := rfl

theorem history_uses (w : World σ) (h : History σ) (us : List (Use σ)) :
    (us.foldl (History.next w) h).entries.map (·.use) = h.entries.map (·.use) ++ us := by
  induction us generalizing h with
  | nil => simp
  | cons u us ih => simp [ih, History.next]

/-- The history goes as the uses go without a record. -/
theorem history_forget (w : World σ) (h : History σ) (us : List (Use σ)) :
    (us.foldl (History.next w) h).scene.forget = afterUses w h.scene.forget us := by
  induction us generalizing h with
  | nil => rfl
  | cons u us ih =>
    rw [List.foldl_cons, ih, History.next, afterUses, afterUses, List.foldl_cons,
      (perform_mirrors w u).after]

/-! ## The end, and what is not the tracker's -/

/-- When the tracker is dropped, each file that is still tracked is tried to be removed once. -/
theorem drop_traces (w : World σ) (s : Scene (Recording σ)) :
    (drop w.recorded).Traces s fun r t _ ds => r = .ok () ∧
      t.files = { s.files with paths := [] } ∧ ds.map Deed.removed? = s.files.paths.map some := by
  refine traces_bind (release_traces w s (removeAll_traces w s.files.paths _)) ?_ ?_
  · rintro failures t _ ds ⟨hfiles, -, hds, -⟩
    exact traces_pure _ ⟨rfl, hfiles, by simpa using hds⟩
  · rintro e t _ ds ⟨-, -, -, failures, hr, -⟩
    contradiction

theorem drop_places (w : World σ) (fs : Places w κ γ) (s : Scene (Recording σ)) :
    (drop w.recorded).Traces s fun _ t _ _ =>
      fs.Sweeps s.files.paths (fs.view s.world.world) (fs.view t.world.world) := by
  refine traces_bind (release_traces w s (removeAll_places w fs s.files.paths _)) ?_ (by simp)
  rintro failures t _ ds ⟨-, hsweeps, -⟩
  exact traces_pure _ hsweeps

/-- The end of a history. -/
structure Dropped (w : World σ) (h : History σ) (t : Scene (Recording σ)) (ds : List Deed) :
    Prop where
  forget : (drop w).after h.scene.forget = t.forget
  untracked : t.files.paths = []
  attempts : ds.map Deed.removed? = h.scene.files.paths.map some
  /-- with that, each file that was made was tried to be removed once -/
  once : granted h.entries = attempted h.entries ++ removed ds
  sweeps : ∀ (κ γ : Type) (fs : FileSystem w κ γ),
    fs.Sweeps h.scene.files.paths (fs.view h.scene.world.world) (fs.view t.world.world)

theorem dropped (w : World σ) (h : History σ) (dir : String) (hk : h.Keeps dir) :
    (drop w.recorded).Traces h.scene fun r t _ ds => r = .ok () ∧ Dropped w h t ds := by
  obtain ⟨es, ds, hes, hds, hall⟩ := traces_run (drop_traces w h.scene)
  obtain ⟨hr, hfiles, hattempts⟩ := hall _ (drop_traces w h.scene)
  refine ⟨es, hes, ds, hds, hr, ?_⟩
  exact {
    forget := (drop_mirrors w).after h.scene
    untracked := by rw [hfiles]
    attempts := hattempts
    once := by rw [(paths_of_removals ds _ hattempts).2, hk.once]
    sweeps := fun κ γ fs => hall _ (drop_places w fs.toPlaces h.scene) }

/-- At the place `k`, where no tracked file is, there is what is not the tracker's. -/
structure Apart {w : World σ} (fs : FileSystem w κ γ) (k : κ) (spot : Spot γ)
    (s : Scene (Recording σ)) : Prop where
  there : fs.view s.world.world k = spot
  untracked : ∀ path ∈ s.files.paths, fs.place path ≠ k

theorem apart_next (w : World σ) (fs : FileSystem w κ γ) (k : κ) (spot : Spot γ) (h : History σ)
    (u : Use σ) (dir : String) (hk : h.Keeps dir) (present : spot ≠ .gone)
    (others : ∀ change, u = .outside change → ∀ s, fs.view (change s) k = fs.view s k)
    (ha : Apart fs k spot h.scene) : Apart fs k spot (h.next w u).scene := by
  obtain ⟨e, -, rfl, hlawful, hchanges⟩ := (keeps_next w h u dir hk).2
  have hchanges := hchanges κ γ fs
  generalize (h.next w e.use).scene = t at hlawful hchanges
  obtain ⟨use, outcome, ds⟩ := e
  generalize hpaths : t.files.paths = after at hlawful
  cases hlawful with
  | granted suffix contents path _ _ =>
    cases hchanges with
    | granted _ _ _ adds =>
      -- a file is made only where there is nothing
      have hplace : fs.place path ≠ k := by
        rintro rfl
        exact present (ha.there.symm.trans adds.fresh)
      refine ⟨(adds.elsewhere k hplace.symm).trans ha.there, ?_⟩
      rw [hpaths]
      intro p hp
      obtain hp | rfl := List.mem_append.mp hp |>.imp_right List.mem_singleton.mp
      · exact ha.untracked p hp
      · exact hplace
  | refused =>
    cases hchanges with
    | refused _ _ _ same => exact ⟨same ▸ ha.there, hpaths ▸ ha.untracked⟩
  | cleanup r =>
    cases hchanges with
    | cleanup _ sweeps =>
      refine ⟨?_, by simp [hpaths]⟩
      exact (sweeps.untouched k fun p hp hplace => absurd hplace (ha.untracked p hp)).trans ha.there
  | outside change =>
    cases hchanges with
    | outside _ changed =>
      refine ⟨?_, hpaths ▸ ha.untracked⟩
      rw [changed, others change rfl]
      exact ha.there

theorem apart_uses (w : World σ) (fs : FileSystem w κ γ) (k : κ) (spot : Spot γ) (h : History σ)
    (us : List (Use σ)) (dir : String) (hk : h.Keeps dir) (present : spot ≠ .gone)
    (others : ∀ change, .outside change ∈ us → ∀ s, fs.view (change s) k = fs.view s k)
    (ha : Apart fs k spot h.scene) : Apart fs k spot (us.foldl (History.next w) h).scene := by
  induction us generalizing h with
  | nil => exact ha
  | cons u us ih =>
    refine ih _ (keeps_next w h u dir hk).1 (fun change hc => others change (by simp [hc])) ?_
    exact apart_next w fs k spot h u dir hk present
      (fun change hu => others change (by simp [hu])) ha

/-- Whatever the uses are and come to. The tracked files are those that were made since the last
cleanup; the next use deals with them as its kind does; and when the tracker is dropped, each file
that was made was tried to be removed once. What is somebody else's, as all is that is there after a
cleanup, stays as it is while others leave it alone. -/
theorem history_keeps (w : World σ) (dir : String) (world : σ) (us : List (Use σ)) :
    let h := history w dir world us
    h.scene.forget = afterUses w { world, files := { dir } } us ∧
    h.entries.map (·.use) = us ∧ h.Keeps dir ∧
    (∀ u, h.Continues w (history w dir world (us ++ [u])) u) ∧
    ((drop w.recorded).Traces h.scene fun r t _ ds => r = .ok () ∧ Dropped w h t ds) ∧
    ∀ (κ γ : Type) (fs : FileSystem w κ γ) (k : κ) (later : List (Use σ)),
      (∀ path ∈ h.scene.files.paths, fs.place path ≠ k) →
      fs.view h.scene.world.world k ≠ .gone →
      (∀ change, .outside change ∈ later → ∀ s, fs.view (change s) k = fs.view s k) →
      let g := (history w dir world (us ++ later)).scene
      fs.view g.world.world k = fs.view h.scene.world.world k ∧
        fs.view ((drop w.recorded).after g).world.world k = fs.view h.scene.world.world k := by
  intro h
  have happend (more : List (Use σ)) :
      history w dir world (us ++ more) = more.foldl (History.next w) h := List.foldl_append
  have hk : h.Keeps dir := keeps_uses w _ us dir (keeps_start world dir)
  refine ⟨history_forget w _ us, history_uses w _ us, hk, fun u => ?_, dropped w h dir hk, ?_⟩
  · rw [happend]
    exact (keeps_next w h u dir hk).2
  · intro κ γ fs k later untracked present others g
    have hg : Apart fs k (fs.view h.scene.world.world k) g := by
      have huses := apart_uses w fs k _ h later dir hk present others ⟨rfl, untracked⟩
      rwa [← happend] at huses
    refine ⟨hg.there, ?_⟩
    obtain ⟨-, -, -, -, hsweeps⟩ := drop_places w fs.toPlaces g
    have hkept := hsweeps.untouched k fun path hp hplace => absurd hplace (hg.untracked path hp)
    exact hkept.trans hg.there

end TempFiles

namespace Disk

theorem creation (d : Disk) (dir suffix : String) :
    Creation id d.spots (d.create dir suffix).1 (d.create dir suffix).2.spots := by
  unfold create
  dsimp only
  split
  next h => exact .made _ [] _ h (if_pos rfl) fun j hj => if_neg hj
  · exact .refused _

theorem filling (d : Disk) (path : String) (contents : List UInt8) :
    Filling path d.spots (d.fill path contents).2.spots := by
  unfold fill
  split
  · exact ⟨fun _ _ => ⟨_, if_pos rfl⟩, fun j hj => if_neg hj⟩
  next h => exact ⟨fun content hc => absurd hc (h content), fun _ _ => rfl⟩

def files : FileSystem world String (List UInt8) where
  toPlaces := places
  create := creation
  fill := filling

end Disk

namespace TempFiles

/-- One file is removed by others before the cleanup, one cannot be filled, and where one was
removed by the cleanup others put theirs: that one outlives the next file, a cleanup and the
tracker. -/
theorem history_keeps_stranger : ∃ (d : Disk) (us later : List (Use Disk)) (h g : History Disk)
    (t : Scene (Recording Disk)) (ds : List Deed),
    h = history Disk.world "/tmp" d us ∧ g = history Disk.world "/tmp" d (us ++ later) ∧
    h.Keeps "/tmp" ∧ granted h.entries = ["/tmp/0.c", "/tmp/1.out", "/tmp/3.c"] ∧
    attempted h.entries = ["/tmp/0.c", "/tmp/1.out"] ∧ h.scene.files.paths = ["/tmp/3.c"] ∧
    Dropped Disk.world h t ds ∧ removed ds = ["/tmp/3.c"] ∧
    h.scene.world.world.spots "/tmp/1.out" = .file [0x78] ∧
    ((drop Disk.world.recorded).after g.scene).world.world.spots "/tmp/1.out" = .file [0x78] := by
  let d : Disk := { room := 3, spots := fun _ => .gone }
  let us : List (Use Disk) := [.create ".c" [0x61, 0x62], .create ".out" [],
    .outside fun d => d.set "/tmp/0.c" .gone, .create ".c" [0x61, 0x62, 0x63, 0x64], .cleanup,
    .outside fun d => d.set "/tmp/1.out" (.file [0x78]), .create ".c" [0x63]]
  let later : List (Use Disk) := [.create ".out" [], .cleanup, .create ".out" []]
  have hkeeps := history_keeps Disk.world "/tmp" d us
  obtain ⟨h, hh⟩ : ∃ h, h = history Disk.world "/tmp" d us := ⟨_, rfl⟩
  obtain ⟨g, hg⟩ : ∃ g, g = history Disk.world "/tmp" d (us ++ later) := ⟨_, rfl⟩
  dsimp only at hkeeps
  rw [← hh] at hkeeps
  obtain ⟨-, -, hk, -, ⟨es, -, ds, -, -, hdropped⟩, hspared⟩ := hkeeps
  have hview : Disk.files.view = Disk.spots := rfl
  have hpaths : h.scene.files.paths = ["/tmp/3.c"] := by
    rw [hh]
    decide +kernel
  have hthere : h.scene.world.world.spots "/tmp/1.out" = .file [0x78] := by
    rw [hh]
    decide +kernel
  have hremoved : removed ds = ["/tmp/3.c"] := by
    rw [(paths_of_removals ds _ hdropped.attempts).2, hpaths]
  have hstays := (hspared _ _ Disk.files "/tmp/1.out" later (by rw [hpaths]; decide +kernel)
    (by rw [hview, hthere]; simp) (by simp [later])).2
  rw [hview, hthere, ← hg] at hstays
  refine ⟨d, us, later, h, g, _, ds, hh, hg, hk, ?_, ?_, hpaths, hdropped, hremoved, hthere,
    hstays⟩
  · rw [hh]
    decide +kernel
  · rw [hh]
    decide +kernel

end TempFiles

end CellRunner
