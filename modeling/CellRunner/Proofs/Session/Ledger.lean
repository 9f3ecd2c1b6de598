import CellRunner.Proofs.Session.Files
import CellRunner.Proofs.Session.Recorded

/-!
# The ledger of a session

Whatever the calls on a session come to, requests are counted, the tracked files are those that
were made since the last shutdown, and every file that was ever made is tracked or was tried to
be removed.
-/

set_option autoImplicit false

namespace CellRunner.Session
open Act

variable {σ : Type}

/-- What the user of a session can ask for. -/
inductive Call where
  | run (source : String)
  | execute (source : String)
  | shutdown
  deriving DecidableEq

namespace Call

/-- The source that a request is about. -/
def source? : Call → Option String
  | .run source => some source
  | .execute source => some source
  | .shutdown => none

def isRequest (call : Call) : Bool := call.source?.isSome

end Call

def perform (w : World σ) (c : Config) : Call → Act σ Unit
  | .run source => do let _ ← run w c source
  | .execute source => do let _ ← execute w c source
  | .shutdown => shutdown w

theorem perform_mirrors (w : World σ) (c : Config) (call : Call) :
    Mirrors (perform w.recorded c call) (perform w c call) := by
  cases call with
  | run source => exact mirrors_bind (run_mirrors w c source) fun _ => mirrors_pure _
  | execute source =>
    exact mirrors_bind (mirrors_bind (run_mirrors w c source) fun _ => mirrors_pure _)
      fun _ => mirrors_pure _
  | shutdown => exact shutdown_mirrors w

theorem perform_files (w : World σ) (c : Config) (call : Call) (source : String)
    (s : Scene (Recording σ)) (h : call.source? = some source) :
    (perform w.recorded c call).Traces s fun _ t _ ds => t.executions = s.executions + 1 ∧
      ∃ paths, Opens s.files.dir source ds paths ∧
        t.files = { s.files with paths := s.files.paths ++ paths } := by
  cases call with
  | run _ =>
    obtain rfl := Option.some.inj h
    exact traces_map _ (run_files w c _ s)
  | execute _ =>
    obtain rfl := Option.some.inj h
    exact traces_map _ (traces_map _ (run_files w c _ s))
  | shutdown => contradiction

/-- A call, what it came to and the requests that were made in it. -/
structure Entry where
  call : Call
  outcome : Except Stop Unit
  deeds : List Deed

/-- A session with its calls so far. -/
structure Story (σ : Type) where
  entries : List Entry := []
  scene : Scene (Recording σ)

namespace Story

/-- Makes a call; whatever it comes to, the session goes on. -/
def next (w : World σ) (c : Config) (h : Story σ) (call : Call) : Story σ :=
  let action := perform w.recorded c call
  let scene := action.after h.scene
  let deeds := scene.deeds.drop h.scene.deeds.length
  { entries := h.entries ++ [{ call, outcome := action.outcome h.scene, deeds }], scene }

end Story

/-- The scene after some calls, whatever each of them came to. -/
def afterCalls (w : World σ) (c : Config) (s : Scene σ) (calls : List Call) : Scene σ :=
  calls.foldl (fun s call => (perform w c call).after s) s

/-- The story of a session from its beginning. -/
def story (w : World σ) (c : Config) (world : σ) (calls : List Call) : Story σ :=
  calls.foldl (Story.next w c) { scene := start w.recorded c { world } }

/-- The calls after the last shutdown. -/
def sinceShutdown (entries : List Entry) : List Entry :=
  (entries.reverse.takeWhile (·.call.isRequest)).reverse

theorem sinceShutdown_append (entries : List Entry) (e : Entry) :
    sinceShutdown (entries ++ [e]) =
      if e.call.isRequest then sinceShutdown entries ++ [e] else [] :=
  reverse_takeWhile_snoc _ entries e

/-- What a call does to the tracked files, of which there are `before` and `after`. -/
structure Entry.Lawful (e : Entry) (dir : String) (before after : List String) : Prop where
  request : ∀ source, e.call.source? = some source →
    Opens dir source e.deeds (filled e.deeds) ∧ after = before ++ filled e.deeds
  /-- when the files that the world makes are new, no request removes a tracked one -/
  spares : e.call.isRequest = true → (before ++ created e.deeds).Nodup →
    ∀ path ∈ after, path ∉ removed e.deeds
  shutdown : e.call = .shutdown →
    e.deeds.map Deed.removed? = before.map some ∧ after = []
  idle : e.call = .shutdown → before = [] → e.outcome = .ok () ∧ e.deeds = []

/-- The story `h'` is `h` with one more call, which deals with the files as its kind does. -/
def Story.Continues (h h' : Story σ) (call : Call) (dir : String) : Prop :=
  ∃ e, h'.entries = h.entries ++ [e] ∧ e.call = call ∧
    e.Lawful dir h.scene.files.paths h'.scene.files.paths

/-- What holds of the files between two calls. -/
structure Story.Ledger (h : Story σ) (dir : String) : Prop where
  dir : h.scene.files.dir = dir
  deeds : h.scene.deeds = h.entries.flatMap (·.deeds)
  executions : h.scene.executions = h.entries.countP (·.call.isRequest)
  tracked : h.scene.files.paths = filled ((sinceShutdown h.entries).flatMap (·.deeds))
  /-- a file that was made is tracked, or was tried to be removed -/
  kept : (created h.scene.deeds).Perm (removed h.scene.deeds ++ h.scene.files.paths)

theorem ledger_start (w : World σ) (c : Config) (world : σ) :
    (story w c world []).Ledger (c.tempDir w.tempDir) where
  dir := rfl
  deeds := rfl
  executions := rfl
  tracked := rfl
  kept := List.Perm.refl []

theorem next_entry (w : World σ) (c : Config) (h : Story σ) (call : Call)
    (P : Except Stop Unit → Scene (Recording σ) → List Event → List Deed → Prop)
    (hp : (perform w.recorded c call).Traces h.scene P) :
    ∃ es e, (h.next w c call).entries = h.entries ++ [e] ∧ e.call = call ∧
      (h.next w c call).scene.deeds = h.scene.deeds ++ e.deeds ∧
      P e.outcome (h.next w c call).scene es e.deeds := by
  obtain ⟨es, -, ds, hds, hp⟩ := hp
  refine ⟨es, { call, outcome := (perform w.recorded c call).outcome h.scene, deeds := ds },
    ?_, rfl, hds, hp⟩
  simp [Story.next, hds]

/-- A file is removed in a request only if it was made in it and could not be filled. -/
theorem spares_of_kept (before : List String) (ds : List Deed) (hk : Kept ds)
    (hn : (before ++ created ds).Nodup) : ∀ path ∈ before ++ filled ds, path ∉ removed ds := by
  have hperm : (before ++ created ds).Perm (before ++ filled ds ++ removed ds) := by
    rw [List.append_assoc]
    exact .append_left _ (hk.trans List.perm_append_comm)
  have hapart := (List.nodup_append.mp (hperm.nodup_iff.mp hn)).2.2
  exact fun path hp hr => hapart path hp path hr rfl

theorem ledger_request (w : World σ) (c : Config) (h : Story σ) (call : Call)
    (dir source : String) (hl : h.Ledger dir) (hs : call.source? = some source) :
    (h.next w c call).Ledger dir ∧ h.Continues (h.next w c call) call dir := by
  obtain ⟨_, e, hentries, rfl, hdeeds, hcount, paths, hfiles, hpaths⟩ :=
    next_entry w c h call _ (perform_files w c call source h.scene hs)
  have hrequest : e.call.isRequest = true := by simp [Call.isRequest, hs]
  obtain ⟨rfl, hkept⟩ := opens_kept _ _ _ _ hfiles
  have hafter : (h.next w c e.call).scene.files.paths =
      h.scene.files.paths ++ filled e.deeds := by rw [hpaths]
  refine ⟨?_, e, hentries, rfl, ?_⟩
  · exact {
      dir := by rw [hpaths, ← hl.dir]
      deeds := by simp [hdeeds, hentries, hl.deeds]
      executions := by simp [hcount, hentries, hl.executions, hrequest]
      tracked := by
        rw [hafter, hentries, sinceShutdown_append, if_pos hrequest, hl.tracked]
        simp
      kept := by
        rw [hdeeds, hafter, created_append, removed_append]
        exact (hl.kept.append hkept).trans (perm_interleave _ _ _ _) }
  · exact {
      request := fun source' hs' => by
        obtain rfl : source = source' := by simpa [hs] using hs'
        exact ⟨hl.dir ▸ hfiles, hafter⟩
      spares := fun _ hn => hafter ▸ spares_of_kept _ _ hkept hn
      shutdown := fun hshut => by simp [hshut, Call.source?] at hs
      idle := fun hshut => by simp [hshut, Call.source?] at hs }

theorem ledger_shutdown (w : World σ) (c : Config) (h : Story σ) (dir : String)
    (hl : h.Ledger dir) :
    (h.next w c .shutdown).Ledger dir ∧ h.Continues (h.next w c .shutdown) .shutdown dir := by
  obtain ⟨_, e, hentries, hcall, hdeeds, hpaths, hcount, hremovals, hnone⟩ :=
    next_entry w c h .shutdown _ (shutdown_files w h.scene)
  obtain ⟨hcreated, hremoved⟩ := paths_of_removals _ _ hremovals
  refine ⟨?_, e, hentries, hcall, ?_⟩
  · exact {
      dir := by rw [hpaths, ← hl.dir]
      deeds := by simp [hdeeds, hentries, hl.deeds]
      executions := by simp [hcount, hentries, hl.executions, hcall, Call.isRequest, Call.source?]
      tracked := by
        rw [hpaths, hentries, sinceShutdown_append, if_neg (by simp [hcall, Call.isRequest,
          Call.source?])]
        rfl
      kept := by
        rw [hdeeds, hpaths, created_append, removed_append, hcreated, hremoved]
        simpa using hl.kept }
  · exact {
      request := fun source hs => by simp [hcall, Call.source?] at hs
      spares := fun hr => by simp [hcall, Call.isRequest, Call.source?] at hr
      shutdown := fun _ => ⟨hremovals, by rw [hpaths]⟩
      idle := fun _ hb => ⟨hnone hb, by simpa [hb] using hremovals⟩ }

theorem ledger_next (w : World σ) (c : Config) (h : Story σ) (call : Call) (dir : String)
    (hl : h.Ledger dir) :
    (h.next w c call).Ledger dir ∧ h.Continues (h.next w c call) call dir := by
  cases hs : call.source? with
  | some source => exact ledger_request w c h call dir source hl hs
  | none =>
    cases call with
    | shutdown => exact ledger_shutdown w c h dir hl
    | _ => contradiction

theorem ledger_calls (w : World σ) (c : Config) (h : Story σ) (calls : List Call) (dir : String)
    (hl : h.Ledger dir) : (calls.foldl (Story.next w c) h).Ledger dir := by
  induction calls generalizing h with
  | nil => exact hl
  | cons call calls ih => exact ih _ (ledger_next w c h call dir hl).1

theorem story_calls (w : World σ) (c : Config) (h : Story σ) (calls : List Call) :
    (calls.foldl (Story.next w c) h).entries.map (·.call) = h.entries.map (·.call) ++ calls := by
  induction calls generalizing h with
  | nil => simp
  | cons call calls ih => simp [ih, Story.next]

/-- The story goes as the session goes without a record. -/
theorem story_forget (w : World σ) (c : Config) (h : Story σ) (calls : List Call) :
    (calls.foldl (Story.next w c) h).scene.forget = afterCalls w c h.scene.forget calls := by
  induction calls generalizing h with
  | nil => rfl
  | cons call calls ih =>
    rw [List.foldl_cons, ih, Story.next, afterCalls, afterCalls, List.foldl_cons,
      (perform_mirrors w c call).after]

/-- After every list of calls, whatever each of them came to, the requests are counted, the
tracked files are those made since the last shutdown, and none that was made is forgotten; and
whatever the next call is, it deals with the files as its kind does. -/
theorem story_ledger (w : World σ) (c : Config) (world : σ) (calls : List Call) :
    (story w c world calls).scene.forget = afterCalls w c (start w c world) calls ∧
    (story w c world calls).entries.map (·.call) = calls ∧
    (story w c world calls).Ledger (c.tempDir w.tempDir) ∧
    ∀ call, (story w c world calls).Continues (story w c world (calls ++ [call])) call
      (c.tempDir w.tempDir) := by
  have hl := ledger_calls w c _ calls _ (ledger_start w c world)
  refine ⟨story_forget w c _ calls, story_calls w c _ calls, hl, fun call => ?_⟩
  have hnext := (ledger_next w c _ call _ hl).2
  simpa [story, List.foldl_append] using hnext

end CellRunner.Session
