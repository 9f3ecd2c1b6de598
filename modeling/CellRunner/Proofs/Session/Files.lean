import CellRunner.Proofs.Session.Aside
import CellRunner.Session.Basic

/-!
# Making and removing files

A request makes two files at its beginning, and nothing that happens after their making changes
that. A shutdown tries to remove each tracked file once, whatever comes of it.
-/

set_option autoImplicit false

namespace CellRunner

namespace Deed

/-- The path of a file that was made. -/
def created? : Deed → Option String
  | .create _ _ (.ok path) => some path
  | _ => none

/-- The path of a file that was made and filled. -/
def filled? : Deed → Option String
  | .fill path _ (.ok ()) => some path
  | _ => none

/-- The path of a file that was tried to be removed. -/
def removed? : Deed → Option String
  | .remove path _ => some path
  | _ => none

end Deed

def created (ds : List Deed) : List String := ds.filterMap Deed.created?

def filled (ds : List Deed) : List String := ds.filterMap Deed.filled?

def removed (ds : List Deed) : List String := ds.filterMap Deed.removed?

@[simp] theorem created_append (ds es : List Deed) :
    created (ds ++ es) = created ds ++ created es := List.filterMap_append

@[simp] theorem filled_append (ds es : List Deed) :
    filled (ds ++ es) = filled ds ++ filled es := List.filterMap_append

@[simp] theorem removed_append (ds es : List Deed) :
    removed (ds ++ es) = removed ds ++ removed es := List.filterMap_append

/-- Removals of files are about no others, and make none. -/
theorem paths_of_removals (ds : List Deed) (paths : List String)
    (h : ds.map Deed.removed? = paths.map some) : created ds = [] ∧ removed ds = paths := by
  induction ds generalizing paths with
  | nil =>
    cases paths with
    | nil => exact ⟨rfl, rfl⟩
    | cons _ _ => contradiction
  | cons d ds ih =>
    cases paths with
    | nil => contradiction
    | cons path paths =>
      obtain ⟨hd, hds⟩ : d.removed? = some path ∧ ds.map Deed.removed? = paths.map some := by
        simpa using h
      obtain ⟨hc, hr⟩ := ih paths hds
      cases d with
      | remove path' r =>
        obtain rfl := Option.some.inj hd
        exact ⟨hc, congrArg (path' :: ·) hr⟩
      | _ => contradiction

/-- Each file that was made was filled or was tried to be removed. -/
def Kept (ds : List Deed) : Prop := (created ds).Perm (removed ds ++ filled ds)

/-- The longest end of a list on which `p` holds, with one element more. -/
theorem reverse_takeWhile_snoc {α : Type} (p : α → Bool) (l : List α) (a : α) :
    ((l ++ [a]).reverse.takeWhile p).reverse =
      if p a then (l.reverse.takeWhile p).reverse ++ [a] else [] := by
  rw [List.reverse_append, List.reverse_singleton, List.singleton_append, List.takeWhile_cons]
  split
  · rw [List.reverse_cons]
  · rfl

theorem perm_interleave {α : Type} (as bs cs ds : List α) :
    (as ++ bs ++ (cs ++ ds)).Perm (as ++ cs ++ (bs ++ ds)) := by
  rw [List.append_assoc, List.append_assoc, ← List.append_assoc bs, ← List.append_assoc cs]
  exact .append_left _ (.append_right _ List.perm_append_comm)

theorem kept_append (ds es : List Deed) (hd : Kept ds) (he : Kept es) : Kept (ds ++ es) := by
  simpa [Kept] using (hd.append he).trans (perm_interleave _ _ _ _)

theorem fileless_paths (ds : List Deed) (h : Fileless ds) :
    created ds = [] ∧ filled ds = [] ∧ removed ds = [] := by
  have hnone (f : Deed → Option String) (hf : ∀ d : Deed, d.isOnFile = false → f d = none) :
      ds.filterMap f = [] := List.filterMap_eq_nil_iff.mpr fun d hd => hf d (h d hd)
  refine ⟨hnone _ fun d hd => ?_, hnone _ fun d hd => ?_, hnone _ fun d hd => ?_⟩
  all_goals cases d <;> first | rfl | contradiction

/-- What becomes of a file that is asked for; it has a path when it was made and filled. A file
that is made and cannot be filled is removed again. -/
inductive Attempt (dir suffix : String) (contents : List UInt8) :
    List Deed → Option String → Prop where
  | made (path : String) : Attempt dir suffix contents
      [.create dir suffix (.ok path), .fill path contents (.ok ())] (some path)
  | refused (e : IoFault) : Attempt dir suffix contents [.create dir suffix (.error e)] none
  | unfilled (path : String) (e : IoFault) (r : Except IoFault Unit) :
      Attempt dir suffix contents
        [.create dir suffix (.ok path), .fill path contents (.error e), .remove path r] none

theorem attempt_kept (dir suffix : String) (contents : List UInt8) (ds : List Deed)
    (path : Option String) (h : Attempt dir suffix contents ds path) :
    filled ds = path.toList ∧ Kept ds := by
  cases h with
  | made path => exact ⟨rfl, List.Perm.refl [path]⟩
  | refused e => exact ⟨rfl, List.Perm.refl []⟩
  | unfilled path e r => exact ⟨rfl, List.Perm.refl [path]⟩

/-- The files of one request: that of its source, then that of the compiled program, which is
asked for only when there is the first. -/
inductive Filing (dir source : String) : List Deed → List String → Prop where
  | neither (ds : List Deed) (h : Attempt dir ".c" (Utf8.encode source) ds none) :
      Filing dir source ds []
  | first (ds es : List Deed) (path : String)
      (h : Attempt dir ".c" (Utf8.encode source) ds (some path))
      (h' : Attempt dir ".out" [] es none) : Filing dir source (ds ++ es) [path]
  | both (ds es : List Deed) (path binary : String)
      (h : Attempt dir ".c" (Utf8.encode source) ds (some path))
      (h' : Attempt dir ".out" [] es (some binary)) : Filing dir source (ds ++ es) [path, binary]

theorem filing_kept (dir source : String) (ds : List Deed) (paths : List String)
    (h : Filing dir source ds paths) : filled ds = paths ∧ Kept ds := by
  cases h with
  | neither _ h => exact attempt_kept _ _ _ _ _ h
  | first ds es path h h' | both ds es path binary h h' =>
    obtain ⟨hf, hk⟩ := attempt_kept _ _ _ _ _ h
    obtain ⟨hf', hk'⟩ := attempt_kept _ _ _ _ _ h'
    exact ⟨by simp [hf, hf'], kept_append ds es hk hk'⟩

namespace TempFiles
open Act

variable {σ : Type}

theorem removeFile_traces (w : World σ) (path : String) (s : Scene (Recording σ)) :
    (removeFile w.recorded path).Traces s fun r t _ ds =>
      t.files = s.files ∧ t.executions = s.executions ∧ ∃ v, r = .ok v ∧ ds = [.remove path v] :=
  traces_bind_ask _ (.remove path) rfl fun v _ =>
    traces_bind_emit _ <| traces_pure v ⟨rfl, rfl, v, rfl, rfl⟩

/-- A file is tracked from the moment it is made and filled, and not otherwise. -/
theorem create_traces (w : World σ) (suffix : String) (contents : List UInt8)
    (s : Scene (Recording σ)) :
    (create w.recorded suffix contents).Traces s fun r t _ ds =>
      t.executions = s.executions ∧
      ((∃ path, r = .ok path ∧ Attempt s.files.dir suffix contents ds (some path) ∧
          t.files = { s.files with paths := s.files.paths ++ [path] }) ∨
        (∃ e, r = .error e) ∧ Attempt s.files.dir suffix contents ds none ∧
          t.files = s.files) := by
  refine traces_bind_get ?_
  refine traces_bind_ask _ (.create s.files.dir suffix) rfl fun made world => ?_
  cases made with
  | error e =>
    exact traces_bind_emit _ <| traces_fail _ ⟨rfl, .inr ⟨⟨_, rfl⟩, .refused e, rfl⟩⟩
  | ok path =>
    refine traces_bind_ask _ (.fill path contents) rfl fun done world => ?_
    cases done with
    | error e =>
      refine traces_bind (removeFile_traces w path _) ?_ (by simp)
      rintro _ t _ _ ⟨hfiles, hcount, r, -, rfl⟩
      exact traces_fail _ ⟨hcount, .inr ⟨⟨_, rfl⟩, .unfilled path e r, hfiles⟩⟩
    | ok _ =>
      refine traces_bind_modify _ [] rfl (by simp [Scene.deeds]) ?_
      exact traces_bind_emit _ <| traces_pure path ⟨rfl, .inl ⟨path, rfl, .made path, rfl⟩⟩

/-- Each file is tried to be removed once, in order, whatever comes of it. -/
theorem removeAll_traces (w : World σ) (paths : List String) (s : Scene (Recording σ)) :
    (removeAll w.recorded paths).Traces s fun r t _ ds =>
      t.files = s.files ∧ t.executions = s.executions ∧
      ds.map Deed.removed? = paths.map some ∧ ∃ failures, r = .ok failures ∧
        (paths = [] → failures = []) := by
  induction paths generalizing s with
  | nil => exact traces_pure _ ⟨rfl, rfl, rfl, [], rfl, fun _ => rfl⟩
  | cons path paths ih =>
    refine traces_bind (removeFile_traces w path s) ?_ (by simp)
    rintro v t _ _ ⟨hfiles, hcount, _, ⟨⟩, rfl⟩
    refine traces_bind (ih t) ?_ (by simp)
    rintro failures u _ ds ⟨hfiles', hcount', hds, _⟩
    refine traces_pure _ ⟨hfiles'.trans hfiles, hcount'.trans hcount, ?_, _, rfl, by simp⟩
    simp [hds, Deed.removed?]

/-- Removals of tracked files leave nothing tracked. -/
theorem release_traces (w : World σ) (s : Scene (Recording σ))
    {P : Except Stop (List (String × IoFault)) → Scene (Recording σ) → List Event → List Deed → Prop}
    (h : (removeAll w.recorded s.files.paths).Traces
      { s with files := { s.files with paths := [] } } P) :
    (release w.recorded).Traces s P :=
  traces_bind_get <| traces_bind_modify _ [] rfl (by simp [Scene.deeds]) h

/-- After a cleanup nothing is tracked, and it fails only at a file that was tracked. -/
theorem cleanup_traces (w : World σ) (s : Scene (Recording σ)) :
    (cleanup w.recorded).Traces s fun r t _ ds =>
      t.files = { s.files with paths := [] } ∧ t.executions = s.executions ∧
      ds.map Deed.removed? = s.files.paths.map some ∧ (s.files.paths = [] → r = .ok ()) := by
  refine traces_bind (release_traces w s (removeAll_traces w s.files.paths _)) ?_ ?_
  · rintro failures t _ ds ⟨hfiles, hcount, hds, _, ⟨⟩, hnone⟩
    refine traces_bind_emitAll _ ?_
    cases failures with
    | nil => exact traces_pure _ ⟨hfiles, hcount, by simpa using hds, fun _ => rfl⟩
    | cons failure failures =>
      refine traces_fail _ ⟨hfiles, hcount, by simpa using hds, fun h => ?_⟩
      simp at hnone
      contradiction
  · rintro e t _ ds ⟨-, -, -, failures, hr, -⟩
    contradiction

end TempFiles

/-- The files of a request are made at its beginning: they are those that are tracked more at its
end, whatever it comes to. -/
def Opens (dir source : String) (ds : List Deed) (paths : List String) : Prop :=
  ∃ made rest, ds = made ++ rest ∧ Filing dir source made paths ∧ Fileless rest

theorem opens_kept (dir source : String) (ds : List Deed) (paths : List String)
    (h : Opens dir source ds paths) : filled ds = paths ∧ Kept ds := by
  obtain ⟨made, rest, rfl, hfiling, hrest⟩ := h
  obtain ⟨hf, hk⟩ := filing_kept dir source made paths hfiling
  obtain ⟨hc', hf', hr'⟩ := fileless_paths rest hrest
  exact ⟨by simp [hf, hf'], kept_append _ _ hk (by simp [Kept, hc', hf', hr'])⟩

theorem opens_append (dir source : String) (ds es : List Deed) (paths : List String)
    (h : Opens dir source ds paths) (he : Fileless es) : Opens dir source (ds ++ es) paths := by
  obtain ⟨made, rest, rfl, hfiling, hrest⟩ := h
  exact ⟨made, rest ++ es, by simp, hfiling, fileless_append rest es hrest he⟩

theorem opens_of_filing (dir source : String) (ds : List Deed) (paths : List String)
    (h : Filing dir source ds paths) : Opens dir source ds paths :=
  ⟨ds, [], by simp, h, fileless_nil⟩

namespace Pipeline
open Act

variable {σ : Type}

/-- A request adds its files to the tracked ones, and nothing that happens after their making
changes that. -/
theorem run_files (w : World σ) (c : Config) (source : String) (d : Directives)
    (s : Scene (Recording σ)) :
    (run w.recorded c source d).Traces s fun _ t _ ds => t.executions = s.executions ∧
      ∃ paths, Opens s.files.dir source ds paths ∧
        t.files = { s.files with paths := s.files.paths ++ paths } := by
  unfold run
  refine traces_bind (TempFiles.create_traces w ".c" (Utf8.encode source) s) ?_ ?_
  rotate_left
  · rintro e t _ ds ⟨hcount, ⟨path, hr, -⟩ | ⟨-, h, hfiles⟩⟩
    · contradiction
    · exact ⟨hcount, [], opens_of_filing _ _ _ _ (.neither ds h), by simpa using hfiles⟩
  rintro path t _ ds ⟨hcount, ⟨_, ⟨⟩, h, hfiles⟩ | ⟨⟨e, he⟩, -⟩⟩
  rotate_left
  · contradiction
  refine traces_bind (TempFiles.create_traces w ".out" [] t) ?_ ?_
  rotate_left
  · rintro e u _ es ⟨hcount', ⟨binary, hr, -⟩ | ⟨-, h', hfiles'⟩⟩
    · contradiction
    · rw [hfiles] at h'
      exact ⟨hcount'.trans hcount, [path], opens_of_filing _ _ _ _ (.first ds es path h h'),
        hfiles'.trans hfiles⟩
  rintro binary u _ es ⟨hcount', ⟨_, ⟨⟩, h', hfiles'⟩ | ⟨⟨e, he⟩, -⟩⟩
  rotate_left
  · contradiction
  rw [hfiles] at hfiles' h'
  refine traces_mono (aside_rest w c d path binary u) ?_
  rintro r v _ rest ⟨hkept, hcount'', hrest⟩
  refine ⟨hcount''.trans (hcount'.trans hcount), [path, binary], ?_, ?_⟩
  · rw [← List.append_assoc]
    exact opens_append _ _ _ _ _ (opens_of_filing _ _ _ _ (.both ds es path binary h h')) hrest
  · simpa using hkept.trans hfiles'

end Pipeline

namespace Session
open Act

variable {σ : Type}

theorem run_files (w : World σ) (c : Config) (source : String) (s : Scene (Recording σ)) :
    (run w.recorded c source).Traces s fun _ t _ ds => t.executions = s.executions + 1 ∧
      ∃ paths, Opens s.files.dir source ds paths ∧
        t.files = { s.files with paths := s.files.paths ++ paths } := by
  refine traces_bind_modify _ [] rfl (by simp [Scene.deeds]) <| traces_bind_emitAll _ ?_
  refine traces_bind (Pipeline.run_files w c source (Directives.parse source) _) ?_ (by simp)
  rintro report t _ ds ⟨hcount, paths, hds, hfiles⟩
  refine traces_bind_get <| traces_bind_emit _ <| traces_pure _ ⟨hcount, paths, ?_, hfiles⟩
  simpa using hds

theorem shutdown_files (w : World σ) (s : Scene (Recording σ)) :
    (shutdown w.recorded).Traces s fun r t _ ds =>
      t.files = { s.files with paths := [] } ∧ t.executions = s.executions ∧
      ds.map Deed.removed? = s.files.paths.map some ∧ (s.files.paths = [] → r = .ok ()) := by
  refine traces_bind_get <| traces_bind (traces_attempt (TempFiles.cleanup_traces w s)) ?_ ?_
  · rintro r t _ ds ⟨r', hr, hfiles, hcount, hds, hnone⟩
    cases r with
    | ok _ => exact traces_emit _ ⟨hfiles, hcount, by simpa using hds, fun _ => rfl⟩
    | error f =>
      refine traces_bind_emit _ <| traces_fail _ ⟨hfiles, hcount, by simpa using hds, fun h => ?_⟩
      simp [hnone h, attempted] at hr
  · rintro e t _ ds ⟨r', hr, hfiles, hcount, hds, hnone⟩
    refine ⟨hfiles, hcount, hds, fun h => ?_⟩
    simp [hnone h, attempted] at hr

end Session

end CellRunner
