import CellRunner.Proofs.Session.Files
import CellRunner.Proofs.Session.Recorded

/-!
# Removing the tracked files

A cleanup tries to remove each tracked file once, in the order of their making, whatever comes of
it. What can be removed is gone after that, nothing else was touched, and the first removal that
failed is told.
-/

set_option autoImplicit false

namespace CellRunner

/-- A removal that failed; that of a file that is gone already did not. -/
def Deed.removalFailure? : Deed → Option (String × IoFault)
  | .remove path result => TempFiles.removalFailure? path result
  | _ => none

/-- The fault of removals is the first that failed. -/
def removalFault? (ds : List Deed) : Option Fault :=
  (ds.findSome? Deed.removalFailure?).map fun (path, e) => .removing path e

/-- What removals come to. -/
def cleaned (ds : List Deed) : Except Stop Unit :=
  (removalFault? ds).elim (.ok ()) fun f => .error (.fault f)

theorem attempted_cleaned (ds : List Deed) :
    Act.attempted (cleaned ds) = .ok ((removalFault? ds).elim (.ok ()) .error) := by
  unfold cleaned
  cases removalFault? ds <;> rfl

/-- Of removals, of which some fail, the first failure is told. -/
structure TellsFirst {α : Type} (failure? : α → Option (String × IoFault)) (removals : List α)
    (r : Except Stop Unit) : Prop where
  succeeds : r = .ok () ↔ ∀ a ∈ removals, failure? a = none
  fails : ∀ e, r = .error e ↔ ∃ path cause, e = .fault (.removing path cause) ∧
    ∃ before a after, removals = before ++ a :: after ∧ failure? a = some (path, cause) ∧
      ∀ b ∈ before, failure? b = none

theorem tellsFirst {α : Type} (failure? : α → Option (String × IoFault)) (removals : List α) :
    TellsFirst failure? removals
      (((removals.findSome? failure?).map fun (path, e) => Fault.removing path e).elim (.ok ())
        fun f => .error (.fault f)) where
  succeeds := by
    cases h : removals.findSome? failure? with
    | none => simpa using h
    | some failure =>
      obtain ⟨a, ha, hf⟩ := List.exists_of_findSome?_eq_some h
      simp only [Option.map_some, Option.elim_some, reduceCtorEq, false_iff]
      intro hnone
      simp [hnone a ha] at hf
  fails e := by
    cases h : removals.findSome? failure? with
    | none =>
      simp only [Option.map_none, Option.elim_none, reduceCtorEq, false_iff]
      rintro ⟨path, cause, -, before, a, after, rfl, ha, -⟩
      have hnone := List.findSome?_eq_none_iff.mp h a (by simp)
      simp [hnone] at ha
    | some failure =>
      obtain ⟨path, cause⟩ := failure
      simp only [Option.map_some, Option.elim_some, Except.error.injEq]
      constructor
      · rintro rfl
        obtain ⟨before, a, after, hsplit, ha, hbefore⟩ := List.findSome?_eq_some_iff.mp h
        exact ⟨path, cause, rfl, before, a, after, hsplit, ha, hbefore⟩
      · rintro ⟨path', cause', rfl, hfirst⟩
        have hsome := List.findSome?_eq_some_iff.mpr hfirst
        obtain ⟨rfl, rfl⟩ : path = path' ∧ cause = cause' := by simpa [h] using hsome
        rfl

/-- What is at a place of a file system. -/
inductive Spot (γ : Type) where
  | gone
  /-- what can be removed -/
  | file (content : γ)
  /-- what is there and cannot be removed -/
  | stuck (content : γ) (cause : IoFault) (present : cause.isAbsence = false)
  deriving DecidableEq

/-- Why what is at the place cannot be removed, if it is there and cannot. -/
def Spot.cause? {γ : Type} : Spot γ → Option IoFault
  | .stuck _ cause _ => some cause
  | _ => none

/-- What becomes of the places of a file system when what is at `k` is tried to be removed. -/
inductive Removal {κ γ : Type} (path : String) (k : κ) (before : κ → Spot γ) :
    Except IoFault Unit → (κ → Spot γ) → Prop where
  | missing (e : IoFault) (there : before k = .gone) (absent : e.isAbsence = true) :
      Removal path k before (.error e) before
  | removed (content : γ) (after : κ → Spot γ) (there : before k = .file content)
      (emptied : after k = .gone) (elsewhere : ∀ j, j ≠ k → after j = before j) :
      Removal path k before (.ok ()) after
  | refused (content : γ) (cause : IoFault) (present : cause.isAbsence = false)
      (there : before k = .stuck content cause present) :
      Removal path k before (.error (.atPath cause path)) before

variable {σ κ γ : Type}

/-- A view of the file system of a world: the places to which paths lead, and what is there. -/
structure Places (w : World σ) (κ γ : Type) where
  place : String → κ
  view : σ → κ → Spot γ
  remove (s : σ) (path : String) :
    Removal path (place path) (view s) (w.remove s path).1 (view (w.remove s path).2)

namespace Places

variable {w : World σ} (fs : Places w κ γ)

/-- The failure to come when a path is tried to be removed. -/
def refusal? (before : κ → Spot γ) (path : String) : Option (String × IoFault) :=
  (before (fs.place path)).cause?.map fun cause => (path, .atPath cause path)

/-- What could be removed at some paths was removed, and nothing else changed. -/
structure Sweeps (paths : List String) (before after : κ → Spot γ) : Prop where
  emptied : ∀ path ∈ paths, (before (fs.place path)).cause? = none →
    after (fs.place path) = .gone
  untouched : ∀ k, (∀ path ∈ paths, fs.place path = k → (before k).cause? ≠ none) →
    after k = before k

theorem sweeps_nil (before : κ → Spot γ) : fs.Sweeps [] before before := ⟨by simp, by simp⟩

variable {fs}

/-- A removal changes no other place, nor what cannot be removed. -/
theorem removal_frame {path : String} {k : κ} {before after : κ → Spot γ}
    {v : Except IoFault Unit} (h : Removal path k before v after) (j : κ)
    (hj : j = k → (before k).cause? ≠ none) : after j = before j := by
  cases h with
  | missing | refused => rfl
  | removed content after there _ elsewhere =>
    apply elsewhere
    rintro rfl
    exact hj rfl (by rw [there]; rfl)

theorem removal_empties {path : String} {k : κ} {before after : κ → Spot γ}
    {v : Except IoFault Unit} (h : Removal path k before v after)
    (hk : (before k).cause? = none) : after k = .gone := by
  cases h with
  | missing _ there => exact there
  | removed _ _ _ emptied => exact emptied
  | refused _ _ _ there => simp [there, Spot.cause?] at hk

/-- What could not be removed before cannot be removed after, and for the same cause. -/
theorem removal_cause {path : String} {k : κ} {before after : κ → Spot γ}
    {v : Except IoFault Unit} (h : Removal path k before v after) (j : κ) :
    (after j).cause? = (before j).cause? := by
  by_cases hk : (before k).cause? = none
  · by_cases hj : j = k
    · subst hj
      rw [removal_empties h hk, hk]
      rfl
    · rw [removal_frame h j fun hjk => absurd hjk hj]
  · rw [removal_frame h j fun _ => hk]

theorem removal_failure {path : String} {before after : κ → Spot γ} {v : Except IoFault Unit}
    (h : Removal path (fs.place path) before v after) :
    TempFiles.removalFailure? path v = fs.refusal? before path := by
  cases h with
  | missing e there absent => simp [TempFiles.removalFailure?, refusal?, there, absent, Spot.cause?]
  | removed _ _ there => simp [TempFiles.removalFailure?, refusal?, there, Spot.cause?]
  | refused content cause present there =>
    simp [TempFiles.removalFailure?, refusal?, there, Spot.cause?, IoFault.isAbsence, present]

theorem sweeps_cons {path : String} {paths : List String} {before between after : κ → Spot γ}
    {v : Except IoFault Unit} (h : Removal path (fs.place path) before v between)
    (hs : fs.Sweeps paths between after) : fs.Sweeps (path :: paths) before after := by
  constructor
  · intro p hp hnone
    -- a later path may lead to the same place, which is empty then or cannot be emptied
    by_cases hrest : ∃ q ∈ paths, fs.place q = fs.place p
    · obtain ⟨q, hq, hplace⟩ := hrest
      rw [← hplace]
      apply hs.emptied q hq
      rw [removal_cause h, hplace]
      exact hnone
    · obtain rfl | hp := List.mem_cons.mp hp
      · rw [hs.untouched _ fun q hq hplace => absurd ⟨q, hq, hplace⟩ hrest]
        exact removal_empties h hnone
      · exact absurd ⟨p, hp, rfl⟩ hrest
  · intro k hk
    rw [hs.untouched k fun q hq hplace => ?_]
    · refine removal_frame h k ?_
      rintro rfl
      exact hk path (by simp) rfl
    · rw [removal_cause h]
      exact hk q (by simp [hq]) hplace

end Places

namespace TempFiles
open Act

theorem removeAll_failures (w : World σ) (paths : List String) (s : Scene (Recording σ)) :
    (removeAll w.recorded paths).Traces s fun r _ _ ds =>
      r = .ok (ds.filterMap Deed.removalFailure?) := by
  induction paths generalizing s with
  | nil => exact traces_pure _ rfl
  | cons path paths ih =>
    refine traces_bind (removeFile_traces w path s) ?_ (by simp)
    rintro v t _ _ ⟨-, -, _, ⟨⟩, rfl⟩
    refine traces_bind (ih t) ?_ (by simp)
    rintro _ u _ ds ⟨⟩
    refine traces_pure _ ?_
    rw [List.append_nil, List.filterMap_append]
    cases hv : removalFailure? path v <;> simp [Deed.removalFailure?, hv]

theorem cleanup_cleaned (w : World σ) (s : Scene (Recording σ)) :
    (cleanup w.recorded).Traces s fun r _ _ ds => r = cleaned ds := by
  refine traces_bind (release_traces w s (removeAll_failures w s.files.paths _)) ?_ (by simp)
  rintro failures t _ ds hr
  obtain rfl := Except.ok.inj hr
  refine traces_bind_emitAll _ ?_
  have hfirst : (ds.filterMap Deed.removalFailure?).head? = ds.findSome? Deed.removalFailure? :=
    List.head?_filterMap
  cases hf : ds.filterMap Deed.removalFailure? with
  | nil =>
    rw [hf] at hfirst
    exact traces_pure _ (by simp [cleaned, removalFault?, ← hfirst])
  | cons failure failures =>
    rw [hf] at hfirst
    exact traces_fail _ (by simp [cleaned, removalFault?, ← hfirst])

theorem removeFile_places (w : World σ) (fs : Places w κ γ) (path : String)
    (s : Scene (Recording σ)) :
    (removeFile w.recorded path).Traces s fun r t _ ds => ∃ v, r = .ok v ∧
      ds = [.remove path v] ∧ Removal path (fs.place path) (fs.view s.world.world) v
        (fs.view t.world.world) :=
  traces_bind_note _ (.remove path) (w.remove s.world.world path) rfl <|
    traces_bind_emit _ <| traces_pure _ ⟨_, rfl, rfl, fs.remove s.world.world path⟩

/-- The failures of removals are those that were to come when they began. -/
theorem removeAll_places (w : World σ) (fs : Places w κ γ) (paths : List String)
    (s : Scene (Recording σ)) :
    (removeAll w.recorded paths).Traces s fun r t _ ds => (∃ failures, r = .ok failures) ∧
      fs.Sweeps paths (fs.view s.world.world) (fs.view t.world.world) ∧
      ds.map Deed.removalFailure? = paths.map (fs.refusal? (fs.view s.world.world)) := by
  induction paths generalizing s with
  | nil => exact traces_pure _ ⟨⟨_, rfl⟩, fs.sweeps_nil _, rfl⟩
  | cons path paths ih =>
    refine traces_bind (removeFile_places w fs path s) ?_ (by simp)
    rintro v t _ _ ⟨_, ⟨⟩, rfl, hremoval⟩
    refine traces_bind (ih t) ?_ (by simp)
    rintro failures u _ ds ⟨-, hsweeps, hds⟩
    refine traces_pure _ ⟨⟨_, rfl⟩, Places.sweeps_cons hremoval hsweeps, ?_⟩
    have hsame : fs.refusal? (fs.view t.world.world) = fs.refusal? (fs.view s.world.world) := by
      funext q
      simp [Places.refusal?, Places.removal_cause hremoval]
    simp [Deed.removalFailure?, Places.removal_failure hremoval, hds, hsame]

theorem cleanup_places (w : World σ) (fs : Places w κ γ) (s : Scene (Recording σ)) :
    (cleanup w.recorded).Traces s fun _ t _ ds =>
      fs.Sweeps s.files.paths (fs.view s.world.world) (fs.view t.world.world) ∧
      ds.map Deed.removalFailure? =
        s.files.paths.map (fs.refusal? (fs.view s.world.world)) := by
  refine traces_bind (release_traces w s (removeAll_places w fs s.files.paths _)) ?_ (by simp)
  rintro failures t _ ds ⟨-, hsweeps, hds⟩
  refine traces_bind_emitAll _ ?_
  cases failures with
  | nil => exact traces_pure _ ⟨hsweeps, by simpa using hds⟩
  | cons => exact traces_fail _ ⟨hsweeps, by simpa using hds⟩

/-- What a cleanup does with the tracked files: it tries to remove each once, in order, tracks none
after that, and tells the first removal that failed. -/
structure Cleanup (s t : Scene (Recording σ)) (r : Except Stop Unit) (ds : List Deed) : Prop where
  attempts : ds.map Deed.removed? = s.files.paths.map some
  untracked : t.files = { s.files with paths := [] }
  outcome : TellsFirst Deed.removalFailure? ds r

/-- What a cleanup does to a file system: what can be removed of the tracked files is gone, all else
is as it was, and the first tracked file that cannot be removed is told. -/
structure Clears {w : World σ} (fs : Places w κ γ) (s t : Scene (Recording σ))
    (r : Except Stop Unit) (ds : List Deed) : Prop where
  sweeps : fs.Sweeps s.files.paths (fs.view s.world.world) (fs.view t.world.world)
  failures : ds.map Deed.removalFailure? = s.files.paths.map (fs.refusal? (fs.view s.world.world))
  outcome : TellsFirst (fs.refusal? (fs.view s.world.world)) s.files.paths r

/-- For every world, all tracked files and whatever the attempts to remove them come to. -/
theorem cleanup_clears (w : World σ) (s : Scene (Recording σ)) :
    (cleanup w.recorded).Traces s fun r t _ ds =>
      ((cleanup w).outcome s.forget = r ∧ (cleanup w).after s.forget = t.forget) ∧
      Cleanup s t r ds ∧ ∀ (κ γ : Type) (fs : Places w κ γ), Clears fs s t r ds := by
  obtain ⟨es, ds, hes, hds, hrun⟩ := traces_run (cleanup_cleaned w s)
  have hcleaned := hrun _ (cleanup_cleaned w s)
  obtain ⟨huntracked, -, hattempts, -⟩ := hrun _ (cleanup_traces w s)
  refine ⟨es, hes, ds, hds, ⟨(cleanup_mirrors w).outcome s, (cleanup_mirrors w).after s⟩,
    ⟨hattempts, huntracked, ?_⟩, fun κ γ fs => ?_⟩
  · rw [hcleaned]
    exact tellsFirst Deed.removalFailure? ds
  · obtain ⟨hsweeps, hfailures⟩ := hrun _ (cleanup_places w fs s)
    have hfirst : ds.findSome? Deed.removalFailure? =
        s.files.paths.findSome? (fs.refusal? (fs.view s.world.world)) := by
      have hmapped := congrArg (List.findSome? id) hfailures
      rwa [List.findSome?_map, List.findSome?_map] at hmapped
    refine ⟨hsweeps, hfailures, ?_⟩
    rw [hcleaned, cleaned, removalFault?, hfirst]
    exact tellsFirst (fs.refusal? (fs.view s.world.world)) s.files.paths

end TempFiles

namespace Session
open Act

theorem shutdown_cleaned (w : World σ) (s : Scene (Recording σ)) :
    (shutdown w.recorded).Traces s fun r _ _ ds => r = cleaned ds := by
  refine traces_bind_get <| traces_bind (traces_attempt (TempFiles.cleanup_cleaned w s)) ?_ ?_
  · rintro r t _ ds ⟨r', hr, hcleaned⟩
    cases r with
    | ok v =>
      obtain rfl := attempted_ok r' v hr.symm
      exact traces_emit _ (by simpa using hcleaned)
    | error f =>
      obtain rfl := attempted_fault r' f hr.symm
      exact traces_bind_emit _ <| traces_fail _ (by simpa using hcleaned)
  · rintro e t _ ds ⟨r', hr, hcleaned⟩
    obtain ⟨rfl, rfl⟩ := attempted_hung r' e hr.symm
    exact hcleaned

end Session

/-- A disk with room for files of some size; the files that are made are numbered. -/
structure Disk where
  room : Nat
  made : Nat := 0
  spots : String → Spot (List UInt8)

namespace Disk

def set (d : Disk) (path : String) (spot : Spot (List UInt8)) : Disk :=
  { d with spots := fun p => if p = path then spot else d.spots p }

def remove (d : Disk) (path : String) : Except IoFault Unit × Disk :=
  match d.spots path with
  | .gone => (.error (.atPath (.system .noEntry) path), d)
  | .file _ => (.ok (), d.set path .gone)
  | .stuck _ cause _ => (.error (.atPath cause path), d)

/-- An empty file, unless its name is taken. -/
def create (d : Disk) (dir suffix : String) : Except IoFault String × Disk :=
  let path := dir ++ "/" ++ toString d.made ++ suffix
  match d.spots path with
  | .gone => (.ok path, { d.set path (.file []) with made := d.made + 1 })
  | _ => (.error (.system .exists), d)

/-- Fills a file as far as there is room. -/
def fill (d : Disk) (path : String) (contents : List UInt8) : Except IoFault Unit × Disk :=
  match d.spots path with
  | .file _ =>
    (if contents.length ≤ d.room then .ok () else .error (.system .noSpace),
      d.set path (.file (contents.take d.room)))
  | _ => (.error (.system .noEntry), d)

/-- A world in which there is a disk, and nothing else. -/
def world : World Disk where
  tempDir := "/tmp"
  lookup _ _ := .error .noEntry
  read _ _ := .error (.system .noEntry)
  readInput d := (.ok [], d)
  create := create
  fill := fill
  remove := remove
  setMode d _ _ := (.ok (), d)
  spawn d _ _ := (.error (.system .noEntry), d)
  during d _ _ := ([], d)
  elapse d _ _ _ := ([], d)
  release d _ := d
  pass d _ := d

theorem removal (d : Disk) (path : String) :
    Removal path path d.spots (d.remove path).1 (d.remove path).2.spots := by
  unfold remove
  split
  next h => exact .missing _ h rfl
  next content h => exact .removed content _ h (if_pos rfl) fun j hj => if_neg hj
  next content cause present h => exact .refused content cause present h

def places : Places world String (List UInt8) where
  place := id
  view := spots
  remove := removal

end Disk

namespace TempFiles
open Act

/-- Of five tracked files the second is gone, and the third and the fourth cannot be removed: the
last one is removed all the same, and the third is told. -/
theorem cleanup_clears_stuck : ∃ (d : Disk) (s t : Scene (Recording Disk)) (r : Except Stop Unit)
    (ds : List Deed), s.world.world = d ∧
    s.files.paths = ["/tmp/a", "/tmp/b", "/tmp/c", "/tmp/d", "/tmp/e"] ∧
    s.files.paths.map (fun path => (d.spots path).cause?) =
      [none, none, some (.system .accessDenied), some (.system .busy), none] ∧
    (cleanup Disk.world).outcome s.forget = r ∧ Cleanup s t r ds ∧ Clears Disk.places s t r ds ∧
    r = .error (.fault (.removing "/tmp/c" (.atPath (.system .accessDenied) "/tmp/c"))) := by
  let d : Disk := {
    room := 0
    spots := fun path =>
      if path = "/tmp/b" then .gone
      else if path = "/tmp/c" then .stuck [] (.system .accessDenied) rfl
      else if path = "/tmp/d" then .stuck [] (.system .busy) rfl
      else .file [0x61] }
  let s : Scene (Recording Disk) := {
    world := { world := d }
    files := { dir := "/tmp", paths := ["/tmp/a", "/tmp/b", "/tmp/c", "/tmp/d", "/tmp/e"] } }
  obtain ⟨es, -, ds, -, ⟨hr, -⟩, hcleanup, hclears⟩ := cleanup_clears Disk.world s
  refine ⟨d, s, _, _, ds, rfl, rfl, by decide +kernel, hr, hcleanup, hclears _ _ Disk.places, ?_⟩
  have hfirst : s.files.paths.findSome? (Disk.places.refusal? d.spots) =
      some ("/tmp/c", .atPath (.system .accessDenied) "/tmp/c") := by decide +kernel
  obtain ⟨before, path, after, hsplit, hpath, hbefore⟩ := List.findSome?_eq_some_iff.mp hfirst
  exact ((hclears _ _ Disk.places).outcome.fails _).mpr
    ⟨_, _, rfl, before, path, after, hsplit, hpath, hbefore⟩

end TempFiles

end CellRunner
