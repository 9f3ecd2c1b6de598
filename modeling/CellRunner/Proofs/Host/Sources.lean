import CellRunner.Host.Run
import CellRunner.Proofs.Session.Breakdown
import CellRunner.Proofs.Session.Ledger
import CellRunner.Proofs.Session.Recorded
import CellRunner.Proofs.Session.Removals

/-!
# From the sources to the end of the program

The sources are handled in order until one cannot be read or the backend fails at one. Whatever
stops them, the session is shut down once, after the last of them, and what is reported is the
first trouble.
-/

set_option autoImplicit false

/-! ## The program with a record

The whole program does in a world that keeps a record what it does in the world without.
-/

namespace CellRunner.Host
open Act

variable {σ α : Type}

theorem mirrors_look (request : Recording σ → α) (plain : σ → α)
    (h : ∀ s, request s = plain s.world) : Mirrors (look request) (look plain) :=
  mirrors_get fun s => by
    rw [h s.world]
    exact mirrors_pure _

theorem loadConfig_mirrors (w : World σ) (path : Option String) :
    Mirrors (loadConfig w.recorded path) (loadConfig w path) := by
  cases path with
  | some p =>
    refine mirrors_bind (mirrors_look _ _ fun _ => rfl) fun r => ?_
    cases r <;> exact mirrors_pure _
  | none =>
    refine mirrors_bind (mirrors_look _ _ fun _ => rfl) fun isThere => ?_
    dsimp only
    split
    · refine mirrors_bind (mirrors_emit _) fun _ =>
        mirrors_bind (mirrors_look _ _ fun _ => rfl) fun r => ?_
      cases r <;> exact mirrors_pure _
    · refine mirrors_bind (mirrors_look _ _ fun _ => rfl) fun r => ?_
      cases r <;> exact mirrors_pure _

theorem readSource_mirrors (w : World σ) (path : String) :
    Mirrors (readSource w.recorded path) (readSource w path) := by
  unfold readSource
  split
  · refine mirrors_bind (mirrors_ask _ _ fun _ => rfl) fun bytes => ?_
    cases bytes >>= asText <;> exact mirrors_pure _
  · refine mirrors_bind (mirrors_look _ _ fun _ => rfl) fun bytes => ?_
    cases bytes >>= asText <;> exact mirrors_pure _

theorem describeAll_mirrors (w : World σ) (c : Config) (sources : List String) :
    Mirrors (describeAll w.recorded c sources) (describeAll w c sources) := by
  induction sources with
  | nil => exact mirrors_pure _
  | cons path paths ih =>
    refine mirrors_bind (readSource_mirrors w path) fun r => ?_
    cases r with
    | error t => exact mirrors_pure _
    | ok source =>
      exact mirrors_bind (mirrors_emitAll _) fun _ => mirrors_bind (mirrors_emit _) fun _ => ih

theorem executeAll_mirrors (w : World σ) (c : Config) (sources : List String) :
    Mirrors (executeAll w.recorded c sources) (executeAll w c sources) := by
  induction sources with
  | nil => exact mirrors_pure _
  | cons path paths ih =>
    refine mirrors_bind (readSource_mirrors w path) fun r => ?_
    cases r with
    | error t => exact mirrors_pure _
    | ok source =>
      refine mirrors_bind (mirrors_emit _) fun _ => mirrors_bind (mirrors_attempt <|
        mirrors_bind (Session.run_mirrors w c source) fun _ => mirrors_pure _) fun r => ?_
      cases r with
      | ok _ => exact ih
      | error f => exact mirrors_pure _

theorem handleAll_mirrors (w : World σ) (c : Config) (sources : List String) :
    Mirrors (handleAll w.recorded c sources) (handleAll w c sources) := by
  refine mirrors_bind (mirrors_modify _ _ fun _ => rfl) fun _ =>
    mirrors_bind (executeAll_mirrors w c sources) fun outcome =>
      mirrors_bind (mirrors_attempt (Session.shutdown_mirrors w)) fun r => ?_
  cases r with
  | ok _ => exact mirrors_pure _
  | error f => exact mirrors_pure _

theorem run_mirrors (w : World σ) (i : Invocation) : Mirrors (run w.recorded i) (run w i) := by
  refine mirrors_bind (loadConfig_mirrors w i.config) fun r => ?_
  cases r with
  | error t => exact mirrors_pure _
  | ok c =>
    dsimp only
    split
    · exact describeAll_mirrors w c i.sources
    · exact handleAll_mirrors w c i.sources

end CellRunner.Host

/-! ## From the sources to the end of the program -/

namespace CellRunner

namespace Act

variable {σ α : Type}

theorem traces_bind_look {β : Type} {s : Scene (Recording σ)} {f : α → Act (Recording σ) β}
    {R : Except Stop β → Scene (Recording σ) → List Event → List Deed → Prop}
    (request : Recording σ → α) (h : (f (request s.world)).Traces s R) :
    (look request >>= f).Traces s R :=
  traces_begun (request s.world) s [] [] rfl (by simp) (by simp) (by simpa using h)

/-- What an action comes to, the scene that it leaves and its requests are those of its run. -/
theorem traces_exact {a : Act (Recording σ) α} {s : Scene (Recording σ)}
    {P : Except Stop α → Scene (Recording σ) → List Event → List Deed → Prop} (h : a.Traces s P) :
    a.Traces s fun r t es ds =>
      (r = a.outcome s ∧ t = a.after s ∧ t.deeds = s.deeds ++ ds) ∧ P r t es ds := by
  obtain ⟨es, hes, ds, hds, hp⟩ := h
  exact ⟨es, hes, ds, hds, ⟨rfl, rfl, hds⟩, hp⟩

end Act

namespace Session
open Act

variable {σ : Type}

/-- What the execution of a source does with its files, and when it fails. -/
theorem execute_traces (w : World σ) (c : Config) (source : String) (s : Scene (Recording σ)) :
    (execute w.recorded c source).Traces s fun r t _ ds =>
      Orderly r ds ∧ Kept ds ∧ t.files.paths = s.files.paths ++ filled ds := by
  refine traces_bind (traces_and (run_orderly w c source s) (run_files w c source s)) ?_ ?_
  · rintro report t _ ds ⟨horderly, -, paths, hopens, hfiles⟩
    obtain ⟨rfl, hkept⟩ := opens_kept _ _ _ _ hopens
    refine traces_pure _ ?_
    rw [List.append_nil, hfiles]
    exact ⟨.done _ ds (completes_of_orderly report horderly), hkept, rfl⟩
  · rintro e t _ ds ⟨horderly, -, paths, hopens, hfiles⟩
    obtain ⟨rfl, hkept⟩ := opens_kept _ _ _ _ hopens
    exact ⟨orderly_error e horderly, hkept, by rw [hfiles]⟩

end Session

namespace Host
open Act

variable {σ : Type}

/-- What the reading of a source comes to, and the scene after it. -/
inductive Reads (w : World σ) (path : String) (s : Scene (Recording σ)) :
    Except Trouble String → Scene (Recording σ) → Prop where
  | file (h : namesInput path = false) :
      Reads w path s ((w.read s.world.world path >>= asText).mapError (.reading path)) s
  | input (h : namesInput path = true) :
      Reads w path s (((w.readInput s.world.world).1 >>= asText).mapError .readingInput)
        { s with world := (w.recorded.readInput s.world).2 }

/-- The scene in which a source begins to be executed. -/
def announced (path : String) (s : Scene (Recording σ)) : Scene (Recording σ) :=
  { s with events := s.events ++ [.executing path] }

/-- These sources, one after the other, are read and handled. -/
inductive Goes (w : World σ) (c : Config) :
    Scene (Recording σ) → List String → Scene (Recording σ) → Prop where
  | nil (s : Scene (Recording σ)) : Goes w c s [] s
  | next (path text : String) (s t : Scene (Recording σ)) (done : List String)
      (u : Scene (Recording σ)) (read : Reads w path s (.ok text) t)
      (handled : (Session.execute w.recorded c text).outcome (announced path t) = .ok .handled)
      (rest : Goes w c ((Session.execute w.recorded c text).after (announced path t)) done u) :
      Goes w c s (path :: done) u

/-- Why the sources that are left are not handled: there are none, or the first of them cannot be
read, or the backend fails at it. -/
inductive Stops (w : World σ) (c : Config) : List String → Scene (Recording σ) →
    Option Trouble → Scene (Recording σ) → Prop where
  | all (s : Scene (Recording σ)) : Stops w c [] s none s
  | unread (path : String) (rest : List String) (s : Scene (Recording σ)) (trouble : Trouble)
      (t : Scene (Recording σ)) (read : Reads w path s (.error trouble) t) :
      Stops w c (path :: rest) s (some trouble) t
  | failed (path text : String) (rest : List String) (s t : Scene (Recording σ)) (f : Fault)
      (read : Reads w path s (.ok text) t)
      (fails : (Session.execute w.recorded c text).outcome (announced path t) =
        .error (.fault f)) :
      Stops w c (path :: rest) s (some (.executing path f))
        ((Session.execute w.recorded c text).after (announced path t))

/-- The sources are handled in order, up to what stops them. -/
def Handles (w : World σ) (c : Config) (sources : List String) (s : Scene (Recording σ))
    (stop : Option Trouble) (t : Scene (Recording σ)) : Prop :=
  ∃ done rest u, sources = done ++ rest ∧ Goes w c s done u ∧ Stops w c rest u stop t

theorem handles_stops (w : World σ) (c : Config) (sources : List String)
    (s t : Scene (Recording σ)) (stop : Option Trouble) (h : Stops w c sources s stop t) :
    Handles w c sources s stop t :=
  ⟨[], sources, s, rfl, .nil s, h⟩

/-- A source that is handled, and the others. -/
theorem handles_next (w : World σ) (c : Config) (path text : String) (paths : List String)
    (s t u : Scene (Recording σ)) (stop : Option Trouble) (hread : Reads w path s (.ok text) t)
    (hhandled : (Session.execute w.recorded c text).outcome (announced path t) = .ok .handled)
    (h : Handles w c paths ((Session.execute w.recorded c text).after (announced path t)) stop u) :
    Handles w c (path :: paths) s stop u := by
  obtain ⟨done, rest, v, rfl, hgoes, hstops⟩ := h
  exact ⟨path :: done, rest, v, rfl, .next path text s t done v hread hhandled hgoes, hstops⟩

theorem error_of_mapError (x : Except IoFault String) (g : IoFault → Trouble) (trouble : Trouble)
    (h : .error trouble = x.mapError g) : ∃ e, trouble = g e := by
  cases x with
  | ok text => exact nomatch h
  | error e => exact ⟨e, Except.error.inj h⟩

theorem unread_trouble (w : World σ) (path : String) (s t : Scene (Recording σ))
    (trouble : Trouble) (h : Reads w path s (.error trouble) t) (other : String) (f : Fault) :
    trouble ≠ .executing other f := by
  generalize hr : (Except.error trouble : Except Trouble String) = r at h
  cases h with
  | file =>
    obtain ⟨e, rfl⟩ := error_of_mapError _ _ trouble hr
    nofun
  | input =>
    obtain ⟨e, rfl⟩ := error_of_mapError _ _ trouble hr
    nofun

/-- The reading of a source makes no files, and nothing goes wrong with the backend in it. -/
theorem readSource_traces (w : World σ) (path : String) (s : Scene (Recording σ)) :
    (readSource w.recorded path).Traces s fun r t _ ds => ∃ v, r = .ok v ∧ Reads w path s v t ∧
      t.files = s.files ∧ Fileless ds ∧ ∀ d ∈ ds, d.Completes := by
  unfold readSource
  split
  next hinput =>
    have hreads := Reads.input (w := w) (s := s) hinput
    have hcompletes (result : Except IoFault (List UInt8)) :
        Deed.Completes (.readInput result) := ⟨trivial, nofun⟩
    refine traces_begun (w.readInput s.world.world).1
      { s with world := (w.recorded.readInput s.world).2 } []
      [.readInput (w.readInput s.world.world).1] rfl (by simp) rfl ?_
    cases hread : (w.readInput s.world.world).1 >>= asText <;> rw [hread] at hreads <;>
      exact traces_pure _ ⟨_, rfl, hreads, rfl, fileless_one _ rfl, by simpa using hcompletes _⟩
  next hfile =>
    have hreads := Reads.file (w := w) (s := s) (by simpa using hfile)
    refine traces_begun (w.read s.world.world path) s [] [] rfl (by simp) (by simp) ?_
    cases hread : w.read s.world.world path >>= asText <;> rw [hread] at hreads <;>
      exact traces_pure _ ⟨_, rfl, hreads, rfl, fileless_nil, by simp⟩

/-- What is known of the requests `ds` made for some sources: the files are kept, and the backend
failed in one exactly if this is the trouble. -/
structure Settles (r : Except Stop (Option Trouble)) (s t : Scene (Recording σ))
    (ds : List Deed) : Prop where
  kept : Kept ds
  paths : t.files.paths = s.files.paths ++ filled ds
  hung : ∀ e, r = .error e → e = .hung ∧ ∃ d ∈ ds, ¬ d.IsAnswered
  answered : ∀ stop, r = .ok stop → ∀ d ∈ ds, d.IsAnswered
  fails : (∃ path f, r = .ok (some (.executing path f))) ↔ ∃ d ∈ ds, ∃ f, d.Breaks f

theorem settles_after (r : Except Stop (Option Trouble)) (s t u : Scene (Recording σ))
    (ds es : List Deed) (hk : Kept ds) (hp : t.files.paths = s.files.paths ++ filled ds)
    (hc : ∀ d ∈ ds, d.Completes) (h : Settles r t u es) : Settles r s u (ds ++ es) where
  kept := kept_append ds es hk h.kept
  paths := by simp [h.paths, hp]
  hung e he := by
    obtain ⟨rfl, d, hd, hno⟩ := h.hung e he
    exact ⟨rfl, d, List.mem_append_right ds hd, hno⟩
  answered stop hstop d hd :=
    (List.mem_append.mp hd).elim (fun hd => (hc d hd).answered) (h.answered stop hstop d)
  fails := by
    rw [h.fails]
    constructor
    · rintro ⟨d, hd, hbreaks⟩
      exact ⟨d, List.mem_append_right ds hd, hbreaks⟩
    · rintro ⟨d, hd, f, hbreaks⟩
      obtain hd | hd := List.mem_append.mp hd
      · exact absurd hbreaks ((hc d hd).well f)
      · exact ⟨d, hd, f, hbreaks⟩

/-- No more sources are handled, and nothing has gone wrong with the backend. -/
theorem settles_here (stop : Option Trouble) (s : Scene (Recording σ))
    (h : ∀ path f, stop ≠ some (.executing path f)) : Settles (.ok stop) s s [] where
  kept := .refl []
  paths := by simp [filled]
  hung := by simp
  answered := by simp
  fails := by simpa using h

/-- An execution that fails, or never ends. -/
theorem settles_stopped (r : Except Stop Session.Status) (r' : Except Stop (Option Trouble))
    (s t : Scene (Recording σ)) (ds : List Deed) (h : Orderly r ds) (hk : Kept ds)
    (hp : t.files.paths = s.files.paths ++ filled ds)
    (hr : (∃ path f, r = .error (.fault f) ∧ r' = .ok (some (.executing path f))) ∨
      r = .error .hung ∧ r' = .error .hung) : Settles r' s t ds := by
  have hb := breakdown_of_orderly r ds h
  obtain ⟨path, f, rfl, rfl⟩ | ⟨rfl, rfl⟩ := hr
  · have hanswered : ∀ d ∈ ds, d.IsAnswered := by simpa using hb.hangs
    exact ⟨hk, hp, by simp, fun _ _ => hanswered, by simpa using hb.fails⟩
  · have hnone : ¬ ∃ d ∈ ds, ∃ f, d.Breaks f := by simpa using hb.fails
    refine ⟨hk, hp, ?_, by simp, by simpa using hnone⟩
    rintro _ ⟨⟩
    exact ⟨rfl, hb.hangs.mp rfl⟩

theorem executeAll_traces (w : World σ) (c : Config) (sources : List String)
    (s : Scene (Recording σ)) :
    (executeAll w.recorded c sources).Traces s fun r t _ ds => Settles r s t ds ∧
      ∀ stop, r = .ok stop → Handles w c sources s stop t := by
  induction sources generalizing s with
  | nil =>
    refine traces_pure none ⟨settles_here none s (by simp), ?_⟩
    rintro _ ⟨⟩
    exact handles_stops _ _ _ _ _ _ (.all s)
  | cons path paths ih =>
    refine traces_bind (readSource_traces w path s) ?_ (by simp)
    rintro v t _ ds ⟨_, ⟨⟩, hread, hfiles, hfileless, hcomplete⟩
    obtain ⟨hcreated, hfilled, hremoved⟩ := fileless_paths ds hfileless
    have hafter (r : Except Stop (Option Trouble)) (u : Scene (Recording σ)) (es : List Deed)
        (h : Settles r t u es) : Settles r s u (ds ++ es) :=
      settles_after r s t u ds es (by simp [Kept, hcreated, hfilled, hremoved])
        (by simp [hfiles, hfilled]) hcomplete h
    cases v with
    | error trouble =>
      have hno := unread_trouble w path s t trouble hread
      refine traces_pure _ ⟨hafter _ t [] (settles_here _ t (by simpa using hno)), ?_⟩
      rintro _ ⟨⟩
      exact handles_stops _ _ _ _ _ _ (.unread path paths s trouble t hread)
    | ok text =>
      refine traces_bind_emit _ <| traces_bind
        (traces_attempt (traces_exact (Session.execute_traces w c text (announced path t)))) ?_ ?_
      · rintro v u _ es ⟨r, hv, ⟨hr, rfl, -⟩, horderly, hkept, hpaths⟩
        cases v with
        | error f =>
          obtain rfl := attempted_fault r f hv.symm
          have hfailed := settles_stopped _ (.ok (some (.executing path f))) t _ es horderly hkept
            hpaths (.inl ⟨path, f, rfl, rfl⟩)
          refine traces_pure _ ⟨by simpa using hafter _ _ es hfailed, ?_⟩
          rintro _ ⟨⟩
          exact handles_stops _ _ _ _ _ _ (.failed path text paths s t f hread hr.symm)
        | ok status =>
          obtain rfl := attempted_ok r status hv.symm
          refine traces_mono (ih _) ?_
          rintro r' x _ fs ⟨hsettles, hhandles⟩
          have hrest := settles_after r' t _ x es fs hkept hpaths
            (completes_of_orderly status horderly) hsettles
          refine ⟨hafter r' x _ hrest, fun stop hstop => ?_⟩
          exact handles_next w c path text paths s t x stop hread hr.symm (hhandles stop hstop)
      · rintro e u _ es ⟨r, hv, -, horderly, hkept, hpaths⟩
        obtain ⟨rfl, rfl⟩ := attempted_hung r e hv.symm
        have hstops := settles_stopped _ (.error .hung) t u es horderly hkept hpaths
          (.inr ⟨rfl, rfl⟩)
        exact ⟨hafter _ u es hstops, by simp⟩

/-- The scene in which the handling of the sources begins. -/
def opened (w : World σ) (c : Config) (s : Scene (Recording σ)) : Scene (Recording σ) :=
  { s with files := { dir := c.tempDir w.tempDir }, executions := 0 }

/-- What the handling of the sources comes to, with the scene that it leaves and its requests. -/
inductive Concludes (w : World σ) (c : Config) (sources : List String)
    (s : Scene (Recording σ)) :
    Except Stop (Option Trouble) → Scene (Recording σ) → List Deed → Prop where
  /-- a call is never answered -/
  | hung (t : Scene (Recording σ)) (ds : List Deed) (d : Deed) (hd : d ∈ ds)
      (never : ¬ d.IsAnswered) : Concludes w c sources s (.error .hung) t ds
  /-- something stops the sources, or they are all handled; then the session is shut down, in which
  each file that is left is tried to be removed, and the trouble is the first -/
  | shut (stop : Option Trouble) (v : Scene (Recording σ)) (work cleaning : List Deed)
      (handles : Handles w c sources s stop v) (deeds : v.deeds = s.deeds ++ work)
      (answered : ∀ d ∈ work, d.IsAnswered)
      (fails : (∃ path f, stop = some (.executing path f)) ↔ ∃ d ∈ work, ∃ f, d.Breaks f)
      (removals : cleaning.map Deed.removed? = (filled work).map some)
      (balance : (created (work ++ cleaning)).Perm (removed (work ++ cleaning)))
      (left : ((Session.shutdown w.recorded).after v).files.paths = []) :
      Concludes w c sources s (.ok (stop.or ((removalFault? cleaning).map .cleanup)))
        ((Session.shutdown w.recorded).after v) (work ++ cleaning)

/-- All files that were made were tried to be removed, once those that are left are. -/
theorem balance_of_removals (work cleaning : List Deed) (hk : Kept work)
    (hr : cleaning.map Deed.removed? = (filled work).map some) :
    (created (work ++ cleaning)).Perm (removed (work ++ cleaning)) := by
  obtain ⟨hcreated, hremoved⟩ := paths_of_removals _ _ hr
  rw [created_append, removed_append, hcreated, hremoved, List.append_nil]
  exact hk

theorem handleAll_traces (w : World σ) (c : Config) (sources : List String)
    (s : Scene (Recording σ)) :
    (handleAll w.recorded c sources).Traces s fun r t _ ds =>
      Concludes w c sources (opened w c s) r t ds := by
  refine traces_bind_modify _ [] rfl (by simp [Scene.deeds]) ?_
  refine traces_bind (traces_exact (executeAll_traces w c sources (opened w c s))) ?_ ?_
  rotate_left
  · rintro e t _ ds ⟨⟨-, -, -⟩, hsettles, -⟩
    obtain ⟨rfl, d, hd, never⟩ := hsettles.hung e rfl
    exact .hung t ds d hd never
  rintro stop v _ work ⟨⟨-, -, hwork⟩, hsettles, hhandles⟩
  have hpaths : v.files.paths = filled work := hsettles.paths
  refine traces_bind (traces_attempt (traces_exact (traces_and
    (Session.shutdown_cleaned w v) (Session.shutdown_files w v)))) ?_ ?_
  rotate_left
  · rintro e t _ cleaning ⟨_, hr, -, rfl, -⟩
    rw [attempted_cleaned] at hr
    contradiction
  rintro v' t _ cleaning ⟨_, hr, ⟨-, rfl, -⟩, rfl, hfiles, -, hremovals, -⟩
  rw [attempted_cleaned] at hr
  obtain rfl := Except.ok.inj hr
  have hends := Concludes.shut stop v work cleaning (hhandles stop rfl) hwork
    (hsettles.answered stop rfl) (by simpa using hsettles.fails) (hpaths ▸ hremovals)
    (balance_of_removals work cleaning hsettles.kept (hpaths ▸ hremovals)) (by rw [hfiles])
  cases hf : removalFault? cleaning with
  | none => exact traces_pure stop (by simpa [hf] using hends)
  | some f => exact traces_pure (stop.or (some (.cleanup f))) (by simpa [hf] using hends)

/-- The configuration is looked for without a request that changes the world. -/
theorem loadConfig_traces (w : World σ) (path : Option String) (s : Scene (Recording σ)) :
    (loadConfig w.recorded path).Traces s fun _ _ _ ds => ds = [] := by
  cases path with
  | some p =>
    refine traces_bind_look _ ?_
    cases Config.loadAndValidate w.recorded s.world p <;> exact traces_pure _ (by simp)
  | none =>
    refine traces_bind_look _ ?_
    dsimp only
    split
    · refine traces_bind_emit _ <| traces_bind_look _ ?_
      cases Config.loadOrDefault w.recorded s.world Config.defaultPath <;> exact traces_pure _ rfl
    · refine traces_bind_look _ ?_
      cases Config.loadOrDefault w.recorded s.world Config.defaultPath <;> exact traces_pure _ rfl

/-- For all sources and every world in which the configuration is loaded: whatever becomes of the
reading and of the handling of each source, the session is shut down once, after the last that is
handled, no file that was made is forgotten, and the trouble is the first. -/
theorem run_sources (w : World σ) (i : Invocation) (c : Config) (s : Scene (Recording σ))
    (hd : i.dryRun = false) (hc : (loadConfig w i.config).outcome s.forget = .ok (.ok c)) :
    (run w.recorded i).Traces s fun r t _ ds => (run w i).outcome s.forget = r ∧
      Concludes w c i.sources (opened w c ((loadConfig w.recorded i.config).after s)) r t ds := by
  rw [(loadConfig_mirrors w i.config).outcome s] at hc
  refine traces_mirrors (run_mirrors w i) ?_
  refine traces_bind (traces_exact (loadConfig_traces w i.config s)) ?_ ?_
  · rintro v t _ _ ⟨⟨hv, rfl, -⟩, rfl⟩
    obtain rfl : v = .ok c := Except.ok.inj (hv.trans hc)
    dsimp only
    rw [if_neg (by simp [hd])]
    exact handleAll_traces w c i.sources _
  · rintro e t _ _ ⟨⟨he, -, -⟩, -⟩
    exact nomatch he.trans hc

end Host

/-- A world in which one file cannot be read, nothing compiles and nothing can be removed. The
files that are made are numbered. -/
def World.stubborn (unreadable : String) : World Nat :=
  { World.granting fun _ => 1 with
    lookup := fun _ _ => .error .noEntry
    read := fun _ path => if path = unreadable then .error (.system .noEntry) else .ok []
    create := fun n dir suffix => (.ok (dir ++ "/" ++ toString n ++ suffix), n + 1)
    remove := fun n _ => (.error (.system .accessDenied), n) }

namespace Host
open Act

/-- The second of three sources cannot be read, nor can the files of the first be removed. -/
theorem run_sources_unreadable : ∃ (i : Invocation) (s t : Scene (Recording Nat))
    (r : Except Stop (Option Trouble)) (ds : List Deed),
    i.sources = ["a.c", "b.c", "c.c"] ∧ i.dryRun = false ∧
    (loadConfig (World.stubborn "b.c") i.config).outcome s.forget = .ok (.ok {}) ∧
    (run (World.stubborn "b.c") i).outcome s.forget = r ∧
    (run (World.stubborn "b.c").recorded i).after s = t ∧ t.deeds = s.deeds ++ ds ∧
    Concludes (World.stubborn "b.c") {} i.sources
      (opened (World.stubborn "b.c") {}
        ((loadConfig (World.stubborn "b.c").recorded i.config).after s)) r t ds ∧
    r = .ok (some (.reading "b.c" (.system .noEntry))) ∧
    removed ds = ["/tmp/0.c", "/tmp/1.out"] := by
  let i : Invocation := { sources := ["a.c", "b.c", "c.c"] }
  let s : Scene (Recording Nat) := { world := { world := 0 }, files := { dir := "/tmp" } }
  let a := run (World.stubborn "b.c").recorded i
  have hconfig : (loadConfig (World.stubborn "b.c") i.config).outcome s.forget = .ok (.ok {}) := rfl
  obtain ⟨es, -, ds, hds, hrun, h⟩ := run_sources (World.stubborn "b.c") i {} s rfl hconfig
  have hdeeds : ds = (a.after s).deeds := hds.symm
  have hcheck (r : Except Stop (Option Trouble)) (stop : Option Trouble)
      (hr : r.toOption = some stop) : r = .ok stop := by
    cases r with
    | ok v => exact congrArg _ (Option.some.inj hr)
    | error e => exact nomatch hr
  refine ⟨i, s, _, _, ds, rfl, rfl, hconfig, hrun, rfl, hds, h, hcheck _ _ ?_, ?_⟩
  · decide +kernel
  · rw [hdeeds]
    decide +kernel

end Host

end CellRunner
