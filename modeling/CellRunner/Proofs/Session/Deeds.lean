import CellRunner.Proofs.Session.Yields

/-!
# The requests that an action makes

A world can keep a record of the requests that change it, each with its answer; it does what it
did without the record. In such a world an action adds requests to the record as it adds events
to those of its scene, and what it adds is described together with what it comes to.
-/

set_option autoImplicit false

namespace CellRunner

/-- A request that changes the world, with what came of it. -/
inductive Deed where
  | create (dir suffix : String) (result : Except IoFault String)
  | fill (path : String) (contents : List UInt8) (result : Except IoFault Unit)
  | remove (path : String) (result : Except IoFault Unit)
  | setMode (path : String) (mode : Nat) (result : Except IoFault Unit)
  | spawn (program : String) (args : List String) (result : Except IoFault Nat)
  | during (process : Nat) (begun : Supervisor) (moves : List Supervisor.Move)
  | elapse (process : Nat) (state : Supervisor) (ms : Nat) (moves : List Supervisor.Move)
  | release (process : Nat)
  | readInput (result : Except IoFault (List UInt8))
  | pass (ms : Nat)

/-- A world's state with the requests made so far, oldest first. -/
structure Recording (σ : Type) where
  world : σ
  deeds : List Deed := []

namespace Recording

variable {σ α : Type}

/-- Notes a request with the answer that the world gives to it. -/
def note (s : Recording σ) (deed : α → Deed) (answer : α × σ) : α × Recording σ :=
  (answer.1, { world := answer.2, deeds := s.deeds ++ [deed answer.1] })

end Recording

variable {σ : Type}

/-- The world that keeps a record of all requests that change it. -/
def World.recorded (w : World σ) : World (Recording σ) where
  tempDir := w.tempDir
  lookup s := w.lookup s.world
  read s := w.read s.world
  readInput s := s.note .readInput (w.readInput s.world)
  create s dir suffix := s.note (.create dir suffix) (w.create s.world dir suffix)
  fill s path contents := s.note (.fill path contents) (w.fill s.world path contents)
  remove s path := s.note (.remove path) (w.remove s.world path)
  setMode s path mode := s.note (.setMode path mode) (w.setMode s.world path mode)
  spawn s program args := s.note (.spawn program args) (w.spawn s.world program args)
  during s process begun := s.note (.during process begun) (w.during s.world process begun)
  elapse s process state ms :=
    s.note (.elapse process state ms) (w.elapse s.world process state ms)
  release s process :=
    { world := w.release s.world process, deeds := s.deeds ++ [.release process] }
  pass s ms := { world := w.pass s.world ms, deeds := s.deeds ++ [.pass ms] }

/-- The requests made so far. -/
def Scene.deeds (s : Scene (Recording σ)) : List Deed := s.world.deeds

namespace Act

variable {α β : Type}

/-- Begun in `s`, the action adds events and requests, and `P` holds of what it comes to, of
the scene that it leaves, and of the events and the requests that it adds. -/
def Traces (a : Act (Recording σ) α) (s : Scene (Recording σ))
    (P : Except Stop α → Scene (Recording σ) → List Event → List Deed → Prop) : Prop :=
  a.Yields s fun r t es => ∃ ds, t.deeds = s.deeds ++ ds ∧ P r t es ds

variable {a : Act (Recording σ) α} {s : Scene (Recording σ)}
  {P Q : Except Stop α → Scene (Recording σ) → List Event → List Deed → Prop}

theorem traces_mono (h : a.Traces s P) (hpq : ∀ r t es ds, P r t es ds → Q r t es ds) :
    a.Traces s Q :=
  yields_mono h fun r t es ⟨ds, hds, hp⟩ => ⟨ds, hds, hpq r t es ds hp⟩

theorem traces_pure (v : α) (h : P (.ok v) s [] []) : Traces (pure v) s P :=
  yields_pure v ⟨[], by simp, h⟩

theorem traces_fail (f : Fault) (h : P (.error (.fault f)) s [] []) : Traces (fail f) s P :=
  yields_fail f ⟨[], by simp, h⟩

theorem traces_hung (h : P (.error .hung) s [] []) : Traces (throw .hung) s P :=
  yields_hung ⟨[], by simp, h⟩

theorem traces_bind {f : α → Act (Recording σ) β}
    {R : Except Stop β → Scene (Recording σ) → List Event → List Deed → Prop}
    (h : a.Traces s P)
    (hok : ∀ v t es ds, P (.ok v) t es ds →
      (f v).Traces t fun r u es' ds' => R r u (es ++ es') (ds ++ ds'))
    (herror : ∀ e t es ds, P (.error e) t es ds → R (.error e) t es ds) :
    (a >>= f).Traces s R := by
  refine yields_bind h ?_ ?_
  · rintro v t es ⟨ds, hds, hp⟩
    refine yields_mono (hok v t es ds hp) ?_
    rintro r u es' ⟨ds', hds', hr⟩
    exact ⟨ds ++ ds', by rw [hds', hds, List.append_assoc], hr⟩
  · rintro e t es ⟨ds, hds, hp⟩
    exact ⟨ds, hds, herror e t es ds hp⟩

/-- What does not speak of the outcome holds also of an action with another outcome. -/
theorem traces_map {R : Scene (Recording σ) → List Event → List Deed → Prop} (f : α → β)
    (h : a.Traces s fun _ t es ds => R t es ds) :
    Traces (do return f (← a)) s fun _ t es ds => R t es ds :=
  traces_bind h (fun v _ _ _ hr => traces_pure (f v) (by simpa using hr)) (fun _ _ _ _ hr => hr)

theorem traces_get
    {R : Except Stop (Scene (Recording σ)) → Scene (Recording σ) → List Event → List Deed → Prop}
    (h : R (.ok s) s [] []) : Traces get s R :=
  yields_get ⟨[], by simp, h⟩

theorem traces_modify
    {R : Except Stop Unit → Scene (Recording σ) → List Event → List Deed → Prop}
    (change : Scene (Recording σ) → Scene (Recording σ)) (ds : List Deed)
    (he : (change s).events = s.events) (hd : (change s).deeds = s.deeds ++ ds)
    (h : R (.ok ()) (change s) [] ds) : Traces (modify change) s R :=
  yields_modify change he ⟨ds, hd, h⟩

theorem traces_emitAll
    {R : Except Stop Unit → Scene (Recording σ) → List Event → List Deed → Prop}
    (es : List Event) (h : R (.ok ()) { s with events := s.events ++ es } es []) :
    Traces (emitAll es) s R :=
  yields_emitAll es ⟨[], by simp [Scene.deeds], h⟩

theorem traces_emit
    {R : Except Stop Unit → Scene (Recording σ) → List Event → List Deed → Prop}
    (e : Event) (h : R (.ok ()) { s with events := s.events ++ [e] } [e] []) :
    Traces (emit e) s R :=
  traces_emitAll [e] h

/-- A request that adds itself to the record. -/
theorem traces_ask (request : Recording σ → α × Recording σ) (ds : List Deed)
    (hd : (request s.world).2.deeds = s.world.deeds ++ ds)
    (h : P (.ok (request s.world).1) { s with world := (request s.world).2 } [] ds) :
    Traces (ask request) s P :=
  yields_ask request ⟨ds, hd, h⟩

section begun

variable {R : Except Stop β → Scene (Recording σ) → List Event → List Deed → Prop}

/-- An action whose first part comes to `v` and leaves `t`. -/
theorem traces_begun {f : α → Act (Recording σ) β} (v : α) (t : Scene (Recording σ))
    (es : List Event) (ds : List Deed) (ha : a s = .ok v t) (he : t.events = s.events ++ es)
    (hd : t.deeds = s.deeds ++ ds)
    (h : (f v).Traces t fun r u es' ds' => R r u (es ++ es') (ds ++ ds')) :
    (a >>= f).Traces s R := by
  refine traces_bind (P := fun r u es' ds' => r = .ok v ∧ u = t ∧ es' = es ∧ ds' = ds)
    (yields_ok v ha he ⟨ds, hd, rfl, rfl, rfl, rfl⟩) ?_ (by simp)
  rintro _ _ _ _ ⟨⟨⟩, rfl, rfl, rfl⟩
  exact h

theorem traces_bind_get {f : Scene (Recording σ) → Act (Recording σ) β} (h : (f s).Traces s R) :
    (get >>= f).Traces s R :=
  traces_begun s s [] [] rfl (by simp) (by simp) (by simpa using h)

theorem traces_bind_modify {f : Unit → Act (Recording σ) β}
    (change : Scene (Recording σ) → Scene (Recording σ)) (ds : List Deed)
    (he : (change s).events = s.events) (hd : (change s).deeds = s.deeds ++ ds)
    (h : (f ()).Traces (change s) fun r t es ds' => R r t es (ds ++ ds')) :
    (modify change >>= f).Traces s R :=
  traces_begun () (change s) [] ds rfl (by simpa using he) hd (by simpa using h)

theorem traces_bind_emitAll {f : Unit → Act (Recording σ) β} (es : List Event)
    (h : (f ()).Traces { s with events := s.events ++ es } fun r t es' ds => R r t (es ++ es') ds) :
    (emitAll es >>= f).Traces s R :=
  traces_begun () { s with events := s.events ++ es } es [] rfl rfl (by simp [Scene.deeds])
    (by simpa using h)

theorem traces_bind_emit {f : Unit → Act (Recording σ) β} (e : Event)
    (h : (f ()).Traces { s with events := s.events ++ [e] } fun r t es ds => R r t (e :: es) ds) :
    (emit e >>= f).Traces s R :=
  traces_bind_emitAll [e] h

/-- A request that notes itself, whatever the world answers. -/
theorem traces_bind_ask {f : α → Act (Recording σ) β} (request : Recording σ → α × Recording σ)
    (deed : α → Deed)
    (hd : (request s.world).2.deeds = s.world.deeds ++ [deed (request s.world).1])
    (h : ∀ v world, (f v).Traces { s with world } fun r t es ds => R r t es (deed v :: ds)) :
    (ask request >>= f).Traces s R :=
  traces_begun _ _ [] [deed (request s.world).1] rfl (by simp) hd (by simpa using h _ _)

/-- A request that notes itself, with what the world answers. -/
theorem traces_bind_note {f : α → Act (Recording σ) β} (request : Recording σ → α × Recording σ)
    (deed : α → Deed) (answer : α × σ) (hr : request s.world = s.world.note deed answer)
    (h : (f answer.1).Traces { s with world := (s.world.note deed answer).2 } fun r t es ds =>
      R r t es (deed answer.1 :: ds)) : (ask request >>= f).Traces s R := by
  refine traces_begun answer.1 { s with world := (s.world.note deed answer).2 } []
    [deed answer.1] ?_ (by simp) rfl (by simpa using h)
  have ha : ask request s = .ok (request s.world).1 { s with world := (request s.world).2 } := rfl
  rw [ha, hr]
  rfl

end begun

theorem traces_attempt (h : a.Traces s P) :
    (attempt a).Traces s fun r t es ds => ∃ r', r = attempted r' ∧ P r' t es ds :=
  yields_mono (yields_attempt h) fun _ _ _ ⟨r', hr, ds, hds, hp⟩ => ⟨ds, hds, r', hr, hp⟩

theorem traces_and (h : a.Traces s P) (h' : a.Traces s Q) :
    a.Traces s fun r t es ds => P r t es ds ∧ Q r t es ds := by
  obtain ⟨es, hes, ds, hds, hp⟩ := h
  obtain ⟨es', hes', ds', hds', hq⟩ := h'
  obtain rfl := List.append_cancel_left (hes.symm.trans hes')
  obtain rfl := List.append_cancel_left (hds.symm.trans hds')
  exact ⟨es, hes, ds, hds, hp, hq⟩

/-- All that is shown of an action is shown of the same events and requests. -/
theorem traces_run (h : a.Traces s Q) : ∃ es ds, (a.after s).events = s.events ++ es ∧
    (a.after s).deeds = s.deeds ++ ds ∧
    ∀ P : Except Stop α → Scene (Recording σ) → List Event → List Deed → Prop,
      a.Traces s P → P (a.outcome s) (a.after s) es ds := by
  obtain ⟨es, hes, ds, hds, -⟩ := h
  refine ⟨es, ds, hes, hds, ?_⟩
  rintro P ⟨es', hes', ds', hds', hp⟩
  obtain rfl := List.append_cancel_left (hes.symm.trans hes')
  obtain rfl := List.append_cancel_left (hds.symm.trans hds')
  exact hp

/-- If the action comes to a value, then `P` holds of it, of the scene that the action leaves, and
of the events and the requests that it adds. -/
def Returns (a : Act (Recording σ) α) (s : Scene (Recording σ))
    (P : α → Scene (Recording σ) → List Event → List Deed → Prop) : Prop :=
  a.Traces s fun r t es ds => ∀ v, r = .ok v → P v t es ds

section returns

variable {P : α → Scene (Recording σ) → List Event → List Deed → Prop}

theorem returns_mono {Q : α → Scene (Recording σ) → List Event → List Deed → Prop}
    (h : a.Returns s P) (hpq : ∀ v t es ds, P v t es ds → Q v t es ds) : a.Returns s Q :=
  traces_mono h fun _ t es ds hp v hv => hpq v t es ds (hp v hv)

theorem returns_pure (v : α) (h : P v s [] []) : Returns (pure v) s P :=
  traces_pure v (by simpa using h)

theorem returns_fail (f : Fault) : Returns (fail f) s P := traces_fail f (by simp)

theorem returns_hung : Returns (throw .hung) s P := traces_hung (by simp)

theorem returns_bind {f : α → Act (Recording σ) β}
    {R : β → Scene (Recording σ) → List Event → List Deed → Prop} (h : a.Returns s P)
    (hok : ∀ v t es ds, P v t es ds →
      (f v).Returns t fun u x es' ds' => R u x (es ++ es') (ds ++ ds')) :
    (a >>= f).Returns s R :=
  traces_bind h (fun v t es ds hp => hok v t es ds (hp v rfl)) (by simp)

end returns

end Act

end CellRunner
