import CellRunner.Session.Job
import CellRunner.Session.TempFiles

/-!
# What an action yields

An action only ever adds events. What it comes to, the scene that it leaves and the events
that it adds are described together, and the description of an action is put together from
those of its parts.
-/

set_option autoImplicit false

namespace CellRunner.Act

variable {σ α β : Type}

/-- What an action comes to. -/
def outcome (a : Act σ α) (s : Scene σ) : Except Stop α :=
  match a s with
  | .ok v _ => .ok v
  | .error e _ => .error e

/-- The scene that an action leaves. -/
def after (a : Act σ α) (s : Scene σ) : Scene σ :=
  match a s with
  | .ok _ t => t
  | .error _ t => t

/-- Begun in `s`, the action adds events, and `P` holds of what it comes to, of the scene that
it leaves and of the events that it adds. -/
def Yields (a : Act σ α) (s : Scene σ) (P : Except Stop α → Scene σ → List Event → Prop) :
    Prop :=
  ∃ es, (a.after s).events = s.events ++ es ∧ P (a.outcome s) (a.after s) es

variable {a : Act σ α} {s t : Scene σ} {es : List Event}
  {P Q : Except Stop α → Scene σ → List Event → Prop}

theorem yields_ok (v : α) (ha : a s = .ok v t) (he : t.events = s.events ++ es)
    (hp : P (.ok v) t es) : a.Yields s P := by
  refine ⟨es, ?_, ?_⟩
  · rw [after, ha]
    exact he
  · rw [after, outcome, ha]
    exact hp

theorem yields_error (e : Stop) (ha : a s = .error e t) (he : t.events = s.events ++ es)
    (hp : P (.error e) t es) : a.Yields s P := by
  refine ⟨es, ?_, ?_⟩
  · rw [after, ha]
    exact he
  · rw [after, outcome, ha]
    exact hp

theorem yields_mono (h : a.Yields s P) (hpq : ∀ r t es, P r t es → Q r t es) :
    a.Yields s Q := by
  obtain ⟨es, he, hp⟩ := h
  exact ⟨es, he, hpq _ _ _ hp⟩

theorem yields_pure (v : α) (h : P (.ok v) s []) : Yields (pure v) s P :=
  yields_ok v rfl (by simp) h

theorem yields_fail (f : Fault) (h : P (.error (.fault f)) s []) : Yields (fail f) s P :=
  yields_error (.fault f) rfl (by simp) h

theorem yields_hung (h : P (.error .hung) s []) : Yields (throw .hung) s P :=
  yields_error .hung rfl (by simp) h

/-- An action, and what follows if it does not stop. -/
theorem yields_bind {f : α → Act σ β} {R : Except Stop β → Scene σ → List Event → Prop}
    (h : a.Yields s P)
    (hok : ∀ v t es, P (.ok v) t es → (f v).Yields t fun r u more => R r u (es ++ more))
    (herror : ∀ e t es, P (.error e) t es → R (.error e) t es) :
    (a >>= f).Yields s R := by
  obtain ⟨es, he, hp⟩ := h
  unfold after at he
  unfold after outcome at hp
  cases ha : a s with
  | error e t =>
    rw [ha] at he hp
    exact yields_error e (by simp [bind, EStateM.bind, ha]) he (herror e t es hp)
  | ok v t =>
    rw [ha] at he hp
    obtain ⟨more, hmore, hr⟩ := hok v t es hp
    have hrun : (a >>= f) s = f v t := by simp [bind, EStateM.bind, ha]
    refine ⟨es ++ more, ?_, ?_⟩
    · rw [after, hrun, ← after, hmore, he, List.append_assoc]
    · rw [after, outcome, hrun]
      exact hr

theorem yields_get {R : Except Stop (Scene σ) → Scene σ → List Event → Prop}
    (h : R (.ok s) s []) : Yields get s R :=
  yields_ok s rfl (by simp) h

theorem yields_modify {R : Except Stop Unit → Scene σ → List Event → Prop}
    (f : Scene σ → Scene σ) (he : (f s).events = s.events) (h : R (.ok ()) (f s) []) :
    Yields (modify f) s R :=
  yields_ok () rfl (by simpa using he) h

theorem yields_emitAll {R : Except Stop Unit → Scene σ → List Event → Prop}
    (es : List Event) (h : R (.ok ()) { s with events := s.events ++ es } es) :
    Yields (emitAll es) s R :=
  yields_ok () rfl rfl h

theorem yields_emit {R : Except Stop Unit → Scene σ → List Event → Prop} (e : Event)
    (h : R (.ok ()) { s with events := s.events ++ [e] } [e]) : Yields (emit e) s R :=
  yields_ok () rfl rfl h

theorem yields_ask (request : σ → α × σ)
    (h : P (.ok (request s.world).1) { s with world := (request s.world).2 } []) :
    Yields (ask request) s P :=
  yields_ok (request s.world).1 rfl (by simp) h

/-- What an attempt makes of the outcome of an action: a fault is a result. -/
def attempted : Except Stop α → Except Stop (Except Fault α)
  | .ok v => .ok (.ok v)
  | .error (.fault f) => .ok (.error f)
  | .error .hung => .error .hung

theorem attempted_ok (r : Except Stop α) (v : α) (h : attempted r = .ok (.ok v)) : r = .ok v := by
  rcases r with (f | _) | u <;> simp_all [attempted]

theorem attempted_fault (r : Except Stop α) (f : Fault) (h : attempted r = .ok (.error f)) :
    r = .error (.fault f) := by
  rcases r with (g | _) | u <;> simp_all [attempted]

theorem attempted_hung (r : Except Stop α) (e : Stop) (h : attempted r = .error e) :
    r = .error .hung ∧ e = .hung := by
  rcases r with (g | _) | u <;> simp_all [attempted]

theorem yields_attempt (h : a.Yields s P) :
    (attempt a).Yields s fun r t es => ∃ r', r = attempted r' ∧ P r' t es := by
  obtain ⟨es, he, hp⟩ := h
  have hafter : (attempt a).after s = a.after s := by
    unfold after attempt
    cases a s with
    | ok v t => rfl
    | error e t => cases e <;> rfl
  have houtcome : (attempt a).outcome s = attempted (a.outcome s) := by
    unfold outcome attempt
    cases a s with
    | ok v t => rfl
    | error e t => cases e <;> rfl
  exact ⟨es, hafter ▸ he, a.outcome s, houtcome, hafter ▸ hp⟩

end CellRunner.Act
