import CellRunner.Proofs.Supervisor.Soundness

/-!
# Calls that have to do with the input

Writing to the input and closing it do not look at the process: its end is not recorded
meanwhile, whatever the others do.
-/

set_option autoImplicit false

namespace CellRunner.Supervisor

/-- Where the owner is in a call that has to do with the input. -/
def AtInput (s : Supervisor) : Prop := s.point = .idle ∨ ∃ rest, s.point = .writing rest

theorem AtInput.elsewhere {s : Supervisor} (h : s.AtInput) (p : Point) (hi : p ≠ .idle)
    (hw : ∀ rest, p ≠ .writing rest) : s.point ≠ p := by
  intro hp
  obtain h | ⟨rest, h⟩ := h
  · exact hi (hp.symm.trans h)
  · exact hw rest (hp.symm.trans h)

/-- In such a call there is nothing to look at, to hear or to be patient about. -/
theorem owner_still (s : Supervisor) (h : s.AtInput) :
    s.advance = s ∧ s.hear = s ∧ s.learnExit = s ∧ s.tire = s ∧ ∀ k, s.reap k = s := by
  refine ⟨?_, ?_, ?_, ?_, fun k => ?_⟩
  · unfold advance
    obtain h | ⟨rest, h⟩ := h <;> simp [h]
  · unfold hear
    obtain h | ⟨rest, h⟩ := h <;> simp [h]
  · unfold learnExit
    obtain h | ⟨rest, h⟩ := h <;> simp [h]
  · unfold tire
    obtain h | ⟨rest, h⟩ := h <;> simp [h]
  · simp [reap, h.elsewhere .lingering]

theorem input_step (s : Supervisor) (m : Move) (h : s.AtInput) :
    (s.step m).AtInput ∧ (s.step m).recorded = s.recorded := by
  have he := turn_effect s (.move m)
  rw [turn] at he
  generalize s.step m = u at he
  have hno (p : Point) (hp : s.point = p) (hi : p ≠ .idle) (hw : ∀ rest, p ≠ .writing rest) :
      False := h.elsewhere p hi hw hp
  cases he with
  | nothing | exits | loses | breaksInput => exact ⟨h, rfl⟩
  | writes | closes | reads | ends | notifies => exact ⟨by simpa [AtInput] using h, by simp⟩
  | takesSome n rest i _ => exact ⟨.inr ⟨_, rfl⟩, rfl⟩
  | takesLast | learnsBroken | learnsError => exact ⟨.inl rfl, rfl⟩
  | looks k e _ hp | looksFailing k e _ hp =>
    cases k <;> exact (hno _ hp (by simp [lookPoint]) (by simp [lookPoint])).elim
  | finishes k hp | finishesFailing k _ hp =>
    cases k <;> exact (hno _ hp (by simp [finishPoint]) (by simp [finishPoint])).elim
  | hearsListening hp | hearsLingering hp | learnsExit _ hp | learnsLoss _ hp | reaps _ hp
  | tires hp | seesExit _ hp | seesRunning hp | seesLoss _ hp | seesDrained hp
  | seesUndrained _ hp => exact (hno _ hp (by simp) (by simp)).elim

theorem input_run (s : Supervisor) (moves : List Move) (h : s.AtInput) :
    (s.run moves).recorded = s.recorded := by
  induction moves generalizing s with
  | nil => rfl
  | cons m moves ih =>
    obtain ⟨hat, hrec⟩ := input_step s m h
    exact (ih _ hat).trans hrec

theorem input_begin (s : Supervisor) (c : Call) (h : s.point = .idle)
    (hc : c = .close ∨ ∃ bytes, c = .write bytes) :
    (s.begin c).AtInput ∧ (s.begin c).recorded = s.recorded := by
  have he := turn_effect s (.call c)
  rw [turn] at he
  generalize s.begin c = u at he
  cases he with
  | nothing => exact ⟨.inl h, rfl⟩
  | begins c p _ hb =>
    obtain ⟨rfl, -⟩ | ⟨rfl, -⟩ | ⟨bytes, -, rfl⟩ := hb
    · simp at hc
    · simp at hc
    · exact ⟨.inr ⟨bytes, rfl⟩, rfl⟩
  | polls | pollsLoss => simp at hc
  | writesNothing => exact ⟨.inl rfl, rfl⟩
  | closesInput => exact ⟨.inl rfl, rfl⟩

end CellRunner.Supervisor
