import StatementWalk.Proofs.Noted

/-!
# Actions that follow the journal

What a walk writes can be told by an action on the journal alone. An action on a driver follows it
when both end in the same way and leave the same journal, however the sink answers; of the driver it
is said what holds when the action succeeds.
-/

namespace StatementWalk

/-- From the driver state `s`, the action ends and writes as the one on the journal does, and the
driver that it leaves on success has the property `P`. -/
def Follows {σ α : Type} (a : Action (World σ) α) (s : σ) (x : Action Journal α) (P : σ → Prop) :
    Prop :=
  ∀ j, (a.run ⟨s, j⟩).1 = (x.run j).1 ∧ (a.run ⟨s, j⟩).2.journal = (x.run j).2 ∧
    ∀ v, (x.run j).1 = .ok v → P (a.run ⟨s, j⟩).2.driver

namespace Follows

variable {σ α β : Type} {a : Action (World σ) α} {f : α → Action (World σ) β} {s t : σ}
  {x : Action Journal α} {g : α → Action Journal β} {P Q : σ → Prop}

/-- What comes after an action is followed step by step. The result of the action may be computed
from the one on the journal. -/
theorem bind_map {γ : Type} {y : Action Journal γ} {h : γ → α} {g : γ → Action Journal β}
    (hx : Follows a s (h <$> y) P) (hf : ∀ v t, P t → Follows (f (h v)) t (g v) Q) :
    Follows (a >>= f) s (y >>= g) Q := by
  intro j
  obtain ⟨hr, hj, hp⟩ := hx j
  rw [Action.run_map] at hr hj hp
  cases hrun : a.run ⟨s, j⟩ with
  | mk r w =>
      cases hyrun : y.run j with
      | mk q k =>
          rw [hrun, hyrun] at hr hj hp
          dsimp only at hr hj hp
          subst hr hj
          cases q with
          | error e =>
              rw [Action.run_bind_error hrun, Action.run_bind_error hyrun]
              exact ⟨rfl, rfl, fun v h => nomatch h⟩
          | ok v =>
              rw [Action.run_bind_ok hrun, Action.run_bind_ok hyrun]
              exact hf v w.driver (hp (h v) rfl) w.journal

theorem bind (hx : Follows a s x P) (hf : ∀ v t, P t → Follows (f v) t (g v) Q) :
    Follows (a >>= f) s (x >>= g) Q := by
  rw [← id_map x] at hx
  exact hx.bind_map hf

theorem pure (v : α) (h : P s) : Follows (Pure.pure v) s (Pure.pure v) P :=
  fun _ => ⟨rfl, rfl, fun _ _ => h⟩

theorem onJournal (x : Action Journal α) (s : σ) : Follows (World.onJournal x) s x (· = s) :=
  fun _ => ⟨rfl, rfl, fun _ _ => rfl⟩

theorem log (level : Level) (source : Source) (text : String) (s : σ) :
    Follows (World.log level source text) s (Journal.note level source text) (· = s) :=
  fun _ => ⟨rfl, rfl, fun _ _ => rfl⟩

theorem state {f : World σ → Action (World σ) α} (hf : ∀ j, Follows (f ⟨s, j⟩) s x P) :
    Follows (Action.state >>= f) s x P := by
  intro j
  rw [Action.run_bind_ok (Action.run_state _)]
  exact hf j j

theorem map (hx : Follows a s x P) (g : α → β) : Follows (g <$> a) s (g <$> x) P := by
  rw [map_eq_pure_bind, map_eq_pure_bind]
  exact hx.bind fun v t ht => .pure (g v) ht

end Follows

namespace Performs

variable {σ α β : Type} {a : Action (World σ) α} {f : α → Action (World σ) β} {s t : σ}
  {x : Noted α} {g : α → Action Journal β} {y : Action Journal β} {Q : σ → Prop}

/-- First a computation that only notes, then the rest. -/
theorem bind_follows (hx : Performs a s x t)
    (hf : ∀ v, x.result = .ok v → Follows (f v) t (g v) Q) :
    Follows (a >>= f) s (x.act >>= g) Q := by
  intro j
  cases hr : x.result with
  | error e =>
      have ha := hx j
      have hact := x.run_act j
      rw [hr] at ha hact
      rw [Action.run_bind_error ha, Action.run_bind_error hact]
      exact ⟨rfl, rfl, fun v h => nomatch h⟩
  | ok v =>
      have ha := hx j
      have hact := x.run_act j
      rw [hr] at ha hact
      rw [Action.run_bind_ok ha, Action.run_bind_ok hact]
      exact hf v hr (j.addRecords x.notes)

theorem after_follows {v : α} (hx : Performs a s (.ofExcept (.ok v)) t)
    (hf : Follows (f v) t y Q) : Follows (a >>= f) s y Q := by
  intro j
  have ha := hx j
  simp only [Noted.result_ofExcept, Noted.notes_ofExcept, Journal.addRecords_nil] at ha
  rw [Action.run_bind_ok ha]
  exact hf j

theorem stop_follows {e : Fault} (hx : Performs a s (.ofExcept (.error e)) t) :
    Follows (a >>= f) s (Action.fail e) Q := by
  intro j
  have ha := hx j
  simp only [Noted.result_ofExcept, Noted.notes_ofExcept, Journal.addRecords_nil] at ha
  rw [Action.run_bind_error ha]
  exact ⟨rfl, rfl, fun v h => nomatch h⟩

end Performs

end StatementWalk
