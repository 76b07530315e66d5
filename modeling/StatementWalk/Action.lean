import StatementWalk.Fault

/-!
# Actions

An action runs on a state, gives a result or a fault, and leaves a state either way. A failed action
keeps the changes that it made before it failed.
-/

namespace StatementWalk

/-- A step that may fail and keeps the state that it reached. -/
def Action (σ α : Type) : Type := σ → Except Fault α × σ

namespace Action

variable {σ τ α β : Type}

def run (x : Action σ α) (s : σ) : Except Fault α × σ := x s

protected def pure (a : α) : Action σ α := fun s => (.ok a, s)

protected def bind (x : Action σ α) (f : α → Action σ β) : Action σ β := fun s =>
  match x s with
  | (.ok a, t) => f a t
  | (.error e, t) => (.error e, t)

instance : Monad (Action σ) where
  pure := Action.pure
  bind := Action.bind

def fail (f : Fault) : Action σ α := fun s => (.error f, s)

/-- A result or fault that was computed without the state. -/
def ofExcept (x : Except Fault α) : Action σ α := fun s => (x, s)

def state : Action σ σ := fun s => (.ok s, s)

def modify (f : σ → σ) : Action σ Unit := fun s => (.ok (), f s)

/-- Never fails: a fault becomes part of the result. -/
def attempt (x : Action σ α) : Action σ (Except Fault α) := fun s => (.ok (x s).1, (x s).2)

/-- Runs a second action whatever became of the first. A fault of the second hides the outcome of
the first. -/
def thenAlways (x : Action σ α) (cleanup : Action σ Unit) : Action σ α := fun s =>
  match cleanup (x s).2 with
  | (.ok _, t) => ((x s).1, t)
  | (.error f, t) => (.error f, t)

def within (get : τ → σ) (set : σ → τ → τ) (x : Action σ α) : Action τ α := fun t =>
  ((x (get t)).1, set (x (get t)).2 t)

@[simp] theorem run_pure (a : α) (s : σ) : (pure a : Action σ α).run s = (.ok a, s) := rfl

@[simp] theorem run_fail (f : Fault) (s : σ) : (fail f : Action σ α).run s = (.error f, s) := rfl

@[simp] theorem run_ofExcept (x : Except Fault α) (s : σ) : (ofExcept x).run s = (x, s) := rfl

@[simp] theorem run_state (s : σ) : (state : Action σ σ).run s = (.ok s, s) := rfl

@[simp] theorem run_modify (f : σ → σ) (s : σ) : (modify f).run s = (.ok (), f s) := rfl

@[simp] theorem run_attempt (x : Action σ α) (s : σ) :
    x.attempt.run s = (.ok (x.run s).1, (x.run s).2) := rfl

theorem run_bind (x : Action σ α) (f : α → Action σ β) (s : σ) :
    (x >>= f).run s =
      match x.run s with
      | (.ok a, t) => (f a).run t
      | (.error e, t) => (.error e, t) := rfl

theorem run_map (f : α → β) (x : Action σ α) (s : σ) :
    (f <$> x).run s = ((x.run s).1.map f, (x.run s).2) := by
  show Action.bind x (fun a => Action.pure (f a)) s = _
  unfold Action.bind Action.pure run
  cases h : x s with
  | mk r t => cases r <;> rfl

theorem map_fail (f : α → β) (e : Fault) : f <$> (fail e : Action σ α) = fail e := rfl

theorem run_bind_ok {x : Action σ α} {f : α → Action σ β} {s t : σ} {a : α}
    (h : x.run s = (.ok a, t)) : (x >>= f).run s = (f a).run t := by rw [run_bind, h]

theorem run_bind_error {x : Action σ α} {f : α → Action σ β} {s t : σ} {e : Fault}
    (h : x.run s = (.error e, t)) : (x >>= f).run s = (.error e, t) := by rw [run_bind, h]

/-- A computation that does not use the state is one step after the other. -/
theorem ofExcept_bind (x : Except Fault α) (f : α → Except Fault β) :
    (ofExcept (x >>= f) : Action σ β) = ofExcept x >>= fun a => ofExcept (f a) := by
  cases x <;> rfl

theorem ofExcept_map (f : α → β) (x : Except Fault α) :
    (ofExcept (f <$> x) : Action σ β) = f <$> ofExcept x := by
  cases x <;> rfl

theorem run_thenAlways {x : Action σ α} {cleanup : Action σ Unit} {r : Except Fault α} {s t : σ}
    (h : x.run s = (r, t)) :
    (x.thenAlways cleanup).run s =
      match cleanup.run t with
      | (.ok _, u) => (r, u)
      | (.error f, u) => (.error f, u) := by
  show (match cleanup.run (x.run s).2 with
    | (.ok _, u) => ((x.run s).1, u)
    | (.error f, u) => (.error f, u)) = _
  rw [h]

instance : LawfulMonad (Action σ) :=
  LawfulMonad.mk' (Action σ)
    (fun x => by
      funext s
      show (Action.bind x (fun a => Action.pure a)) s = x s
      unfold Action.bind Action.pure
      cases h : x s with
      | mk r t => cases r <;> rfl)
    (fun _ _ => rfl)
    (fun x f g => by
      funext s
      show Action.bind (Action.bind x f) g s = Action.bind x (fun a => Action.bind (f a) g) s
      unfold Action.bind
      cases h : x s with
      | mk r t => cases r <;> rfl)

end Action

end StatementWalk
