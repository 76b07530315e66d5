import StatementWalk.Journal

/-!
# Computations that only note

Some work that a walk does needs no driver: it ends with a result or a fault, and all that it leaves
behind are records in the log. An action performs such a computation when it ends the same way and
notes the same records, whatever the journal held before. What it does to the driver is then given
by the state that it leaves, and steps are chained one after the other.
-/

namespace StatementWalk

namespace Journal

def addRecords (j : Journal) (rs : List LogRecord) : Journal := { j with log := j.log ++ rs }

@[simp] theorem addRecords_nil (j : Journal) : j.addRecords [] = j := by simp [addRecords]

@[simp] theorem addRecords_addRecords (j : Journal) (rs qs : List LogRecord) :
    (j.addRecords rs).addRecords qs = j.addRecords (rs ++ qs) := by
  simp [addRecords, List.append_assoc]

theorem addRecord_eq (j : Journal) (r : LogRecord) : j.addRecord r = j.addRecords [r] := rfl

end Journal

/-- A result or a fault, with the records that are noted on the way to it. -/
structure Noted (α : Type) where
  notes : List LogRecord
  result : Except Fault α

namespace Noted

variable {α β : Type}

def ofExcept (x : Except Fault α) : Noted α := ⟨[], x⟩

protected def bind (x : Noted α) (f : α → Noted β) : Noted β :=
  match x.result with
  | .ok a => ⟨x.notes ++ (f a).notes, (f a).result⟩
  | .error e => ⟨x.notes, .error e⟩

instance : Monad Noted where
  pure a := ofExcept (.ok a)
  bind := Noted.bind

@[simp] theorem result_ofExcept (x : Except Fault α) : (ofExcept x).result = x := rfl

@[simp] theorem result_pure (a : α) : (pure a : Noted α).result = .ok a := rfl

@[simp] theorem notes_ofExcept (x : Except Fault α) : (ofExcept x).notes = [] := rfl

@[simp] theorem notes_pure (a : α) : (pure a : Noted α).notes = [] := rfl

theorem bind_of_ok {x : Noted α} {a : α} (h : x.result = .ok a) (f : α → Noted β) :
    x >>= f = ⟨x.notes ++ (f a).notes, (f a).result⟩ := by
  show Noted.bind x f = _
  simp only [Noted.bind, h]

theorem bind_of_error {x : Noted α} {e : Fault} (h : x.result = .error e) (f : α → Noted β) :
    x >>= f = ⟨x.notes, .error e⟩ := by
  show Noted.bind x f = _
  simp only [Noted.bind, h]

@[simp] theorem ofExcept_ok_bind (a : α) (f : α → Noted β) : ofExcept (.ok a) >>= f = f a := by
  rw [bind_of_ok (result_ofExcept _)]
  rfl

@[simp] theorem ofExcept_error_bind (e : Fault) (f : α → Noted β) :
    ofExcept (.error e) >>= f = ofExcept (.error e) := bind_of_error (result_ofExcept _) f

theorem result_bind (x : Noted α) (f : α → Noted β) :
    (x >>= f).result = x.result >>= fun a => (f a).result := by
  cases h : x.result with
  | ok a => rw [bind_of_ok h]; rfl
  | error e => rw [bind_of_error h]; rfl

theorem result_bind_eq_ok {x : Noted α} {f : α → Noted β} {b : β} :
    (x >>= f).result = .ok b ↔ ∃ a, x.result = .ok a ∧ (f a).result = .ok b := by
  rw [result_bind]
  cases x.result with
  | ok a => simp [bind, Except.bind]
  | error e => simp [bind, Except.bind]

def act (x : Noted α) : Action Journal α := fun j => (x.result, j.addRecords x.notes)

@[simp] theorem run_act (x : Noted α) (j : Journal) :
    x.act.run j = (x.result, j.addRecords x.notes) := rfl

theorem act_ofExcept (x : Except Fault α) : (ofExcept x).act = Action.ofExcept x := by
  funext j
  show (x, j.addRecords []) = (x, j)
  rw [Journal.addRecords_nil]

theorem act_bind (x : Noted α) (f : α → Noted β) :
    (x >>= f).act = x.act >>= fun a => (f a).act := by
  funext j
  show ((x >>= f).result, j.addRecords (x >>= f).notes) = (x.act >>= fun a => (f a).act).run j
  have hrun := x.run_act j
  cases h : x.result with
  | error e =>
      rw [h] at hrun
      rw [bind_of_error h, Action.run_bind_error hrun]
  | ok a =>
      rw [h] at hrun
      rw [bind_of_ok h, Action.run_bind_ok hrun, run_act, Journal.addRecords_addRecords]

end Noted

/-- From the driver state `s`, the action ends and notes as the computation does, and leaves `t`. -/
def Performs {σ α : Type} (a : Action (World σ) α) (s : σ) (x : Noted α) (t : σ) : Prop :=
  ∀ j, a.run ⟨s, j⟩ = (x.result, ⟨t, j.addRecords x.notes⟩)

namespace Performs

variable {σ α β : Type} {a : Action (World σ) α} {f : α → Action (World σ) β} {s t u : σ}

theorem ofExcept (x : Except Fault α) (s : σ) :
    Performs (Action.ofExcept x) s (.ofExcept x) s := fun _ => by simp

theorem pure (v : α) (s : σ) : Performs (Pure.pure v) s (Pure.pure v) s := fun _ => by simp

theorem fail (e : Fault) (s : σ) :
    Performs (Action.fail e : Action (World σ) α) s (.ofExcept (.error e)) s := fun _ => by simp

theorem onDriver {x : Action σ α} {r : Except Fault α} (h : x.run s = (r, t)) :
    Performs (World.onDriver x) s (.ofExcept r) t := fun _ => by simp [h]

theorem log (level : Level) (source : Source) (text : String) (s : σ) :
    Performs (World.log level source text) s ⟨[⟨level, source, text⟩], .ok ()⟩ s :=
  fun _ => by simp [Journal.addRecord_eq]

theorem attempt {x : Noted α} (h : Performs a s x t) :
    Performs a.attempt s ⟨x.notes, .ok x.result⟩ t := fun j => by simp [h j]

theorem bind_ok {x : Noted α} {g : α → Noted β} {v : α} (hx : Performs a s x t)
    (hv : x.result = .ok v) (hg : Performs (f v) t (g v) u) : Performs (a >>= f) s (x >>= g) u := by
  intro j
  have ha := hx j
  rw [hv] at ha
  rw [Action.run_bind_ok ha, hg, Journal.addRecords_addRecords, Noted.bind_of_ok hv]

theorem bind_error {x : Noted α} {g : α → Noted β} {e : Fault} (hx : Performs a s x t)
    (he : x.result = .error e) : Performs (a >>= f) s (x >>= g) t := by
  intro j
  have ha := hx j
  rw [he] at ha
  rw [Action.run_bind_error ha, Noted.bind_of_error he]

/-- A step that notes nothing is left out of the computation. -/
theorem after {y : Noted β} {v : α} (hx : Performs a s (.ofExcept (.ok v)) t)
    (hy : Performs (f v) t y u) : Performs (a >>= f) s y u := by
  intro j
  rw [Action.run_bind_ok (hx j)]
  simpa using hy j

theorem stop {e : Fault} (hx : Performs a s (.ofExcept (.error e)) t) :
    Performs (a >>= f) s (.ofExcept (.error e)) t := fun j => Action.run_bind_error (hx j)

theorem bind_pure {x : Noted α} (hx : Performs a s x t) (g : α → β) :
    Performs (a >>= fun v => Pure.pure (g v)) s (x >>= fun v => Pure.pure (g v)) t := by
  cases hv : x.result with
  | ok v => exact hx.bind_ok hv (.pure (g v) t)
  | error e => exact hx.bind_error hv

end Performs

end StatementWalk
