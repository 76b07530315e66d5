import StatementWalk.Dialect.Reading
import StatementWalk.Journal
import StatementWalk.Record.Warning

/-!
# Handles of statements and result sets

What a walk asks of a driver. A statement yields outcomes one after the other; a result set is a
cursor over the rows of one of them. Both are given by their operations on the state of the driver,
and any of these may fail.
-/

namespace StatementWalk

/-- A row cursor over one result set. Columns count from one. -/
structure ResultSet (σ : Type) where
  className : String
  columns : List Column
  /-- Moves to the next row, and says whether there is one. -/
  nextRow : Action σ Bool
  getObject : Int → Action σ Value
  get : Reading → Int → Action σ Value
  close : Action σ Unit
  /-- A bound on the rows that are left. -/
  reach : σ → Nat

/-- An execution handle that yields a sequence of outcomes. -/
structure Statement (σ : Type) where
  className : String
  /-- Whether the statement has a text of its own. -/
  prepared : Bool
  /-- Runs a text, and says whether the first outcome is a result set. -/
  execute : String → Action σ Bool
  executePrepared : Action σ Bool
  getResultSet : Action σ (Option (ResultSet σ))
  /-- The number of rows affected, minus one where there is no count. -/
  getUpdateCount : Action σ Value
  /-- Moves to the next outcome, and says whether it is a result set. -/
  getMoreResults : Action σ Bool
  getWarnings : Action σ (Option WarningRecord)
  clearWarnings : Action σ Unit
  close : Action σ Unit
  /-- A bound on the outcomes that are left. -/
  reach : σ → Nat

structure Closable (σ : Type) where
  /-- The name under which a failed close is reported. -/
  className : String
  close : Action σ Unit

variable {σ α : Type}

def ResultSet.closable (rs : ResultSet σ) : Closable σ := ⟨rs.className, rs.close⟩

def Statement.closable (st : Statement σ) : Closable σ := ⟨st.className, st.close⟩

def closeFault (className : String) (f : Fault) : Fault :=
  ⟨.resourceClose, "Failed to close " ++ className ++ ": " ++ f.message, none⟩

/-- Closes a resource. A failure is logged and given back, never raised. -/
def closeQuietly (c : Closable σ) : Action (World σ) (Option Fault) := do
  match ← (World.onDriver c.close).attempt with
  | .ok _ => return none
  | .error f =>
    World.log .debug .statements ("Could not close " ++ c.className ++ ": " ++ f.message)
    return some (closeFault c.className f)

def closeIfPresent : Option (Closable σ) → Action (World σ) (Option Fault)
  | some c => closeQuietly c
  | none => return none

/-- Closes a result set and then its statement; failures are logged and forgotten. -/
def closeBoth (resultSet statement : Option (Closable σ)) : Action (World σ) Unit := do
  let _ ← closeIfPresent resultSet
  let _ ← closeIfPresent statement

/-- Runs an action and closes a resource after it, whatever became of the action. -/
def quietlyClosing (c : Option (Closable σ)) (x : Action (World σ) α) : Action (World σ) α :=
  x.thenAlways (do let _ ← closeIfPresent c)

/-- A quiet close never fails, and leaves the driver as the close left it. -/
theorem run_closeQuietly (c : Closable σ) (w : World σ) :
    (∃ r, ((closeQuietly c).run w).1 = .ok r) ∧
      ((closeQuietly c).run w).2.driver = (c.close.run w.driver).2 := by
  unfold closeQuietly
  cases h : (c.close.run w.driver).1 with
  | ok u => exact ⟨⟨none, by simp [Action.run_bind, h]⟩, by simp [Action.run_bind, h]⟩
  | error f =>
    exact ⟨⟨some (closeFault c.className f),
        by simp [Action.run_bind, Action.run_map, h, Except.map]⟩,
      by simp [Action.run_bind, Action.run_map, h]⟩

end StatementWalk
