import StatementWalk.Proofs.RowReading
import StatementWalk.Script.Cursor

/-!
# Faults of cells

A cell that cannot be read fails with a fault that names its column. Between the reads the value is
classified, and a driver object that cannot be classified lets its own fault through.
-/

namespace StatementWalk

def FaultKind.column? : FaultKind → Option Int
  | .valueRead column | .coercion _ _ column => column
  | _ => none

/-- The fault is a failed read and says of which column. -/
def Fault.NamesColumn (f : Fault) : Prop := ∃ column, f.kind.column? = some column

/-- A fault that names no column is given the column that was read. -/
theorem column?_cellFault (f : Fault) (index : Int) :
    (cellFault f index).kind.column? = some (f.kind.column?.getD index) := by
  obtain ⟨kind, message, cause⟩ := f
  cases kind with
  | valueRead column => cases column <;> rfl
  | coercion source target column => cases column <;> rfl
  | _ => rfl

theorem namesColumn_cellFault (f : Fault) (index : Int) : (cellFault f index).NamesColumn :=
  ⟨_, column?_cellFault f index⟩

namespace Dialect

variable {d : Dialect} {v : Value} {c : Column} {f : Fault}

end Dialect

open Dialect

section ReadAgain

variable {σ : Type} {rs : ResultSet σ} {index : Int} {w w' : World σ} {f : Fault} {v : Value}

end ReadAgain

namespace Session

variable {κ : Type} {b : Backend} {c : Cursor κ} {i : Nat} {index : Int} {s : Session κ}
  {columns : List Column} {v raw : Value} {column : Column} {f : Fault}

def toFirstRow (b : Backend) : Action (Session ScriptedCursor) Bool := do
  let _ ← execute b ScriptedCursor.cursor "select c" none
  let _ ← currentResultSet b ScriptedCursor.cursor
  nextRow ScriptedCursor.cursor 0

/-- On the first row of a table of one column, with the cell in it. -/
def atCell (d : Dialect) (entry : Entry) (v : Value) : Session ScriptedCursor :=
  let script : CursorScript := { outcomes := [.rows [entry] [.list [v]] none] }
  ((toFirstRow (.ofDialect d)).run (fresh (.ofScript script .null))).2

end Session

end StatementWalk
