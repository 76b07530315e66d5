import StatementWalk.Session.Handles
import StatementWalk.Walk.Normalize

/-!
# Scripted resources

A resource that does nothing but leave its name in a trace when it is closed, and a result set that
has an answer for each way of reading each cell.
-/

namespace StatementWalk

structure ResourceScript where
  name : String
  className : String := "Closeable"
  closeFault : Option Fault := none

/-- The resource of a script. Its trace has the names of what was closed, in order. -/
def ResourceScript.closable (r : ResourceScript) : Closable (List String) where
  className := r.className
  close := do
    Action.modify (· ++ [r.name])
    match r.closeFault with
    | some f => Action.fail f
    | none => return

def marked {α : Type} (mark : String) (outcome : Except Fault α) : Action (List String) α := do
  Action.modify (· ++ [mark])
  Action.ofExcept outcome

structure CellScript where
  object : Except Fault Value := .ok .null
  text : Except Fault Value := .ok .null
  bytes : Except Fault Value := .ok .null
  timestamp : Except Fault Value := .ok .null
  date : Except Fault Value := .ok .null

def CellScript.get (c : CellScript) : Reading → Except Fault Value
  | .text => c.text
  | .bytes => c.bytes
  | .timestamp => c.timestamp
  | .date => c.date

structure ResultSetScript where
  columns : List Column := []
  rows : List (List CellScript) := []
  closeFault : Option Fault := none

/-- A scripted result set: the current row, those after it, and whether it was closed. -/
structure ScriptedRows where
  current : List CellScript := []
  rest : List (List CellScript) := []
  closeFault : Option Fault := none
  closed : Bool := false

namespace ScriptedRows

def ofScript (script : ResultSetScript) : ScriptedRows :=
  { rest := script.rows, closeFault := script.closeFault }

def nextRow : Action ScriptedRows Bool := do
  match (← Action.state).rest with
  | [] => return false
  | row :: rest =>
    Action.modify fun s => { s with current := row, rest := rest }
    return true

def read (answer : CellScript → Except Fault Value) (index : Int) : Action ScriptedRows Value := do
  match atPosition? (← Action.state).current (index - 1) with
  | some c => Action.ofExcept (answer c)
  | none => Action.fail (.badPosition "list" (index - 1))

def close : Action ScriptedRows Unit := do
  Action.modify fun s => { s with closed := true }
  match (← Action.state).closeFault with
  | some f => Action.fail f
  | none => return

/-- A scripted result set that is a part of a larger state. -/
def resultSet {σ : Type} (columns : List Column) (get : σ → ScriptedRows)
    (set : ScriptedRows → σ → σ) : ResultSet σ where
  className := "ScriptedResultSet"
  columns := columns
  nextRow := nextRow.within get set
  getObject := fun index => (read CellScript.object index).within get set
  get := fun reading index => (read (·.get reading) index).within get set
  close := close.within get set
  reach := fun s => (get s).rest.length

end ScriptedRows

end StatementWalk
