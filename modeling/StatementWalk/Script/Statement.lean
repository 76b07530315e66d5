import StatementWalk.Script.Resource

/-!
# Scripted statements

A statement whose every answer is written down in advance: each step says what the calls return or
which fault they raise.
-/

namespace StatementWalk

structure StepScript where
  isResultSet : Except Fault Value := .ok (.bool false)
  count : Except Fault Value := .ok (.int (-1))
  resultSet : Option ResultSetScript := none
  warnings : Except Fault (List Notice) := .ok []
  clearFault : Option Fault := none

structure ScriptedStatement where
  steps : List StepScript
  index : Nat := 0
  /-- The result set that was given out by the last request for one. -/
  rows : Option ScriptedRows := none

namespace ScriptedStatement

def ofSteps (steps : List StepScript) : ScriptedStatement := { steps }

/-- The current step; past the last one nothing is left. -/
def step (s : ScriptedStatement) : StepScript := s.steps.getD s.index {}

def answerStep : Action ScriptedStatement Bool := do
  return (← Action.ofExcept (← Action.state).step.isResultSet).isTruthy

def setRows (rows : Option ScriptedRows) : Action ScriptedStatement Unit :=
  Action.modify fun s => { s with rows := rows }

/-- The result set of the current step, if it has one. -/
def giveRows : Action ScriptedStatement (Option (ResultSet ScriptedStatement)) := do
  match (← Action.state).step.resultSet with
  | none =>
    setRows none
    return none
  | some script =>
    setRows (some (.ofScript script))
    return some (ScriptedRows.resultSet script.columns (fun s => s.rows.getD {})
      (fun rows s => { s with rows := some rows }))

def statement : Statement ScriptedStatement where
  className := "ScriptedStatement"
  prepared := false
  execute := fun _ => answerStep
  executePrepared := answerStep
  getResultSet := giveRows
  getUpdateCount := do Action.ofExcept (← Action.state).step.count
  getMoreResults := do
    Action.modify fun s => { s with index := s.index + 1 }
    answerStep
  getWarnings := do
    let notices ← Action.ofExcept (← Action.state).step.warnings
    return WarningRecord.chain (notices.map WarningRecord.single)
  clearWarnings := do
    match (← Action.state).step.clearFault with
    | some f => Action.fail f
    | none => return
  close := pure ()
  reach := fun s => s.steps.length - s.index

end ScriptedStatement

end StatementWalk
