import StatementWalk.Record.Outcome
import StatementWalk.Walk.Normalize
import StatementWalk.Walk.Report

/-!
# Walks

A walk executes a statement and consumes every outcome in driver order. A result set is drained,
written as a table and closed before the driver is asked for the next outcome. The warnings of a
step are reported as soon as the driver has reached it.
-/

namespace StatementWalk

variable {σ : Type}

/-- The rows of a result set with the lines that show them. -/
structure Table where
  rows : List (List Value) := []
  lines : List String := []

def rowLine (row : List Value) : Except Fault String := do
  return "\t".intercalate (← row.mapM Value.cellText)

def endlessRows : Fault :=
  ⟨.unexpectedDriver, "Driver delivered more rows than it has", none⟩

def endlessOutcomes : Fault :=
  ⟨.unexpectedDriver, "Driver delivered more outcomes than it has", none⟩

/-- Reads rows until there are none. `fuel` exceeds the number of rows. -/
def drain (d : Dialect) (rs : ResultSet σ) : Nat → Action (World σ) Table
  | 0 => Action.fail endlessRows
  | fuel + 1 => do
    if ← World.onDriver rs.nextRow then
      let row ← normalizeRow d rs
      let line ← Action.ofExcept (rowLine row)
      let rest ← drain d rs fuel
      return ⟨row :: rest.rows, line :: rest.lines⟩
    else return {}

def consumeRows (d : Dialect) (rs : ResultSet σ) : Action (World σ) Table :=
  quietlyClosing (some rs.closable) do
    let w ← Action.state
    drain d rs (rs.reach w.driver + 1)

def offer (sink : Sink) (line : String) : Action (World σ) Unit := World.onJournal (sink line)

def noResultSet : Fault :=
  ⟨.unexpectedDriver, "Driver reported a result set outcome but returned no result set", none⟩

/-- The outcome of a result set: a line of labels, then a line for each row. -/
def tableOutcome (columns : List Column) (t : Table) : Outcome :=
  let labels := columns.map Column.label
  { kind := .resultSet
    text := "\n".intercalate ("\t".intercalate labels :: t.lines)
    rowCount := t.rows.length
    columns := labels
    rows := t.rows }

/-- Consumes the current result set and writes its table. -/
def consumeResultSet (d : Dialect) (sink : Sink) (st : Statement σ) : Action (World σ) Outcome := do
  match ← World.onDriver st.getResultSet with
  | none => Action.fail noResultSet
  | some rs =>
    let outcome := tableOutcome rs.columns (← consumeRows d rs)
    -- The count of a table is a length, which can always be written.
    let summary ← Action.ofExcept outcome.summary
    offer sink outcome.text
    offer sink summary
    return outcome

/-- The outcome of an update count. The count is checked as the field of a record. -/
def countOutcome (count : Value) : Except Fault Outcome := do
  let text := (← count.display) ++ " row(s) affected"
  (Outcome.ofFields [("kind", .text OutcomeKind.updateCount.name), ("text", .text text),
    ("row_count", count)]).orFault "RenderedOutcome"

def isNoOutcome (count : Value) : Except Fault Bool :=
  match count with
  | .decimal x => if x.isSignaling then .error Decimal.notComparable else .ok (x.eqInt (-1))
  | count => .ok (count.eqInt (-1))

/-- Consumes the current update count, and gives nothing where there is none. -/
def consumeCount (sink : Sink) (st : Statement σ) : Action (World σ) (Option Outcome) := do
  let count ← World.onDriver st.getUpdateCount
  if ← Action.ofExcept (isNoOutcome count) then return none
  else
    let outcome ← Action.ofExcept (countOutcome count)
    offer sink outcome.text
    return some outcome

/-- Consumes the current outcome, and gives nothing where there is none. -/
def consume (d : Dialect) (sink : Sink) (st : Statement σ) (isResultSet : Bool) :
    Action (World σ) (Option Outcome) :=
  if isResultSet then some <$> consumeResultSet d sink st else consumeCount sink st

/-- Consumes outcomes until there are none. `fuel` exceeds the number of outcomes. -/
def consumeAll (d : Dialect) (sink : Sink) (st : Statement σ) :
    Nat → Bool → WalkResult → Action (World σ) WalkResult
  | 0, _, _ => Action.fail endlessOutcomes
  | fuel + 1, isResultSet, result => do
    match ← consume d sink st isResultSet with
    | none => return result
    | some outcome =>
      let more ← World.onDriver st.getMoreResults
      let warnings ← report sink st
      consumeAll d sink st fuel more
        { result with
          outcomes := result.outcomes ++ [outcome], warnings := result.warnings ++ warnings }

def nothingToRun : Fault :=
  ⟨.execution none, "No SQL given for a non-prepared statement", none⟩

def executionFault (sql : Option String) (f : Fault) : Fault :=
  ⟨.execution sql, "Statement execution failed: " ++ f.message, some f.kind⟩

/-- What a walk runs: the own text of a prepared statement, the given text on any other one. -/
def begin? (st : Statement σ) (sql : Option String) : Except Fault (Action σ Bool) :=
  match st.prepared, sql with
  | true, _ => .ok st.executePrepared
  | false, some text => .ok (st.execute text)
  | false, none => .error nothingToRun

/-- Starts the statement, and says whether the first outcome is a result set. -/
def start (st : Statement σ) (sql : Option String) : Action (World σ) Bool := do
  let first ← Action.ofExcept (begin? st sql)
  match ← (World.onDriver first).attempt with
  | .ok isResultSet => return isResultSet
  | .error f => Action.fail (executionFault sql f)

/-- Executes a statement and consumes every outcome. -/
def walk (d : Dialect) (sink : Sink) (st : Statement σ) (sql : Option String) :
    Action (World σ) WalkResult := do
  let isResultSet ← start st sql
  let warnings ← report sink st
  let w ← Action.state
  let result ← consumeAll d sink st (st.reach w.driver + 2) isResultSet { sql, warnings }
  World.log .debug .walking ("Walked " ++ toString result.outcomes.length ++ " outcome(s)")
  return result

end StatementWalk
