import StatementWalk.Record.Field
import StatementWalk.Record.Warning

/-!
# Outcomes

One execution yields outcomes in driver order, result sets and update counts, and the warnings that
came with them.
-/

namespace StatementWalk

open Record Number

inductive OutcomeKind where
  | resultSet
  | updateCount
deriving DecidableEq, Repr

def OutcomeKind.name : OutcomeKind → String
  | .resultSet => "result_set"
  | .updateCount => "update_count"

structure Outcome where
  kind : OutcomeKind
  text : String
  /-- Rows rendered or affected. -/
  rowCount : Int
  columns : List String := []
  rows : List (List Value) := []

structure WalkResult where
  /-- The executed text, if it was literal. -/
  sql : Option String := none
  outcomes : List Outcome := []
  warnings : List ClassifiedWarning := []

def readOutcomeKind (v : Value) : Checked OutcomeKind :=
  match v with
  | .text "result_set" => .ok .resultSet
  | .text "update_count" => .ok .updateCount
  | v => refuse "literal_error" "Input should be 'result_set' or 'update_count'" v

def countLine (n : Int) : Except Fault String := do
  return (← intText n) ++ " row(s) affected"

namespace Outcome

def ofFields (r : Fields) : Checked Outcome :=
  ((((Outcome.mk <$> r.required "kind" readOutcomeKind).and
    (r.required "text" readText)).and
    (r.required "row_count" (readIntIn 0 none))).and
    (r.withDefault "columns" [] (readList readText))).and
    (r.withDefault "rows" [] (readList (readList .ok)))

def isResultSet (o : Outcome) : Bool := o.kind == .resultSet

def summary (o : Outcome) : Except Fault String := countLine o.rowCount

/-- What is written for an outcome: a result set with its count, or a count alone. -/
def lines (o : Outcome) : Except Fault (List String) := do
  let summary ← o.summary
  return if o.isResultSet then [o.text, summary] else [summary]

def toValue (o : Outcome) : Value :=
  .dict [(.text "kind", .text o.kind.name), (.text "text", .text o.text),
    (.text "row_count", .int o.rowCount),
    (.text "columns", .list (o.columns.map .text)),
    (.text "rows", .list (o.rows.map fun r => .list (r.map exported)))]

end Outcome

namespace WalkResult

def ofFields (r : Fields) : Checked WalkResult :=
  ((WalkResult.mk <$> r.optional "sql" readText).and
    (r.withDefault "outcomes" [] (readList (readRecord "RenderedOutcome" Outcome.ofFields)))).and
    (r.withDefault "warnings" []
      (readList (readRecord "ClassifiedWarning" ClassifiedWarning.ofFields)))

def resultSets (w : WalkResult) : List Outcome := w.outcomes.filter Outcome.isResultSet

def updateCounts (w : WalkResult) : List Int :=
  (w.outcomes.filter (!·.isResultSet)).map Outcome.rowCount

/-- What was written for the outcomes, warnings left out. -/
def lines (w : WalkResult) : Except Fault (List String) := do
  return (← w.outcomes.mapM Outcome.lines).flatten

def toValue (w : WalkResult) : Value :=
  .dict [(.text "sql", Value.ofText? w.sql),
    (.text "outcomes", .list (w.outcomes.map Outcome.toValue)),
    (.text "warnings", .list (w.warnings.map ClassifiedWarning.toValue))]

def toJson (w : WalkResult) : Except Fault String := w.toValue.toJson

end WalkResult

end StatementWalk
