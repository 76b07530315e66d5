import StatementWalk.Walk.Walk

/-!
# The parts of a walk

A walk starts the statement and then goes on without it being started again; a result set is read to
its end and then written. What comes after the reading does not touch the driver.
-/

namespace StatementWalk

variable {σ : Type}

def offerTable (sink : Sink) (columns : List Column) (table : Table) :
    Action (World σ) Outcome := do
  let summary ← Action.ofExcept (tableOutcome columns table).summary
  offer sink (tableOutcome columns table).text
  offer sink summary
  return tableOutcome columns table

def consumeGiven (d : Dialect) (sink : Sink) : Option (ResultSet σ) → Action (World σ) Outcome
  | none => Action.fail noResultSet
  | some rs => consumeRows d rs >>= offerTable sink rs.columns

theorem consumeResultSet_eq (d : Dialect) (sink : Sink) (st : Statement σ) :
    consumeResultSet d sink st = World.onDriver st.getResultSet >>= consumeGiven d sink := rfl

/-- The walk of a statement that was started. -/
def walkStarted (d : Dialect) (sink : Sink) (st : Statement σ) (sql : Option String)
    (isResultSet : Bool) : Action (World σ) WalkResult := do
  let warnings ← report sink st
  let w ← Action.state
  let result ← consumeAll d sink st (st.reach w.driver + 2) isResultSet { sql, warnings }
  World.log .debug .walking ("Walked " ++ toString result.outcomes.length ++ " outcome(s)")
  return result

theorem walk_eq (d : Dialect) (sink : Sink) (st : Statement σ) (sql : Option String) :
    walk d sink st sql = start st sql >>= walkStarted d sink st sql := rfl

theorem run_start_nothing {st : Statement σ} {sql : Option String}
    (h : begin? st sql = .error nothingToRun) (w : World σ) :
    (start st sql).run w = (.error nothingToRun, w) := by
  rw [start, h]
  rfl

/-- Starting is one call of the driver. -/
theorem run_start {st : Statement σ} {sql : Option String} {x : Action σ Bool}
    (h : begin? st sql = .ok x) (w : World σ) :
    (start st sql).run w =
      ((x.run w.driver).1.mapError (executionFault sql),
        { w with driver := (x.run w.driver).2 }) := by
  have hcall := World.run_onDriver x w
  rw [start, h, Action.run_bind_ok (Action.run_ofExcept (.ok x) w),
    Action.run_bind_ok (Action.run_attempt (World.onDriver x) w), hcall]
  cases (x.run w.driver).1 with
  | ok isResultSet => rfl
  | error f => rfl

end StatementWalk
