import StatementWalk.Session.Handles

/-!
# Reporting warnings

The warnings of a step are classified and written to the sink, one after the other; then they are
cleared. A sink that refuses a line, or a driver that cannot hand out or clear its warnings, is
noted in the log and stops nothing.
-/

namespace StatementWalk

variable {σ : Type}

/-- Offers a line to the sink. A refusal is logged. -/
def emit (sink : Sink) (line : String) : Action Journal Unit := do
  match ← (sink line).attempt with
  | .ok _ => return
  | .error f => Journal.note .debug .warnings ("Warning sink failed: " ++ f.message)

def emitAll (sink : Sink) : List ClassifiedWarning → Action Journal Unit
  | [] => return
  | w :: rest => do
    emit sink (← Action.ofExcept w.render)
    emitAll sink rest

def reportNotices (sink : Sink) (notices : List Notice) :
    Action Journal (List ClassifiedWarning) := do
  let classified := notices.map Notice.classify
  emitAll sink classified
  return classified

def reportChain (sink : Sink) (head : Option WarningRecord) :
    Action (World σ) (List ClassifiedWarning) :=
  World.onJournal (reportNotices sink (WarningRecord.noticesOf head))

/-- Reports the pending warnings of a statement, then clears them. -/
def report (sink : Sink) (st : Statement σ) : Action (World σ) (List ClassifiedWarning) := do
  match ← (World.onDriver st.getWarnings).attempt with
  | .error f =>
    World.log .debug .warnings ("Could not read statement warnings: " ++ f.message)
    return []
  | .ok head =>
    let classified ← reportChain sink head
    match ← (World.onDriver st.clearWarnings).attempt with
    | .ok _ => return classified
    | .error f =>
      World.log .debug .warnings ("Could not clear statement warnings: " ++ f.message)
      return classified

end StatementWalk
