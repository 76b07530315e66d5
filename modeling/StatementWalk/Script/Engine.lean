import StatementWalk.Session.Driver
import StatementWalk.Script.Cursor

/-!
# Scripted engines

An engine that answers from a script. Its cursors are handed out in order and share one connection.
Everything that is asked of the engine is kept as an event.
-/

namespace StatementWalk

inductive EngineEvent where
  | created (url : String) (settings : EngineSettings)
  | connected
  | ran (text : String)
  | openedCursor
  | committed
  | released
  | disposed
deriving DecidableEq, Repr

structure EngineScript where
  cursors : List CursorScript := []
  notices : Value := .null
  createFault : Option Fault := none
  connectFault : Option Fault := none
  commitFault : Option Fault := none
  timeoutFault : Option Fault := none

structure ScriptedEngine where
  script : EngineScript
  /-- The scripts of the cursors that were not opened yet. -/
  waiting : List CursorScript := []
  cursors : List ScriptedCursor := []
  pending : Value := .null
  events : List EngineEvent := []

namespace ScriptedEngine

def ofScript (script : EngineScript) : ScriptedEngine := { script }

def happen (event : EngineEvent) (fault : ScriptedEngine → Option Fault) :
    Action ScriptedEngine Unit := do
  Action.modify fun s => { s with events := s.events ++ [event] }
  match fault (← Action.state) with
  | some f => Action.fail f
  | none => return

def create (url : String) (settings : EngineSettings) : Action ScriptedEngine Unit := do
  happen (.created url settings) (·.script.createFault)
  Action.modify fun s => { s with waiting := s.script.cursors, pending := s.script.notices }

def noMoreCursors : Fault := ⟨.runtime, "no more cursors", none⟩

def openCursor : Action ScriptedEngine Nat := do
  happen .openedCursor fun _ => none
  let s ← Action.state
  match s.waiting with
  | [] => Action.fail noMoreCursors
  | script :: rest =>
    Action.modify fun s =>
      { s with waiting := rest, cursors := s.cursors ++ [.ofScript script s.pending] }
    return s.cursors.length

def cursorAt (i : Nat) (s : ScriptedEngine) : ScriptedCursor :=
  { s.cursors.getD i (.ofScript {} .null) with pending := s.pending }

def setCursorAt (i : Nat) (c : ScriptedCursor) (s : ScriptedEngine) : ScriptedEngine :=
  { s with cursors := s.cursors.set i c, pending := c.pending }

def onCursor {α : Type} (i : Nat) (x : Action ScriptedCursor α) : Action ScriptedEngine α :=
  x.within (cursorAt i) (setCursorAt i)

/-- The cursor of a number, as a part of the engine. -/
def cursor (i : Nat) : Cursor ScriptedEngine :=
  let c := ScriptedCursor.cursor
  { execute := fun sql params => onCursor i (c.execute sql params)
    fetch := onCursor i c.fetch
    canAdvance := fun s => c.canAdvance (cursorAt i s)
    advance := onCursor i c.advance
    close := onCursor i c.close
    description := fun s => c.description (cursorAt i s)
    rowCount := fun s => c.rowCount (cursorAt i s)
    notices := fun s => c.notices (cursorAt i s)
    setNotices := fun b s => setCursorAt i (c.setNotices b (cursorAt i s)) s
    stamp := fun s => c.stamp (cursorAt i s)
    outcomesLeft := fun s => c.outcomesLeft (cursorAt i s)
    rowsLeft := fun s => c.rowsLeft (cursorAt i s) }

def engine : Engine ScriptedEngine where
  create := create
  connect := happen .connected (·.script.connectFault)
  run := fun text => happen (.ran text) (·.script.timeoutFault)
  openCursor := openCursor
  cursor := cursor
  commit := happen .committed (·.script.commitFault)
  release := happen .released fun _ => none
  dispose := happen .disposed fun _ => none

end ScriptedEngine

end StatementWalk
