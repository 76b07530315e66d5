import StatementWalk.Session.Driver

/-!
# Scripted cursors

A cursor that answers from a script: its outcomes are written down in advance, with the rows of each
result set and the faults that some of the calls raise. It keeps count of what was asked of it.
-/

namespace StatementWalk

inductive OutcomeScript where
  /-- Reaching this outcome fails. -/
  | failing (f : Fault)
  /-- A result set. Fetching fails once the given number of rows was fetched. -/
  | rows (entries : List Entry) (rows : List Value) (fetchFault : Option (Nat × Fault))
  /-- Anything else, with the value that stands for the number of rows affected. -/
  | count (value : Value)

structure CursorScript where
  outcomes : List OutcomeScript := [.count (.int 0)]
  messages : List (List (List Value)) := []
  /-- The notices that each outcome adds to the connection. -/
  notices : List (List Value) := []
  warning : Option Value := none
  executeFault : Option Fault := none
  closeFault : Option Fault := none
  canAdvance : Bool := true
  countsRows : Bool := true
  connected : Bool := true

structure ScriptedCursor where
  script : CursorScript
  position : Nat := 0
  description : Option (List Entry) := none
  rowCount : Value := .int (-1)
  rows : List Value := []
  fetchFault : Option (Nat × Fault) := none
  fetched : Nat := 0
  messages : List (List Value) := []
  pending : Value := .null
  stamp : Nat := 0
  /-- The texts that were run, with their parameters. -/
  executed : List (String × Option Value) := []
  closes : Nat := 0

namespace ScriptedCursor

def ofScript (script : CursorScript) (pending : Value) : ScriptedCursor := { script, pending }

/-- Ends the life of the handles that the cursor gave out. -/
def touch (c : ScriptedCursor) : ScriptedCursor := { c with stamp := c.stamp + 1 }

def addNotices (pending : Value) (new : List Value) : Value :=
  if new.isEmpty then pending
  else match pending with
    | .list items => .list (items ++ new)
    | _ => .list new

/-- Takes up the messages and notices of the current outcome. -/
def announce (c : ScriptedCursor) : ScriptedCursor :=
  { c with
    messages := c.script.messages.getD c.position []
    pending :=
      if c.script.connected then addNotices c.pending (c.script.notices.getD c.position [])
      else c.pending }

/-- Makes the outcome at the cursor's place the current one. -/
def load (o : OutcomeScript) : Action ScriptedCursor Unit :=
  match o with
  | .failing f => Action.fail f
  | .rows entries rows fetchFault =>
    Action.modify fun c =>
      { c with description := some entries, rowCount := .int (-1), rows, fetchFault,
               fetched := 0 }.announce
  | .count value =>
    Action.modify fun c =>
      { c with description := none, rowCount := value, rows := [], fetchFault := none,
               fetched := 0 }.announce

def pastEnd (c : ScriptedCursor) : ScriptedCursor :=
  { c with description := none, rowCount := .int (-1), rows := [], fetchFault := none,
           messages := [] }

/-- Makes the outcome at the cursor's place the current one, and says whether there is one. -/
def arrive : Action ScriptedCursor Bool := do
  let c ← Action.state
  match c.script.outcomes[c.position]? with
  | some o =>
    load o
    return true
  | none =>
    Action.modify pastEnd
    return false

def execute (sql : String) (params : Option Value) : Action ScriptedCursor Unit := do
  match (← Action.state).script.executeFault with
  | some f => Action.fail f
  | none =>
    Action.modify fun c => { c with executed := c.executed ++ [(sql, params)], position := 0 }
    let _ ← arrive

def advance : Action ScriptedCursor Bool := do
  Action.modify fun c => { c.touch with position := c.position + 1 }
  arrive

def takeRow : Action ScriptedCursor (Option Value) := do
  match (← Action.state).rows with
  | [] => return none
  | row :: rest =>
    Action.modify fun c => { c with rows := rest, fetched := c.fetched + 1 }
    return if row.isNull then none else some row

def fetch : Action ScriptedCursor (Option Value) := do
  Action.modify touch
  let c ← Action.state
  match c.fetchFault with
  | some (after, f) => if after ≤ c.fetched then Action.fail f else takeRow
  | none => takeRow

def close : Action ScriptedCursor Unit := do
  Action.modify fun c => { c.touch with closes := c.closes + 1 }
  match (← Action.state).script.closeFault with
  | some f => Action.fail f
  | none => return

def notices (c : ScriptedCursor) : NoticeBoard where
  messages := c.messages
  warning := c.script.warning
  pending := if c.script.connected then some c.pending else none

def setNotices (b : NoticeBoard) (c : ScriptedCursor) : ScriptedCursor :=
  { c with pending := b.pending.getD c.pending }

def cursor : Cursor ScriptedCursor where
  execute := execute
  fetch := fetch
  canAdvance := fun c => c.script.canAdvance
  advance := advance
  close := close
  description := description
  rowCount := fun c => if c.script.countsRows then some c.rowCount else none
  notices := notices
  setNotices := setNotices
  stamp := stamp
  outcomesLeft := fun c => c.script.outcomes.length - c.position
  rowsLeft := fun c => c.rows.length

end ScriptedCursor

end StatementWalk
