import StatementWalk.Session.Driver
import StatementWalk.Session.Handles

/-!
# Sessions

A session runs statements on one cursor. It remembers whether the cursor has an outcome, the
warnings that were not handed out yet, and the result sets that it has given out.
-/

namespace StatementWalk

structure RowHandle where
  columns : List Column
  /-- The current row, if the handle stands on one. -/
  row : Option (List Value) := none
  /-- The place of the cursor when the row was fetched. -/
  stamp : Nat := 0
  closed : Bool := false

structure Session (κ : Type) where
  cursor : κ
  /-- Warnings that were collected and not cleared. -/
  pending : List Notice := []
  /-- Whether the cursor has no outcome. -/
  exhausted : Bool := true
  handles : List RowHandle := []

namespace Session

variable {κ α : Type}

def fresh (cursor : κ) : Session κ := { cursor }

def onCursor (x : Action κ α) : Action (Session κ) α :=
  x.within Session.cursor fun c s => { s with cursor := c }

def setExhausted (b : Bool) : Action (Session κ) Unit :=
  Action.modify fun s => { s with exhausted := b }

def onResultSet (c : Cursor κ) (s : Session κ) : Bool :=
  !s.exhausted && (c.description s.cursor).isSome

/-- Collects the warnings of the last step, if the driver reports any. -/
def collectWarnings (b : Backend) (c : Cursor κ) : Action (Session κ) Unit := do
  if b.capabilities.warnings then
    let s ← Action.state
    let (notices, board) ← Action.ofExcept (b.dialect.collect (c.notices s.cursor))
    Action.modify fun s =>
      { s with pending := s.pending ++ notices, cursor := c.setNotices board s.cursor }

def execute (b : Backend) (c : Cursor κ) (sql : String) (params : Option Value) :
    Action (Session κ) Bool := do
  onCursor (c.execute sql params)
  setExhausted false
  collectWarnings b c
  return onResultSet c (← Action.state)

/-- Whether a number of rows counts, that is, is not negative. -/
def countsRows (v : Value) : Except Fault Bool :=
  match v with
  | .null => .ok false
  | .bool _ => .ok true
  | .int n => .ok (decide (0 ≤ n))
  | .float x => .ok x.geZero
  | .decimal x =>
    match x.geZero? with
    | some b => .ok b
    | none => .error Decimal.notComparable
  | v =>
    .error (.badType ("'>=' not supported between instances of '" ++ v.faultName 100 ++
      "' and 'int'"))

/-- The number of rows affected by the current outcome. An outcome without a count has affected
none; where there is no update count at all, the answer is minus one. -/
def updateCount (c : Cursor κ) (s : Session κ) : Except Fault Value :=
  if s.exhausted || (c.description s.cursor).isSome then .ok (.int (-1))
  else
    let count := (c.rowCount s.cursor).getD (.int (-1))
    do return if ← countsRows count then count else .int 0

/-- Moves the cursor on, if it has an outcome and can have several. -/
def advance (b : Backend) (c : Cursor κ) : Action (Session κ) Bool := do
  let s ← Action.state
  if !s.exhausted && b.capabilities.multipleResults && c.canAdvance s.cursor then
    let more ← onCursor c.advance
    if more then collectWarnings b c
    return more
  else return false

/-- Moves to the next outcome. Without one the session is exhausted. -/
def moreResults (b : Backend) (c : Cursor κ) : Action (Session κ) Bool := do
  let more ← advance b c
  if !more then setExhausted true
  return onResultSet c (← Action.state)

def closeCursor (c : Cursor κ) : Action (Session κ) Unit := do
  setExhausted true
  onCursor c.close

def handle (i : Nat) (s : Session κ) : RowHandle :=
  s.handles.getD i { columns := [], closed := true }

def setHandle (i : Nat) (h : RowHandle) (s : Session κ) : Session κ :=
  { s with handles := s.handles.set i h }

/-- Fetches the next row for a handle. A closed handle has none and does not ask the cursor. -/
def nextRow (c : Cursor κ) (i : Nat) : Action (Session κ) Bool := do
  if (handle i (← Action.state)).closed then return false
  else
    let row ← match ← onCursor c.fetch with
      | none => pure none
      | some v => some <$> Action.ofExcept v.toRow
    Action.modify fun s =>
      setHandle i { handle i s with row := row, stamp := c.stamp s.cursor } s
    return row.isSome

def noRow (index : Int) : Fault :=
  ⟨.valueRead (some index), "Result set is not positioned on a row", none⟩

def outOfRow (index : Int) (width : Nat) : Fault :=
  ⟨.valueRead (some index),
    "Column index " ++ toString index ++ " out of range (1.." ++ toString width ++ ")", none⟩

/-- The cell of the current row at a column. A bound cell has expired once the cursor has moved. -/
def cell (c : Cursor κ) (i : Nat) (index : Int) (s : Session κ) : Except Fault Value :=
  let h := handle i s
  match h.row with
  | none => .error (noRow index)
  | some row =>
    if 1 ≤ index ∧ index ≤ row.length then
      let v := row.getD (index - 1).toNat .null
      .ok (if c.stamp s.cursor = h.stamp then v else v.expired)
    else .error (outOfRow index row.length)

def columnMissing (index : Int) : Fault := .badPosition "list" (index - 1)

def readObject (b : Backend) (c : Cursor κ) (i : Nat) (index : Int) : Action (Session κ) Value := do
  let s ← Action.state
  let v ← Action.ofExcept (cell c i index s)
  match (handle i s).columns[(index - 1).toNat]? with
  | some column => Action.ofExcept (b.dialect.readObject v column)
  | none => Action.fail (columnMissing index)

/-- Puts what a read left of a cell back into the row. -/
def spendCell (i : Nat) (index : Int) (s : Session κ) : Session κ :=
  let h := handle i s
  setHandle i { h with row := h.row.map fun row => row.modify (index - 1).toNat Value.spent } s

/-- A typed read of a cell of the current row. Reading a stream as text or bytes uses it up. -/
def readCell (c : Cursor κ) (i : Nat) (reading : Reading) (index : Int) :
    Action (Session κ) Value := do
  let v ← Action.ofExcept (cell c i index (← Action.state))
  match reading with
  | .text | .bytes => Action.modify (spendCell i index)
  | .timestamp | .date => pure ()
  Action.ofExcept (reading.convert v)

def closeHandle (i : Nat) : Action (Session κ) Unit :=
  Action.modify fun s => setHandle i { handle i s with row := none, closed := true } s

def resultSet (b : Backend) (c : Cursor κ) (i : Nat) (columns : List Column) :
    ResultSet (Session κ) where
  className := "CursorResultSet"
  columns := columns
  nextRow := nextRow c i
  getObject := readObject b c i
  get := readCell c i
  close := closeHandle i
  reach := fun s => c.rowsLeft s.cursor

def openResultSet (b : Backend) (c : Cursor κ) (entries : List Entry) :
    Action (Session κ) (ResultSet (Session κ)) := do
  let columns ← Action.ofExcept (b.dialect.describeAll 1 entries)
  let s ← Action.state
  Action.modify fun s => { s with handles := s.handles ++ [{ columns }] }
  return resultSet b c s.handles.length columns

/-- Gives out the result set of the current outcome. -/
def currentResultSet (b : Backend) (c : Cursor κ) :
    Action (Session κ) (Option (ResultSet (Session κ))) := do
  let s ← Action.state
  if onResultSet c s then
    some <$> openResultSet b c ((c.description s.cursor).getD [])
  else return none

/-- A text of a statement's own, with its parameters. -/
structure Prepared where
  sql : String
  params : Option Value

def noOwnText : Fault :=
  ⟨.missingAttribute, "'CursorStatement' object has no attribute 'execute_prepared'", none⟩

/-- The statement of a session, with a text of its own or without. -/
def statement (b : Backend) (c : Cursor κ) (own : Option Prepared) : Statement (Session κ) where
  className := if own.isSome then "PreparedCursorStatement" else "CursorStatement"
  prepared := own.isSome
  execute := fun sql => execute b c sql none
  executePrepared :=
    match own with
    | some p => execute b c p.sql p.params
    | none => Action.fail noOwnText
  getResultSet := currentResultSet b c
  getUpdateCount := do Action.ofExcept (updateCount c (← Action.state))
  getMoreResults := moreResults b c
  getWarnings := do
    return WarningRecord.chain ((← Action.state).pending.map WarningRecord.single)
  clearWarnings := Action.modify fun s => { s with pending := [] }
  close := closeCursor c
  reach := fun s => c.outcomesLeft s.cursor

end Session

end StatementWalk
