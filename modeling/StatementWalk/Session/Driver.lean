import StatementWalk.Dialect.Notices
import StatementWalk.Dialect.Reading
import StatementWalk.Journal

/-!
# Cursors and engines

The interfaces of a driver. A cursor runs a text, hands out rows one at a time and moves from one
outcome to the next. An engine opens connections from a pool, runs settings on them, and gives out
cursors.
-/

namespace StatementWalk

structure Cursor (κ : Type) where
  execute : String → Option Value → Action κ Unit
  fetch : Action κ (Option Value)
  /-- Whether the cursor can move from one outcome to the next. -/
  canAdvance : κ → Bool
  /-- Moves to the next outcome, and says whether there is one. -/
  advance : Action κ Bool
  close : Action κ Unit
  /-- The columns of the current outcome, if it is a result set. -/
  description : κ → Option (List Entry)
  /-- The number of rows affected, if the cursor has one. -/
  rowCount : κ → Option Value
  /-- What the server said in the last step. -/
  notices : κ → NoticeBoard
  setNotices : NoticeBoard → κ → κ
  /-- Changes whenever the cursor moves. Bound handles live as long as it stays. -/
  stamp : κ → Nat
  /-- A bound on the outcomes that are left. -/
  outcomesLeft : κ → Nat
  /-- A bound on the rows that are left in the current outcome. -/
  rowsLeft : κ → Nat

structure PoolSizes where
  size : Int
  overflow : Int
  /-- Seconds. -/
  timeout : Int
deriving DecidableEq, Repr

structure EngineSettings where
  echo : Bool
  autocommit : Bool
  /-- Absent where the engine keeps a single connection. -/
  pool : Option PoolSizes
deriving DecidableEq, Repr

structure Engine (ε : Type) where
  create : String → EngineSettings → Action ε Unit
  connect : Action ε Unit
  run : String → Action ε Unit
  openCursor : Action ε Nat
  cursor : Nat → Cursor ε
  commit : Action ε Unit
  release : Action ε Unit
  dispose : Action ε Unit

end StatementWalk
