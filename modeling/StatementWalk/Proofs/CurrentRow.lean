import Mathlib.Data.List.Induction
import StatementWalk.Proofs.RowReading
import StatementWalk.Script.Cursor

/-!
# The current row of a result set

A result set is moved, read and closed in any order. What a read finds is decided by the moves and
closes before it: the row of the latest move that did not fail, if that move came to a row and the
result set was not closed since. Any other read is refused, whatever rows were delivered earlier.
-/

namespace StatementWalk

open Dialect

variable {κ σ : Type}

/-- A way of reading a cell: as the driver gives it, or as a type. -/
inductive CellRead where
  | object
  | typed (reading : Reading)

namespace CellRead

def action (rs : ResultSet σ) (index : Int) : CellRead → Action σ Value
  | .object => rs.getObject index
  | .typed reading => rs.get reading index

def convert (d : Dialect) (column : Column) (v : Value) : CellRead → Except Fault Value
  | .object => d.readObject v column
  | .typed reading => reading.convert v

def usesUp : CellRead → Bool
  | .typed .text | .typed .bytes => true
  | _ => false

end CellRead

inductive RowRequest where
  | next
  | read (how : CellRead) (index : Int)
  | close

def RowRequest.usesUp (index : Int) : RowRequest → Bool
  | .read how i => how.usesUp && i == index
  | _ => false

def RowRequest.leave (rs : ResultSet σ) (request : RowRequest) (s : σ) : σ :=
  match request with
  | .next => (rs.nextRow.run s).2
  | .read how index => ((how.action rs index).run s).2
  | .close => (rs.close.run s).2

def ResultSet.after (rs : ResultSet σ) (s : σ) (requests : List RowRequest) : σ :=
  requests.foldl (fun s request => request.leave rs s) s

theorem ResultSet.after_concat (rs : ResultSet σ) (s : σ) (requests : List RowRequest)
    (request : RowRequest) :
    rs.after s (requests ++ [request]) = request.leave rs (rs.after s requests) := by
  rw [after, List.foldl_append]
  rfl

/-- The row that a cursor gives when it is asked for the next one. -/
def Cursor.nextRow (c : Cursor κ) (k : κ) : Except Fault (Option (List Value)) := do
  match ← (c.fetch.run k).1 with
  | none => return none
  | some v => return some (← v.toRow)

/-- What some requests have left of a cell. A stream that was read has nothing left. -/
def leftBy (since : List RowRequest) (index : Int) (v : Value) : Value :=
  if since.any (RowRequest.usesUp index) then v.spent else v

/-- A cell of the cursor's row at `k`, when the cursor is at `m`. A bound object expires by the
move. -/
def Cursor.cellAt (c : Cursor κ) (k m : κ) (v : Value) : Value :=
  if c.stamp m = c.stamp k then v else v.expired

namespace Session

variable {b : Backend} {c : Cursor κ} {own : Option Prepared} {i : Nat} {columns : List Column}
  {s t : Session κ} {rs : ResultSet (Session κ)}

theorem run_nextRow_open (h : (handle i s).closed = false) :
    (nextRow c i).run s = match c.nextRow s.cursor with
      | .error f => (.error f, { s with cursor := (c.fetch.run s.cursor).2 })
      | .ok row => (.ok row.isSome, moved c i row (c.fetch.run s.cursor).2 s) := by
  unfold Cursor.nextRow
  cases hfetch : c.fetch.run s.cursor with
  | mk answer k =>
      cases answer with
      | error f => exact run_nextRow_error h hfetch
      | ok given =>
          cases given with
          | none => exact run_nextRow_none h hfetch
          | some v =>
              cases hrow : v.toRow with
              | error f =>
                  rw [run_nextRow_notARow h hfetch hrow]
                  simp only [except_ok_bind, hrow]
                  rfl
              | ok row =>
                  rw [run_nextRow_some h hfetch hrow]
                  simp only [except_ok_bind, hrow]
                  rfl

/-- Only a read that finds a cell uses it up. -/
theorem snd_run_read (b : Backend) (c : Cursor κ) (i : Nat) (columns : List Column) (how : CellRead)
    (index : Int) (t : Session κ) :
    ((how.action (resultSet b c i columns) index).run t).2 =
      if how.usesUp && (cell c i index t).toBool then spendCell i index t else t := by
  cases how with
  | object => exact congrArg Prod.snd (run_readObject_cell b c i index t)
  | typed reading =>
      show ((readCell c i reading index).run t).2 = _
      cases hcell : cell c i index t with
      | error f =>
          rw [run_readCell_error hcell]
          cases reading <;> rfl
      | ok v =>
          rw [run_readCell_ok hcell]
          cases reading <;> rfl

structure Obtained (i : Nat) (columns : List Column) (t : Session κ) : Prop where
  given : i < t.handles.length
  columns_eq : (handle i t).columns = columns
  row_eq (h : (handle i t).closed = true) : (handle i t).row = none

theorem Obtained.setHandle (h : Obtained i columns t) {new : RowHandle}
    (hcolumns : new.columns = columns) (hrow : new.closed = true → new.row = none) :
    Obtained i columns (Session.setHandle i new t) where
  given := by simpa [Session.setHandle] using h.given
  columns_eq := by rwa [handle_setHandle h.given]
  row_eq := by rwa [handle_setHandle h.given]

theorem handle_spendCell (h : Obtained i columns t) (index : Int) :
    handle i (spendCell i index t) =
      { handle i t with
        row := (handle i t).row.map fun row => row.modify (index - 1).toNat Value.spent } :=
  handle_setHandle h.given _

theorem Obtained.leave (h : Obtained i columns t) (request : RowRequest) :
    Obtained i columns (request.leave (resultSet b c i columns) t) := by
  cases request with
  | next =>
      show Obtained i columns ((nextRow c i).run t).2
      cases hopen : (handle i t).closed with
      | true =>
          rw [run_nextRow_closed hopen]
          exact h
      | false =>
          rw [run_nextRow_open hopen]
          cases c.nextRow t.cursor with
          | error f => exact ⟨h.given, h.columns_eq, h.row_eq⟩
          | ok row =>
              have hmoved : Obtained i columns { t with cursor := (c.fetch.run t.cursor).2 } :=
                ⟨h.given, h.columns_eq, h.row_eq⟩
              refine hmoved.setHandle h.columns_eq fun hclosed => ?_
              rw [show (handle i t).closed = true from hclosed] at hopen
              cases hopen
  | read how index =>
      show Obtained i columns ((how.action (resultSet b c i columns) index).run t).2
      rw [snd_run_read]
      split
      · refine h.setHandle h.columns_eq fun hclosed => ?_
        show (handle i t).row.map _ = none
        rw [h.row_eq hclosed]
        rfl
      · exact h
  | close => exact h.setHandle h.columns_eq fun _ => rfl

section Requests

variable (h : Obtained i columns s)
include h

theorem Obtained.after (requests : List RowRequest) :
    Obtained i columns ((resultSet b c i columns).after s requests) := by
  induction requests using List.reverseRecOn with
  | nil => exact h
  | append_singleton requests request ih =>
      rw [ResultSet.after_concat]
      exact ih.leave request

end Requests

theorem spent_spent (v : Value) : v.spent.spent = v.spent := by cases v <;> rfl

theorem leftBy_concat (since : List RowRequest) (request : RowRequest) (index : Int) (v : Value) :
    leftBy (since ++ [request]) index v =
      if request.usesUp index then (leftBy since index v).spent else leftBy since index v := by
  unfold leftBy
  rw [List.any_append, List.any_cons, List.any_nil, Bool.or_false]
  cases since.any (RowRequest.usesUp index) <;> cases request.usesUp index <;> simp [spent_spent]

theorem cellOf_modify_self (row : List Value) (f : Value → Value) (index : Int) :
    cellOf (row.modify (index - 1).toNat f) index = (cellOf row index).map f := by
  unfold cellOf
  rw [List.length_modify]
  split
  · rename_i hindex
    have hlt : (index - 1).toNat < row.length := by omega
    rw [List.getD_eq_getElem?_getD, List.getD_eq_getElem?_getD, List.getElem?_modify_eq,
      List.getElem?_eq_getElem hlt]
    rfl
  · rfl

/-- The cells are what is left of a row after some requests. -/
def Remains (row : List Value) (since : List RowRequest) (held : List Value) : Prop :=
  ∀ index, cellOf held index = (cellOf row index).map (leftBy since index)

namespace Remains

variable {row held : List Value} {since : List RowRequest}

theorem refl (row : List Value) : Remains row [] row := by
  intro index
  cases cellOf row index <;> rfl

/-- A request that uses up no cell of the row leaves all of them as they are. -/
theorem unused (h : Remains row since held) {request : RowRequest}
    (hunused : ∀ index v, cellOf row index = .ok v → request.usesUp index = false) :
    Remains row (since ++ [request]) held := by
  intro index
  rw [h index]
  cases hcell : cellOf row index with
  | error f => rfl
  | ok v =>
      show Except.ok _ = Except.ok _
      rw [leftBy_concat, hunused index v hcell]
      rfl

theorem modify (h : Remains row since held) {how : CellRead} (huses : how.usesUp = true) {p : Int}
    (hp : 1 ≤ p) :
    Remains row (since ++ [.read how p]) (held.modify (p - 1).toNat Value.spent) := by
  intro index
  by_cases hindex : index = p
  · subst hindex
    rw [cellOf_modify_self, h index]
    cases cellOf row index with
    | error f => rfl
    | ok v =>
        show Except.ok _ = Except.ok _
        rw [leftBy_concat, RowRequest.usesUp, huses, beq_self_eq_true]
        rfl
  · have helsewhere : leftBy (since ++ [.read how p]) index = leftBy since index := by
      funext v
      rw [leftBy_concat, RowRequest.usesUp, beq_eq_false_iff_ne.mpr (Ne.symm hindex),
        Bool.and_false]
      rfl
    rw [cellOf_modify held _ hp hindex, h index, helsewhere]

end Remains

/-- The handle holds the row that was delivered when the cursor came to `k`, less what was read
since. -/
structure Stands (c : Cursor κ) (i : Nat) (row : List Value) (since : List RowRequest) (k : κ)
    (t : Session κ) : Prop where
  isOpen : (handle i t).closed = false
  stamp_eq : (handle i t).stamp = c.stamp k
  held : ∃ held, (handle i t).row = some held ∧ Remains row since held

namespace Stands

variable {row : List Value} {since : List RowRequest} {k : κ}

/-- A read finds what is left of the cell that was delivered, and nothing outside of the row. -/
theorem cell_eq (h : Stands c i row since k t) (index : Int) :
    cell c i index t =
      (cellOf row index).map fun v => c.cellAt k t.cursor (leftBy since index v) := by
  obtain ⟨held, hrow, hremains⟩ := h.held
  rw [cell_of_row hrow, hremains index, h.stamp_eq]
  cases cellOf row index <;> rfl

theorem delivered (h : Obtained i columns t) (hopen : (handle i t).closed = false)
    (hgiven : c.nextRow t.cursor = .ok (some row)) :
    Stands c i row [] (RowRequest.next.leave (resultSet b c i columns) t).cursor
      (RowRequest.next.leave (resultSet b c i columns) t) := by
  have hmoved : RowRequest.next.leave (resultSet b c i columns) t =
      moved c i (some row) (c.fetch.run t.cursor).2 t := by
    show ((nextRow c i).run t).2 = _
    rw [run_nextRow_open hopen, hgiven]
  rw [hmoved]
  refine ⟨?_, ?_, row, ?_, .refl row⟩
  · rw [handle_moved h.given]
    exact hopen
  · rw [handle_moved h.given]
    rfl
  · rw [handle_moved h.given]

/-- A move that fails leaves the handle on its row. -/
theorem failed (h : Stands c i row since k t) {f : Fault}
    (hanswer : ((nextRow c i).run t).1 = .error f) :
    Stands c i row (since ++ [.next]) k ((nextRow c i).run t).2 := by
  rw [run_nextRow_open h.isOpen] at hanswer ⊢
  cases hgiven : c.nextRow t.cursor with
  | ok row =>
      rw [hgiven] at hanswer
      cases hanswer
  | error f =>
      obtain ⟨held, hrow, hremains⟩ := h.held
      exact ⟨h.isOpen, h.stamp_eq, held, hrow, hremains.unused fun _ _ _ => rfl⟩

/-- A read uses up at most the cell that it reads. -/
theorem read (h : Stands c i row since k t) (hobtained : Obtained i columns t)
    (how : CellRead) (p : Int) :
    Stands c i row (since ++ [.read how p]) k
      ((how.action (resultSet b c i columns) p).run t).2 := by
  obtain ⟨held, hrow, hremains⟩ := h.held
  rw [snd_run_read]
  cases hspends : how.usesUp && (cell c i p t).toBool with
  | false =>
      refine ⟨h.isOpen, h.stamp_eq, held, hrow, hremains.unused fun index v hcell => ?_⟩
      by_cases hindex : index = p
      · subst hindex
        rw [h.cell_eq, hcell] at hspends
        have hunused : how.usesUp = false := by simpa [Except.map, Except.toBool] using hspends
        rw [RowRequest.usesUp, hunused, Bool.false_and]
      · rw [RowRequest.usesUp, beq_eq_false_iff_ne.mpr (Ne.symm hindex), Bool.and_false]
  | true =>
      obtain ⟨huses, hcell⟩ := Bool.and_eq_true_iff.mp hspends
      have hone : 1 ≤ p := by
        cases hraw : cell c i p t with
        | error f =>
            rw [hraw] at hcell
            cases hcell
        | ok raw => exact one_le_of_cell hraw
      rw [if_pos rfl]
      have hspent := handle_spendCell hobtained p
      refine ⟨?_, ?_, held.modify (p - 1).toNat Value.spent, ?_, hremains.modify huses hone⟩
      · rw [hspent]
        exact h.isOpen
      · rw [hspent]
        exact h.stamp_eq
      · rw [hspent, hrow]
        rfl

end Stands

section Requests

variable (h : Obtained i columns s)
include h

end Requests

end Session

end StatementWalk
