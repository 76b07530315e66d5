import StatementWalk.Proofs.CellReading

/-!
# Reading rows through a session

A handle stands on a row when its row was fetched by the last move of the cursor. Normalizing then
gives the normal forms of the cells. Reading may use a cell up, so the row changes, but no cell is
read twice, and every later cell is found as it was fetched.
-/

namespace StatementWalk

open Dialect

namespace Session

variable {κ α : Type}

/-- The sessions differ in what their handles hold and in nothing else. -/
def OnlyHandles (s t : Session κ) : Prop :=
  t.cursor = s.cursor ∧ t.pending = s.pending ∧ t.exhausted = s.exhausted

theorem OnlyHandles.refl (s : Session κ) : OnlyHandles s s := ⟨rfl, rfl, rfl⟩

theorem OnlyHandles.trans {s t u : Session κ} (h : OnlyHandles s t) (k : OnlyHandles t u) :
    OnlyHandles s u :=
  ⟨k.1.trans h.1, k.2.1.trans h.2.1, k.2.2.trans h.2.2⟩

theorem onlyHandles_setHandle (i : Nat) (h : RowHandle) (s : Session κ) :
    OnlyHandles s (setHandle i h s) := ⟨rfl, rfl, rfl⟩

theorem handle_setHandle {i : Nat} {s : Session κ} (hi : i < s.handles.length) (h : RowHandle) :
    handle i (setHandle i h s) = h := by
  simp [handle, setHandle, List.getD_eq_getElem?_getD, hi]

/-- The handle `i` stands on a row that the cursor has not left. -/
structure Standing (c : Cursor κ) (i : Nat) (columns : List Column) (row : List Value)
    (s : Session κ) : Prop where
  given : i < s.handles.length
  isOpen : (handle i s).closed = false
  columns_eq : (handle i s).columns = columns
  row_eq : (handle i s).row = some row
  stamp_eq : c.stamp s.cursor = (handle i s).stamp

variable {b : Backend} {c : Cursor κ} {i : Nat} {columns : List Column} {row : List Value}
  {s : Session κ}

theorem Standing.cell_eq (h : Standing c i columns row s) (index : Int) :
    cell c i index s = cellOf row index := by
  simp only [cell, h.row_eq, h.stamp_eq, cellOf, if_true]

theorem cellOf_modify (row : List Value) (f : Value → Value) {p q : Int} (hp : 1 ≤ p)
    (hpq : q ≠ p) : cellOf (row.modify (p - 1).toNat f) q = cellOf row q := by
  simp only [cellOf, List.length_modify]
  split
  · rename_i hq
    have hne : (p - 1).toNat ≠ (q - 1).toNat := by omega
    rw [List.getD_eq_getElem?_getD, List.getD_eq_getElem?_getD, List.getElem?_modify_ne f row hne]
  · rfl

theorem Standing.spendCell (h : Standing c i columns row s) (index : Int) :
    Standing c i columns (row.modify (index - 1).toNat Value.spent) (spendCell i index s) := by
  have hh : handle i (Session.spendCell i index s) =
      { handle i s with row := some (row.modify (index - 1).toNat Value.spent) } := by
    rw [Session.spendCell, handle_setHandle h.given, h.row_eq]
    rfl
  constructor
  · simpa [Session.spendCell, setHandle] using h.given
  · rw [hh]; exact h.isOpen
  · rw [hh]; exact h.columns_eq
  · rw [hh]
  · rw [hh]; exact h.stamp_eq

/-- What is left of the row and of the session after the cell at `p` was read. -/
def Spent (c : Cursor κ) (i : Nat) (columns : List Column) (p : Int) (row : List Value)
    (s t : Session κ) : Prop :=
  OnlyHandles s t ∧ ∃ row', Standing c i columns row' t ∧
    ∀ q, q ≠ p → cellOf row' q = cellOf row q

theorem Spent.refl (h : Standing c i columns row s) (p : Int) : Spent c i columns p row s s :=
  ⟨.refl s, row, h, fun _ _ => rfl⟩

theorem run_readCell (h : Standing c i columns row s) {p : Int} (hp : 1 ≤ p) (reading : Reading) :
    ∃ t, (readCell c i reading p).run s = (cellOf row p >>= reading.convert, t) ∧
      Spent c i columns p row s t := by
  cases hv : cellOf row p with
  | error f => exact ⟨s, run_readCell_error ((h.cell_eq p).trans hv) reading, .refl h p⟩
  | ok v =>
      have spent : Spent c i columns p row s (Session.spendCell i p s) :=
        ⟨onlyHandles_setHandle .., _, h.spendCell p, fun q hq => cellOf_modify row _ hp hq⟩
      refine ⟨_, run_readCell_ok ((h.cell_eq p).trans hv) reading, ?_⟩
      cases reading with
      | text => exact spent
      | bytes => exact spent
      | timestamp => exact .refl h p
      | date => exact .refl h p

/-- Every read of a cell of the row is a reading of what was fetched for it. -/
theorem Standing.reads (h : Standing c i columns row s) (hc : Numbered columns) {x : Column}
    (hx : x ∈ columns) (b : Backend) :
    (resultSet b c i columns).Reads b.dialect x (cellOf row x.position)
      (Spent c i columns x.position row s) s where
  column_eq := hc.atPosition? hx
  object := by
    have hrun := run_readObject_cell b c i x.position s
    rw [h.cell_eq, h.columns_eq, hc.atPosition hx] at hrun
    exact hrun
  typed reading := run_readCell h (hc.one_le hx) reading
  unread := .refl h x.position

def moved (c : Cursor κ) (i : Nat) (row : Option (List Value)) (k : κ) (s : Session κ) :
    Session κ :=
  setHandle i { handle i s with row := row, stamp := c.stamp k } { s with cursor := k }

theorem run_onCursor {a : Action κ α} {r : Except Fault α} {k : κ} (h : a.run s.cursor = (r, k)) :
    (onCursor a).run s = (r, { s with cursor := k }) := by
  show ((a.run s.cursor).1, { s with cursor := (a.run s.cursor).2 }) = _
  rw [h]

/-- A closed handle has no row and does not ask the cursor. -/
theorem run_nextRow_closed (h : (handle i s).closed = true) :
    (nextRow c i).run s = (.ok false, s) := by
  rw [nextRow, Action.run_bind_ok (Action.run_state s), h]
  rfl

theorem run_nextRow_error (hopen : (handle i s).closed = false) {f : Fault} {k : κ}
    (h : c.fetch.run s.cursor = (.error f, k)) :
    (nextRow c i).run s = (.error f, { s with cursor := k }) := by
  rw [nextRow, Action.run_bind_ok (Action.run_state s), hopen]
  simp only [Bool.false_eq_true, if_false]
  exact Action.run_bind_error (run_onCursor h)

theorem run_nextRow_none (hopen : (handle i s).closed = false) {k : κ}
    (h : c.fetch.run s.cursor = (.ok none, k)) :
    (nextRow c i).run s = (.ok false, moved c i none k s) := by
  rw [nextRow, Action.run_bind_ok (Action.run_state s), hopen]
  simp only [Bool.false_eq_true, if_false]
  rw [Action.run_bind_ok (run_onCursor h)]
  rfl

theorem run_nextRow_notARow (hopen : (handle i s).closed = false) {v : Value} {f : Fault} {k : κ}
    (h : c.fetch.run s.cursor = (.ok (some v), k)) (hv : v.toRow = .error f) :
    (nextRow c i).run s = (.error f, { s with cursor := k }) := by
  rw [nextRow, Action.run_bind_ok (Action.run_state s), hopen]
  simp only [Bool.false_eq_true, if_false]
  rw [Action.run_bind_ok (run_onCursor h)]
  apply Action.run_bind_error
  rw [Action.run_map, Action.run_ofExcept, hv]
  rfl

theorem run_nextRow_some (hopen : (handle i s).closed = false) {v : Value} {k : κ}
    (h : c.fetch.run s.cursor = (.ok (some v), k)) (hv : v.toRow = .ok row) :
    (nextRow c i).run s = (.ok true, moved c i (some row) k s) := by
  rw [nextRow, Action.run_bind_ok (Action.run_state s), hopen]
  simp only [Bool.false_eq_true, if_false]
  have hrow : (some <$> Action.ofExcept v.toRow : Action (Session κ) (Option (List Value))).run
      { s with cursor := k } = (.ok (some row), { s with cursor := k }) := by
    rw [Action.run_map, Action.run_ofExcept, hv]
    rfl
  rw [Action.run_bind_ok (run_onCursor h)]
  exact Action.run_bind_ok hrow

theorem handle_moved (hi : i < s.handles.length) (row : Option (List Value)) (k : κ) :
    handle i (moved c i row k s) = { handle i s with row := row, stamp := c.stamp k } :=
  handle_setHandle (s := { s with cursor := k }) hi _

theorem standing_moved (hi : i < s.handles.length) (hopen : (handle i s).closed = false)
    (hcolumns : (handle i s).columns = columns) (row : List Value) (k : κ) :
    Standing c i columns row (moved c i (some row) k s) := by
  constructor
  · simpa [moved, setHandle] using hi
  · rw [handle_moved hi]; exact hopen
  · rw [handle_moved hi]; exact hcolumns
  · rw [handle_moved hi]
  · rw [handle_moved hi]; rfl

/-- Normalizing some columns of a row, where the cells at these columns are still as they were
fetched, gives the normal forms of the fetched cells. -/
theorem performs_normalizeColumns (hc : Numbered columns) (fetched : List Value) (cs : List Column)
    (hsub : ∀ x ∈ cs, x ∈ columns) (hdiff : (cs.map Column.position).Nodup)
    (hsame : ∀ x ∈ cs, cellOf row x.position = cellOf fetched x.position)
    (h : Standing c i columns row s) :
    ∃ t, Performs (normalizeColumns b.dialect (resultSet b c i columns) cs) s
        (b.dialect.normalRow fetched cs) t ∧
      OnlyHandles s t ∧ ∃ row', Standing c i columns row' t := by
  induction cs generalizing row s with
  | nil => exact ⟨s, Performs.pure [] s, .refl s, row, h⟩
  | cons x rest ih =>
      obtain ⟨t, ht, honly, row', hstand, hrow⟩ :=
        (h.reads hc (hsub x (List.mem_cons_self ..)) b).performs_normalize
      rw [hsame x (List.mem_cons_self ..)] at ht
      simp only [List.map_cons, List.nodup_cons, List.mem_map, not_exists, not_and] at hdiff
      have hrest : ∀ y ∈ rest, cellOf row' y.position = cellOf fetched y.position := by
        intro y hy
        have hne : y.position ≠ x.position := hdiff.1 y hy
        rw [hrow y.position hne]
        exact hsame y (List.mem_cons_of_mem _ hy)
      have hsub' : ∀ y ∈ rest, y ∈ columns := fun y hy => hsub y (List.mem_cons_of_mem _ hy)
      obtain ⟨u, hu, honly', row'', hstand'⟩ := ih hsub' hdiff.2 hrest hstand
      rw [normalizeColumns, normalRow]
      cases hv : (b.dialect.normalForm x (cellOf fetched x.position)).result with
      | error e =>
          exact ⟨t, ht.bind_error hv, honly, row', hstand⟩
      | ok v =>
          exact ⟨u, ht.bind_ok hv (hu.bind_pure (v :: ·)), honly.trans honly', row'', hstand'⟩

theorem performs_normalizeRow (hc : Numbered columns) (h : Standing c i columns row s) :
    ∃ t, Performs (normalizeRow b.dialect (resultSet b c i columns)) s
        (b.dialect.normalRow row columns) t ∧
      OnlyHandles s t ∧ ∃ row', Standing c i columns row' t :=
  performs_normalizeColumns hc row columns (fun _ hx => hx) hc.nodup (fun _ _ => rfl) h

end Session

end StatementWalk
