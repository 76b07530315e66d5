import StatementWalk.Proofs.NormalForm

/-!
# Reading one cell

However a cell is read, what comes out is a reading of one raw value. Normalizing it then gives its
normal form: after the generic read at most one typed read follows, so it does not matter that this
read may use the cell up.
-/

namespace StatementWalk

open Dialect

variable {σ : Type}

/-- From the state `s`, every read of the cell at a column is a reading of `raw`, and what it leaves
satisfies `Left`. -/
structure ResultSet.Reads (rs : ResultSet σ) (d : Dialect) (column : Column)
    (raw : Except Fault Value) (Left : σ → Prop) (s : σ) : Prop where
  column_eq : atPosition? rs.columns (column.position - 1) = some column
  object : (rs.getObject column.position).run s = (raw >>= fun v => d.readObject v column, s)
  typed (reading : Reading) :
    ∃ t, (rs.get reading column.position).run s = (raw >>= reading.convert, t) ∧ Left t
  unread : Left s

theorem run_readGeneric_ok {rs : ResultSet σ} {index : Int} {w : World σ} {v : Value}
    (h : (rs.getObject index).run w.driver = (.ok v, w.driver)) :
    (readGeneric rs index).run w = (.ok v, w) := by
  have hread : (World.onDriver (rs.getObject index)).attempt.run w = (.ok (.ok v), w) := by
    rw [Action.run_attempt, World.run_onDriver, h]
  rw [readGeneric, Action.run_bind_ok hread]
  rfl

section Classified

variable {rs : ResultSet σ} {d : Dialect} {index : Int} {column : Column} {v : Value} {s t : σ}
  (hcolumn : atPosition? rs.columns (index - 1) = some column)
  (hobject : (rs.getObject index).run s = (.ok v, s)) (hv : v ≠ .null)
include hcolumn hobject hv

/-- What was read and is not null is classified, and read once more if a correction applies to
it. -/
theorem run_normalize_classified (j : Journal) :
    (normalize d rs index).run ⟨s, j⟩ =
      (do
        match ← Action.ofExcept (d.correctionOf v column) with
        | some q => readAgain rs (q.reading column) index
        | none => return v : Action (World σ) Value).run ⟨s, j⟩ := by
  have hnull : v.isNull = false := by
    cases v with
    | null => exact absurd rfl hv
    | _ => rfl
  rw [normalize, Action.run_bind_ok (run_readGeneric_ok hobject), correct, hnull, hcolumn]
  rfl

/-- Where a correction applies to what was read, the cell is read once more, and no further. -/
theorem run_normalize_reread {q : Correction} {r : Except Fault Value}
    (hq : d.correctionOf v column = .ok (some q))
    (hget : (rs.get (q.reading column) index).run s = (r, t)) (j : Journal) :
    (normalize d rs index).run ⟨s, j⟩ = (r.mapError (cellFault · index), ⟨t, j⟩) := by
  have hread : (World.onDriver (rs.get (q.reading column) index)).attempt.run ⟨s, j⟩ =
      (.ok r, ⟨t, j⟩) := by
    rw [Action.run_attempt, World.run_onDriver, hget]
  rw [run_normalize_classified hcolumn hobject hv, hq, Action.run_bind_ok (Action.run_ofExcept _ _)]
  simp only [readAgain]
  rw [Action.run_bind_ok hread]
  cases r <;> rfl

theorem run_normalize_unclassified {f : Fault} (hf : d.correctionOf v column = .error f)
    (j : Journal) :
    (normalize d rs index).run ⟨s, j⟩ = (.error f, ⟨s, j⟩) := by
  rw [run_normalize_classified hcolumn hobject hv, hf]
  exact Action.run_bind_error (Action.run_ofExcept _ _)

end Classified

namespace ResultSet.Reads

variable {rs : ResultSet σ} {d : Dialect} {column : Column} {raw : Except Fault Value}
  {Left : σ → Prop} {s : σ}

theorem performs_readAgain (h : rs.Reads d column raw Left s) (reading : Reading) :
    ∃ t, Performs (readAgain rs reading column.position) s
      (.ofExcept (readingOf column reading raw)) t ∧ Left t := by
  obtain ⟨t, ht, hleft⟩ := h.typed reading
  have hread : Performs (World.onDriver (rs.get reading column.position)) s
      (.ofExcept (raw >>= reading.convert)) t := .onDriver ht
  refine ⟨t, fun j => ?_, hleft⟩
  rw [readAgain, Action.run_bind_ok (hread.attempt j), readingOf]
  cases raw >>= reading.convert with
  | ok v => rfl
  | error f => rfl

theorem performs_correct_settled (h : rs.Reads d column raw Left s) {v : Value}
    (hv : v = .null ∨ d.correctionOf v column = .ok none) (t : σ) :
    Performs (correct d rs column.position v) t (.ofExcept (.ok v)) t := by
  rcases hv with rfl | hnone
  · exact fun _ => by simp [correct, Value.isNull]
  · intro j
    rw [correct, h.column_eq]
    cases hnull : v.isNull with
    | true =>
        cases v with
        | null => simp
        | _ => cases hnull
    | false =>
        simp only [Bool.false_eq_true, if_false, hnone]
        rw [Action.run_bind_ok (Action.run_ofExcept (.ok none) _)]
        simp

/-- What follows the generic read: nothing for null, else the first correction that applies. -/
theorem performs_correct (h : rs.Reads d column raw Left s) (v : Value) :
    ∃ t, Performs (correct d rs column.position v) s (.ofExcept (d.corrected column raw v)) t ∧
      Left t := by
  cases hnull : v.isNull with
  | true =>
      refine ⟨s, fun j => ?_, h.unread⟩
      simp [correct, corrected, hnull]
  | false =>
      cases hq : d.correctionOf v column with
      | error f =>
          refine ⟨s, fun j => ?_, h.unread⟩
          simp only [correct, corrected, hnull, h.column_eq, hq, Bool.false_eq_true, if_false]
          rw [Action.run_bind_error (Action.run_ofExcept (.error f) _), except_error_bind]
          simp
      | ok correction =>
          cases correction with
          | none =>
              have hvalue : d.corrected column raw v = .ok v := by
                simp [corrected, hnull, hq, except_ok_bind, pure, Except.pure]
              rw [hvalue]
              exact ⟨s, h.performs_correct_settled (.inr hq) s, h.unread⟩
          | some q =>
              obtain ⟨t, ht, hleft⟩ := h.performs_readAgain (q.reading column)
              refine ⟨t, fun j => ?_, hleft⟩
              simp only [correct, corrected, hnull, h.column_eq, hq, Bool.false_eq_true, if_false]
              rw [Action.run_bind_ok (Action.run_ofExcept (.ok (some q)) _)]
              exact ht j

/-- The generic read, or the text in its place. -/
theorem performs_readGeneric_error (h : rs.Reads d column raw Left s) {f : Fault}
    (hf : (raw >>= fun v => d.readObject v column) = .error f) :
    ∃ t, Performs (readGeneric rs column.position) s
      (if isTextInSmallint f then ⟨[textNote column f], readingOf column .text raw⟩
        else .ofExcept (.error (cellFault f column.position))) t ∧ Left t := by
  have hread : Performs (World.onDriver (rs.getObject column.position)) s
      (.ofExcept (.error f)) s :=
    .onDriver (h.object.trans (by rw [hf]))
  cases hq : isTextInSmallint f with
  | false =>
      refine ⟨s, fun j => ?_, h.unread⟩
      rw [readGeneric, Action.run_bind_ok (hread.attempt j)]
      simp [hq]
  | true =>
      obtain ⟨t, ht, hleft⟩ := h.performs_readAgain .text
      refine ⟨t, fun j => ?_, hleft⟩
      rw [readGeneric, Action.run_bind_ok (hread.attempt j)]
      simp only [Noted.result_ofExcept, Noted.notes_ofExcept, Journal.addRecords_nil, hq, if_true]
      rw [Action.run_bind_ok (Performs.log .debug .normalization _ s j), ht]
      simp [textNote]

/-- Normalizing a cell gives its normal form. -/
theorem performs_normalize (h : rs.Reads d column raw Left s) :
    ∃ t, Performs (normalize d rs column.position) s (d.normalForm column raw) t ∧ Left t := by
  unfold normalize normalForm
  cases hv : raw >>= fun v => d.readObject v column with
  | ok v =>
      obtain ⟨t, ht, hleft⟩ := h.performs_correct v
      have hread : (rs.getObject column.position).run s = (.ok v, s) := h.object.trans (by rw [hv])
      refine ⟨t, fun j => ?_, hleft⟩
      rw [Action.run_bind_ok (run_readGeneric_ok (w := ⟨s, j⟩) hread)]
      exact ht j
  | error f =>
      obtain ⟨t, ht, hleft⟩ := h.performs_readGeneric_error hv
      refine ⟨t, ?_, hleft⟩
      dsimp only
      cases hq : isTextInSmallint f with
      | false =>
          rw [hq] at ht
          exact ht.stop
      | true =>
          rw [hq] at ht
          simp only [if_true] at ht ⊢
          cases hr : readingOf column .text raw with
          | error e =>
              rw [hr] at ht
              exact fun j => Action.run_bind_error (ht j)
          | ok v =>
              rw [hr] at ht
              intro j
              rw [Action.run_bind_ok (ht j),
                h.performs_correct_settled (settled_of_readingOf_text hr d) t]
              simp

end ResultSet.Reads

theorem cellOf_of_getElem? {row : List Value} {k : Nat} {v : Value} (h : row[k]? = some v) :
    cellOf row (k + 1) = .ok v := by
  have hk : k < row.length := (List.getElem?_eq_some_iff.mp h).1
  have hposition : ((k : Int) + 1 - 1).toNat = k := by omega
  rw [cellOf, if_pos (by omega), hposition, List.getD_eq_getElem?_getD, h]
  rfl

namespace Session

variable {κ : Type} {c : Cursor κ} {i : Nat} {index : Int} {s : Session κ} {columns : List Column}
  {column : Column} {raw : Value}

theorem one_le_of_cell (h : cell c i index s = .ok raw) : 1 ≤ index := by
  unfold cell at h
  dsimp only at h
  split at h
  · cases h
  · split at h
    · rename_i hindex
      exact hindex.1
    · cases h

/-- The cells of the row of a handle, as they are while the cursor is where it is. -/
theorem cell_of_row {row : List Value} (h : (handle i s).row = some row) (index : Int) :
    cell c i index s = (cellOf row index).map fun v =>
      if c.stamp s.cursor = (handle i s).stamp then v else v.expired := by
  unfold cell cellOf
  simp only [h]
  split <;> rfl

theorem atPosition?_of_column (hindex : 1 ≤ index)
    (hc : columns[(index - 1).toNat]? = some column) :
    atPosition? columns (index - 1) = some column := by
  rw [atPosition?, if_pos (by omega)]
  exact hc

theorem run_readObject_cell (b : Backend) (c : Cursor κ) (i : Nat) (index : Int) (s : Session κ) :
    (readObject b c i index).run s =
      ((do
        let raw ← cell c i index s
        match (handle i s).columns[(index - 1).toNat]? with
        | some column => b.dialect.readObject raw column
        | none => .error (columnMissing index)), s) := by
  rw [readObject, Action.run_bind_ok (Action.run_state s)]
  cases hcell : cell c i index s with
  | error e => exact Action.run_bind_error (Action.run_ofExcept _ s)
  | ok raw =>
      rw [Action.run_bind_ok (Action.run_ofExcept _ s), except_ok_bind]
      cases (handle i s).columns[(index - 1).toNat]? with
      | none => rfl
      | some column => rfl

/-- What a typed read of a cell leaves of the session. -/
def afterRead (i : Nat) (reading : Reading) (index : Int) (s : Session κ) : Session κ :=
  match reading with
  | .text | .bytes => spendCell i index s
  | .timestamp | .date => s

theorem run_readCell_ok (h : cell c i index s = .ok raw) (reading : Reading) :
    (readCell c i reading index).run s = (reading.convert raw, afterRead i reading index s) := by
  rw [readCell, Action.run_bind_ok (Action.run_state s), h,
    Action.run_bind_ok (Action.run_ofExcept (.ok raw) s)]
  cases reading <;> rfl

theorem run_readCell_error {f : Fault} (h : cell c i index s = .error f) (reading : Reading) :
    (readCell c i reading index).run s = (.error f, s) := by
  rw [readCell, Action.run_bind_ok (Action.run_state s), h]
  exact Action.run_bind_error (Action.run_ofExcept (.error f) s)

/-- The row of the handle `i` holds `raw` at the column. -/
structure HoldsCell (c : Cursor κ) (i : Nat) (columns : List Column) (column : Column) (raw : Value)
    (s : Session κ) : Prop where
  columns_eq : (handle i s).columns = columns
  column_eq : columns[(column.position - 1).toNat]? = some column
  cell_eq : cell c i column.position s = .ok raw

namespace HoldsCell

theorem reads (h : HoldsCell c i columns column raw s) (b : Backend) :
    (resultSet b c i columns).Reads b.dialect column (.ok raw) (fun _ => True) s where
  column_eq := atPosition?_of_column (one_le_of_cell h.cell_eq) h.column_eq
  object := by
    have hrun := run_readObject_cell b c i column.position s
    rw [h.cell_eq, h.columns_eq, h.column_eq] at hrun
    exact hrun
  typed reading := ⟨_, run_readCell_ok h.cell_eq reading, trivial⟩
  unread := trivial

/-- What a cell becomes is the normal form of what the row holds there. -/
theorem run_normalize (h : HoldsCell c i columns column raw s) (b : Backend) (j : Journal) :
    ((normalize b.dialect (resultSet b c i columns) column.position).run ⟨s, j⟩).1 =
      (b.dialect.normalForm column (.ok raw)).result := by
  obtain ⟨t, ht, -⟩ := (h.reads b).performs_normalize
  exact congrArg Prod.fst (ht j)

theorem normalizes (h : HoldsCell c i columns column raw s) (b : Backend) (j : Journal) :
    Normalizes b.dialect column raw
      ((normalize b.dialect (resultSet b c i columns) column.position).run ⟨s, j⟩).1 := by
  rw [h.run_normalize b j]
  exact normalizes_normalForm b.dialect column raw

end HoldsCell

end Session

end StatementWalk
