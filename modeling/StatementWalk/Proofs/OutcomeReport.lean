import Mathlib.Data.List.Forall2
import StatementWalk.Proofs.CellText
import StatementWalk.Proofs.OutcomeForm

/-!
# Reports of outcomes

What an outcome has to look like is said row by row and cell by cell: the labels of the columns, one
normalized row for each row that was fetched, one line of text for each row, and the counts. Every
outcome without a fault, all of whose integers are short enough to be written, comes to a report of
this form.
-/

namespace StatementWalk

open Dialect Number Record

/-- The rows that are fetched: those before the first null. -/
def fetchedRows (items : List Value) : List Value := items.takeWhile fun v => !v.isNull

/-- The normalized row of a fetched row: one normalized cell for each column. -/
def RowReport (d : Dialect) (columns : List Column) (v : Value) (row : List Value) : Prop :=
  ∃ raw, v.toRow = .ok raw ∧
    List.Forall₂ (fun c w => (d.normalForm c (cellOf raw c.position)).result = .ok w) columns row

def LineReport (row : List Value) (line : String) : Prop :=
  ∃ texts, List.Forall₂ (fun v text => v.cellText = .ok text) row texts ∧
    line = "\t".intercalate texts

/-- The number of rows affected: zero unless the driver counts them. -/
def rowsAffected (counted : Bool) (v : Value) : Nat :=
  match counted, v with
  | true, .int n => n.toNat
  | _, _ => 0

namespace OutcomeScript

/-- The outcome reports a place of a script. -/
inductive Reports (d : Dialect) (counted : Bool) : OutcomeScript → Outcome → Prop where
  | table {entries : List Entry} {items : List Value} {fault : Option (Nat × Fault)}
      {columns : List Column} {rows : List (List Value)} {lines : List String}
      (hcolumns : d.describeAll 1 entries = .ok columns)
      (hrows : List.Forall₂ (RowReport d columns) (fetchedRows items) rows)
      (hlines : List.Forall₂ LineReport rows lines) :
      Reports d counted (.rows entries items fault)
        { kind := .resultSet
          text := "\n".intercalate ("\t".intercalate (columns.map Column.label) :: lines)
          rowCount := (fetchedRows items).length
          columns := columns.map Column.label
          rows }
  | count (v : Value) :
      Reports d counted (.count v)
        { kind := .updateCount
          text := toString (rowsAffected counted v) ++ " row(s) affected"
          rowCount := rowsAffected counted v }

/-- No call of the driver fails, the columns can be described, every row has a cell for each of them
and every cell normalizes; a count is an integer or missing. -/
def Regular (d : Dialect) (counted : Bool) : OutcomeScript → Prop
  | .failing _ => False
  | .rows entries items fault =>
    (∀ after f, fault = some (after, f) → (fetchedRows items).length < after) ∧
    ∃ columns, d.describeAll 1 entries = .ok columns ∧
      ∀ v ∈ fetchedRows items, ∃ raw, v.toRow = .ok raw ∧ raw.length = entries.length ∧
        ∀ c ∈ columns, ∃ w, (d.normalForm c (cellOf raw c.position)).result = .ok w
  | .count v => counted = true → v = .null ∨ ∃ n, v = .int n

/-- No integer that has to be written is too long. -/
def Writable (d : Dialect) (counted : Bool) : OutcomeScript → Prop
  | .failing _ => True
  | .rows entries items _ =>
    (fetchedRows items).length < digitBound ∧
    ∀ columns v raw c w, d.describeAll 1 entries = .ok columns → v ∈ fetchedRows items →
      v.toRow = .ok raw → c ∈ columns →
      (d.normalForm c (cellOf raw c.position)).result = .ok w → w.Fits
  | .count v => rowsAffected counted v < digitBound

end OutcomeScript

theorem mapM_eq_ok {α β : Type} {f : α → Except Fault β} {xs : List α}
    (h : ∀ x ∈ xs, ∃ y, f x = .ok y) :
    ∃ ys, xs.mapM f = .ok ys ∧ List.Forall₂ (fun x y => f x = .ok y) xs ys := by
  induction xs with
  | nil => exact ⟨[], rfl, .nil⟩
  | cons x rest ih =>
      obtain ⟨y, hy⟩ := h x (List.mem_cons_self ..)
      obtain ⟨ys, hys, hall⟩ := ih fun z hz => h z (List.mem_cons_of_mem _ hz)
      refine ⟨y :: ys, ?_, .cons hy hall⟩
      rw [List.mapM_cons, hy, except_ok_bind, hys]
      rfl

theorem forall₂_of_mapM_ok {α β : Type} {f : α → Except Fault β} {xs : List α} {ys : List β}
    (h : xs.mapM f = .ok ys) : List.Forall₂ (fun x y => f x = .ok y) xs ys := by
  induction xs generalizing ys with
  | nil =>
      cases h
      exact .nil
  | cons x rest ih =>
      rw [List.mapM_cons] at h
      obtain ⟨y, hy, hrest⟩ := except_bind_eq_ok.mp h
      obtain ⟨zs, hzs, hys⟩ := except_bind_eq_ok.mp hrest
      cases hys
      exact .cons hy (ih hzs)

theorem rowLine_eq_ok {row : List Value} (hnormal : ∀ v ∈ row, v.IsNormal)
    (hfits : ∀ v ∈ row, v.Fits) : ∃ line, rowLine row = .ok line ∧ LineReport row line := by
  obtain ⟨texts, htexts, hall⟩ := mapM_eq_ok (f := Value.cellText)
    fun v hv => Value.cellText_eq_ok (hnormal v hv) (hfits v hv)
  refine ⟨"\t".intercalate texts, ?_, texts, hall, rfl⟩
  rw [rowLine, htexts]
  rfl

namespace Dialect

variable {d : Dialect} {raw : List Value} {cs : List Column}

theorem normalRow_eq_ok (h : ∀ c ∈ cs, ∃ w,
    (d.normalForm c (cellOf raw c.position)).result = .ok w) :
    ∃ row, (d.normalRow raw cs).result = .ok row ∧
      List.Forall₂ (fun c w => (d.normalForm c (cellOf raw c.position)).result = .ok w) cs row := by
  induction cs with
  | nil => exact ⟨[], rfl, .nil⟩
  | cons c rest ih =>
      obtain ⟨w, hw⟩ := h c (List.mem_cons_self ..)
      obtain ⟨row, hrow, hall⟩ := ih fun x hx => h x (List.mem_cons_of_mem _ hx)
      refine ⟨w :: row, ?_, .cons hw hall⟩
      rw [normalRow]
      exact Noted.result_bind_eq_ok.mpr ⟨w, hw, Noted.result_bind_eq_ok.mpr ⟨row, hrow, rfl⟩⟩

theorem isNormal_of_forall₂ {row : List Value}
    (h : List.Forall₂ (fun c w => (d.normalForm c (cellOf raw c.position)).result = .ok w) cs row) :
    ∀ w ∈ row, w.IsNormal := by
  induction h with
  | nil => simp
  | cons hw _ ih =>
      intro x hx
      rcases List.mem_cons.mp hx with rfl | hx
      · exact isNormal_of_normalForm hw
      · exact ih x hx

theorem fits_of_forall₂ {row : List Value}
    (h : List.Forall₂ (fun c w => (d.normalForm c (cellOf raw c.position)).result = .ok w) cs row)
    (hfits : ∀ c ∈ cs, ∀ w, (d.normalForm c (cellOf raw c.position)).result = .ok w → w.Fits) :
    ∀ w ∈ row, w.Fits := by
  induction h with
  | nil => simp
  | cons hw _ ih =>
      intro x hx
      rcases List.mem_cons.mp hx with rfl | hx
      · exact hfits _ (List.mem_cons_self ..) _ hw
      · exact ih (fun c hc => hfits c (List.mem_cons_of_mem _ hc)) x hx

variable {columns : List Column} {fault : Option (Nat × Fault)} {fetched : Nat} {items : List Value}

theorem fetchFaultAt_eq_none {n : Nat}
    (h : ∀ after f, fault = some (after, f) → fetched + n < after) :
    fetchFaultAt fault fetched = none := by
  unfold fetchFaultAt
  split
  · rename_i after f
    have hlt := h after f rfl
    rw [if_neg (by omega)]
  · rfl

/-- Where no row fails, the table has every row that is fetched, in order. -/
theorem tableForm_eq_ok
    (hfault : ∀ after f, fault = some (after, f) → fetched + (fetchedRows items).length < after)
    (hrows : ∀ v ∈ fetchedRows items, ∃ raw, v.toRow = .ok raw ∧
      (∀ c ∈ columns, ∃ w, (d.normalForm c (cellOf raw c.position)).result = .ok w) ∧
      ∀ c ∈ columns, ∀ w, (d.normalForm c (cellOf raw c.position)).result = .ok w → w.Fits) :
    ∃ table, (d.tableForm columns fault fetched items).result = .ok table ∧
      List.Forall₂ (RowReport d columns) (fetchedRows items) table.rows ∧
      List.Forall₂ LineReport table.rows table.lines := by
  induction items generalizing fetched with
  | nil =>
      rw [tableForm_nil (fetchFaultAt_eq_none hfault)]
      exact ⟨{}, rfl, .nil, .nil⟩
  | cons v rest ih =>
      have hnone := fetchFaultAt_eq_none hfault
      cases hv : v.isNull with
      | true =>
          rw [tableForm_null hnone hv, fetchedRows, List.takeWhile_cons]
          simp only [hv, Bool.not_true, Bool.false_eq_true, if_false]
          exact ⟨{}, rfl, .nil, .nil⟩
      | false =>
          have hcons : fetchedRows (v :: rest) = v :: fetchedRows rest := by
            rw [fetchedRows, List.takeWhile_cons, hv]
            rfl
          rw [hcons] at hfault hrows
          obtain ⟨raw, hraw, hcells, hfits⟩ := hrows v (List.mem_cons_self ..)
          obtain ⟨row, hrow, hall⟩ := normalRow_eq_ok hcells
          obtain ⟨line, hline, hreport⟩ :=
            rowLine_eq_ok (isNormal_of_forall₂ hall) (fits_of_forall₂ hall hfits)
          have hfault' : ∀ after f, fault = some (after, f) →
              fetched + 1 + (fetchedRows rest).length < after := by
            intro after f hf
            have hlt := hfault after f hf
            rw [List.length_cons] at hlt
            omega
          obtain ⟨table, htable, hrest, hlines⟩ :=
            ih hfault' fun x hx => hrows x (List.mem_cons_of_mem _ hx)
          refine ⟨⟨row :: table.rows, line :: table.lines⟩, ?_, ?_, .cons hreport hlines⟩
          · rw [tableForm_cons hnone hv]
            refine Noted.result_bind_eq_ok.mpr ⟨raw, hraw, ?_⟩
            refine Noted.result_bind_eq_ok.mpr ⟨row, hrow, ?_⟩
            refine Noted.result_bind_eq_ok.mpr ⟨line, hline, ?_⟩
            exact Noted.result_bind_eq_ok.mpr ⟨table, htable, rfl⟩
          · rw [hcons]
            exact .cons ⟨raw, hraw, hall⟩ hrest

end Dialect

namespace OutcomeScript

variable {d : Dialect} {counted : Bool} {o : OutcomeScript}

theorem affected_eq_ok {v : Value} (h : counted = true → v = .null ∨ ∃ n, v = .int n) :
    affected counted v = .ok (.int (rowsAffected counted v)) := by
  cases counted with
  | false => rfl
  | true =>
      rcases h rfl with rfl | ⟨n, rfl⟩
      · rfl
      · show Except.ok (if decide (0 ≤ n) then Value.int n else .int 0) = _
        rw [rowsAffected]
        by_cases hn : 0 ≤ n
        · rw [if_pos (decide_eq_true hn), Int.toNat_of_nonneg hn]
        · rw [if_neg (by simpa using hn), Int.toNat_of_nonpos (by omega)]
          rfl

theorem countLine_natCast {n : Nat} (h : n < digitBound) :
    countLine n = .ok (toString n ++ " row(s) affected") := by
  rw [countLine, intText_eq_ok (by rw [Int.natAbs_natCast]; exact h)]
  rfl

theorem countOutcome_natCast {n : Nat} (h : n < digitBound) :
    countOutcome (.int n) =
      .ok { kind := .updateCount, text := toString n ++ " row(s) affected", rowCount := n } := by
  have hdisplay : Value.display (.int n) = .ok (toString n) :=
    (Value.display_int n).trans (intText_eq_ok h)
  rw [countOutcome, hdisplay, except_ok_bind]
  dsimp only
  rw [ofFields_count, readIntIn_natCast]
  rfl

/-- A regular outcome, all of whose integers can be written, is made, and it is the report. -/
theorem form_eq_ok (h : o.Regular d counted) (hw : o.Writable d counted) :
    ∃ outcome, (o.form d counted).result = .ok outcome ∧ o.Reports d counted outcome := by
  cases o with
  | failing f => exact h.elim
  | rows entries items fault =>
      obtain ⟨hfault, columns, hcolumns, hrows⟩ := h
      obtain ⟨hlength, hfits⟩ := hw
      have hfault' : ∀ after f, fault = some (after, f) →
          0 + (fetchedRows items).length < after := by
        intro after f hf
        rw [Nat.zero_add]
        exact hfault after f hf
      obtain ⟨table, htable, hreport, hlines⟩ := tableForm_eq_ok hfault' fun v hv => by
        obtain ⟨raw, hraw, -, hcells⟩ := hrows v hv
        exact ⟨raw, hraw, hcells, fun c hc w => hfits columns v raw c w hcolumns hv hraw hc⟩
      have hcount : table.rows.length = (fetchedRows items).length := hreport.length_eq.symm
      have hsummary : ∃ s, (tableOutcome columns table).summary = .ok s := by
        refine ⟨toString table.rows.length ++ " row(s) affected", countLine_natCast ?_⟩
        rw [hcount]
        exact hlength
      obtain ⟨summary, hsummary⟩ := hsummary
      refine ⟨tableOutcome columns table, ?_, ?_⟩
      · refine Noted.result_bind_eq_ok.mpr ⟨columns, hcolumns, ?_⟩
        refine Noted.result_bind_eq_ok.mpr ⟨table, htable, ?_⟩
        exact Noted.result_bind_eq_ok.mpr ⟨summary, hsummary, rfl⟩
      · rw [tableOutcome, hcount]
        exact .table hcolumns hreport hlines
  | count v =>
      refine ⟨_, ?_, .count v⟩
      show (affected counted v >>= countOutcome) = _
      rw [affected_eq_ok h, except_ok_bind]
      exact countOutcome_natCast hw

end OutcomeScript

end StatementWalk
