import StatementWalk.Proofs.PlainCells

/-!
# Lines and fields of a table

The text of a result set has a line of labels and a line for each row, with tabs between the fields.
It is put together from labels and cells as they are. So reading it back line by line and field by
field finds the table again if no label and no text of a cell has a newline or a tab in it, and
otherwise a line or a field too many.
-/

namespace StatementWalk

section Splitting

variable {x y : Char} {cs : List Char} {ls : List (List Char)}

/-- What is joined by a separator splits where its parts do, and between them. -/
theorem splitOn_join (x : Char) (hls : ls ≠ []) :
    ([x].intercalate ls).splitOn x = ls.flatMap (List.splitOn x) := by
  induction ls with
  | nil => exact absurd rfl hls
  | cons l rest ih =>
      by_cases hrest : rest = []
      · simp [hrest, List.intercalate_singleton]
      · rw [List.intercalate_cons_of_ne_nil hrest, List.append_assoc, List.singleton_append,
          List.splitOn_append_cons_self, ih hrest, List.flatMap_cons]

theorem length_splitOn_pos (x : Char) (cs : List Char) : 0 < (cs.splitOn x).length :=
  List.length_pos_iff.mpr (List.splitOn_ne_nil x cs)

theorem length_splitOn_eq_one : (cs.splitOn x).length = 1 ↔ x ∉ cs := by
  constructor
  · intro hone hmem
    obtain ⟨before, after, rfl⟩ := List.append_of_mem hmem
    have hbefore := length_splitOn_pos x before
    have hafter := length_splitOn_pos x after
    rw [List.splitOn_append_cons_self, List.length_append] at hone
    omega
  · intro hmem
    rw [List.splitOn_eq_singleton hmem, List.length_singleton]

theorem length_le_flatMap_splitOn (x : Char) (ls : List (List Char)) :
    ls.length ≤ (ls.flatMap (List.splitOn x)).length := by
  induction ls with
  | nil => simp
  | cons l rest ih =>
      have hl := length_splitOn_pos x l
      simp only [List.flatMap_cons, List.length_append, List.length_cons]
      omega

/-- The parts are found again in number if none of them has the separator in it. -/
theorem length_splitOn_join (hls : ls ≠ []) :
    (([x].intercalate ls).splitOn x).length = ls.length ↔ ∀ l ∈ ls, x ∉ l := by
  rw [splitOn_join x hls]
  clear hls
  induction ls with
  | nil => simp
  | cons l rest ih =>
      have hl := length_splitOn_pos x l
      have hrest := length_le_flatMap_splitOn x rest
      simp only [List.flatMap_cons, List.length_append, List.length_cons, List.forall_mem_cons]
      constructor
      · intro h
        have hone : (l.splitOn x).length = 1 := by omega
        have hall : (rest.flatMap (List.splitOn x)).length = rest.length := by omega
        exact ⟨length_splitOn_eq_one.mp hone, ih.mp hall⟩
      · rintro ⟨hone, hall⟩
        have hl := length_splitOn_eq_one.mpr hone
        have hrest := ih.mpr hall
        omega

theorem mem_join (h : y ≠ x) : y ∈ [x].intercalate ls ↔ ∃ l ∈ ls, y ∈ l := by
  induction ls with
  | nil => simp [List.intercalate]
  | cons l rest ih =>
      by_cases hrest : rest = []
      · simp [hrest, List.intercalate_singleton]
      · rw [List.intercalate_cons_of_ne_nil hrest]
        simp [h, ih]

end Splitting

/-- The text has no separator of lines or fields in it. -/
def Unbroken (s : String) : Prop := '\n' ∉ s.toList ∧ '\t' ∉ s.toList

/-- The text has a number of lines, and a number of fields in each of them. -/
def Splits (lines fields : Nat) (text : String) : Prop :=
  (text.toList.splitOn '\n').length = lines ∧
    ∀ line ∈ text.toList.splitOn '\n', (line.splitOn '\t').length = fields

/-- Rows of texts, line by line and field by field. -/
def gridText (grid : List (List String)) : String := "\n".intercalate (grid.map "\t".intercalate)

def gridLine (row : List String) : List Char := ['\t'].intercalate (row.map String.toList)

theorem toList_gridText (grid : List (List String)) :
    (gridText grid).toList = ['\n'].intercalate (grid.map gridLine) := by
  simp only [gridText, String.toList_intercalate, List.map_map, Function.comp_def]
  rfl

theorem length_splitOn_gridLine {row : List String} (hrow : row ≠ []) :
    ((gridLine row).splitOn '\t').length = row.length ↔ ∀ s ∈ row, '\t' ∉ s.toList := by
  have h : ((gridLine row).splitOn '\t').length = (row.map String.toList).length ↔
      ∀ l ∈ row.map String.toList, '\t' ∉ l := length_splitOn_join (by simpa using hrow)
  simpa using h

theorem newline_mem_gridLine {row : List String} :
    '\n' ∈ gridLine row ↔ ∃ s ∈ row, '\n' ∈ s.toList := by
  rw [gridLine, mem_join (by decide)]
  simp

theorem length_splitOn_gridText {grid : List (List String)} (hgrid : grid ≠ []) :
    ((gridText grid).toList.splitOn '\n').length = grid.length ↔
      ∀ row ∈ grid, '\n' ∉ gridLine row := by
  have h : ((['\n'].intercalate (grid.map gridLine)).splitOn '\n').length =
      (grid.map gridLine).length ↔ ∀ l ∈ grid.map gridLine, '\n' ∉ l :=
    length_splitOn_join (by simpa using hgrid)
  rw [toList_gridText]
  simpa using h

theorem splitOn_gridText {grid : List (List String)} (hgrid : grid ≠ [])
    (h : ∀ row ∈ grid, '\n' ∉ gridLine row) :
    (gridText grid).toList.splitOn '\n' = grid.map gridLine := by
  rw [toList_gridText]
  apply List.splitOn_intercalate
  · simpa using h
  · simpa using hgrid

/-- A grid is found again in its text if and only if none of its texts is broken. -/
theorem splits_gridText {grid : List (List String)} {n : Nat} (hgrid : grid ≠ []) (hn : 0 < n)
    (hwidth : ∀ row ∈ grid, row.length = n) :
    Splits grid.length n (gridText grid) ↔ ∀ row ∈ grid, ∀ s ∈ row, Unbroken s := by
  have hfields (row : List String) (hrow : row ∈ grid) :
      ((gridLine row).splitOn '\t').length = n ↔ ∀ s ∈ row, '\t' ∉ s.toList := by
    have hne : row ≠ [] := by
      intro hnil
      have hlength := hwidth row hrow
      rw [hnil, List.length_nil] at hlength
      omega
    rw [← hwidth row hrow]
    exact length_splitOn_gridLine hne
  constructor
  · rintro ⟨hcount, hall⟩ row hrow s hs
    have hwhole := (length_splitOn_gridText hgrid).mp hcount
    rw [splitOn_gridText hgrid hwhole] at hall
    have hline := (hfields row hrow).mp (hall (gridLine row) (List.mem_map_of_mem hrow))
    exact ⟨fun hnewline => hwhole row hrow (newline_mem_gridLine.mpr ⟨s, hs, hnewline⟩), hline s hs⟩
  · intro h
    have hwhole : ∀ row ∈ grid, '\n' ∉ gridLine row := by
      intro row hrow hnewline
      obtain ⟨s, hs, hmem⟩ := newline_mem_gridLine.mp hnewline
      exact (h row hrow s hs).1 hmem
    refine ⟨(length_splitOn_gridText hgrid).mpr hwhole, ?_⟩
    rw [splitOn_gridText hgrid hwhole]
    intro line hline
    obtain ⟨row, hrow, rfl⟩ := List.mem_map.mp hline
    exact (hfields row hrow).mpr fun s hs => (h row hrow s hs).2

theorem forall_mem_iff_of_forall₂ {α β : Type} {R : α → β → Prop} {P : α → Prop} {Q : β → Prop}
    {xs : List α} {ys : List β} (h : List.Forall₂ R xs ys) (hR : ∀ x y, R x y → (P x ↔ Q y)) :
    (∀ x ∈ xs, P x) ↔ ∀ y ∈ ys, Q y := by
  induction h with
  | nil => simp
  | cons hxy _ ih => rw [List.forall_mem_cons, List.forall_mem_cons, hR _ _ hxy, ih]

theorem lineReport_of_rowLine {row : List Value} {line : String} (h : rowLine row = .ok line) :
    LineReport row line := by
  obtain ⟨texts, htexts, hline⟩ := except_bind_eq_ok.mp h
  exact ⟨texts, forall₂_of_mapM_ok htexts, (Except.ok.inj hline).symm⟩

/-- Every row of the table has the given number of cells, and its line is put together from them. -/
structure Table.HasWidth (n : Nat) (t : Table) : Prop where
  widths (row : List Value) (h : row ∈ t.rows) : row.length = n
  reports : List.Forall₂ LineReport t.rows t.lines

def CellTexts (row : List Value) (texts : List String) : Prop :=
  List.Forall₂ (fun v text => v.cellText = .ok text) row texts

theorem exists_cellTexts {rows : List (List Value)} {lines : List String}
    (h : List.Forall₂ LineReport rows lines) :
    ∃ grid, List.Forall₂ CellTexts rows grid ∧ lines = grid.map "\t".intercalate := by
  induction h with
  | nil => exact ⟨[], .nil, rfl⟩
  | cons hline _ ih =>
      obtain ⟨texts, htexts, rfl⟩ := hline
      obtain ⟨grid, hgrid, rfl⟩ := ih
      exact ⟨texts :: grid, .cons htexts hgrid, rfl⟩

namespace Outcome

/-- The text has a line for the labels and one for each row, with a field for each column. -/
def SplitsAsTable (o : Outcome) : Prop :=
  ((o.text.toList.splitOn '\n').length : Int) = o.rowCount + 1 ∧
    ∀ line ∈ o.text.toList.splitOn '\n', (line.splitOn '\t').length = o.columns.length

def Unbroken (o : Outcome) : Prop :=
  (∀ label ∈ o.columns, StatementWalk.Unbroken label) ∧
    ∀ row ∈ o.rows, ∀ v ∈ row, ∀ text, v.cellText = .ok text → StatementWalk.Unbroken text

end Outcome

theorem splitsAsTable_iff {columns : List Column} {t : Table} (hcolumns : columns ≠ [])
    (h : t.HasWidth columns.length) :
    (tableOutcome columns t).SplitsAsTable ↔ (tableOutcome columns t).Unbroken := by
  obtain ⟨grid, htexts, hlines⟩ := exists_cellTexts h.reports
  have hrows : grid.length = t.rows.length := htexts.length_eq.symm
  have hwidth : ∀ row ∈ columns.map Column.label :: grid, row.length = columns.length := by
    rw [List.forall_mem_cons]
    have hlengths : (∀ row ∈ t.rows, row.length = columns.length) ↔
        ∀ texts ∈ grid, texts.length = columns.length := by
      apply forall_mem_iff_of_forall₂ htexts
      intro row texts hrow
      rw [List.Forall₂.length_eq hrow]
    exact ⟨List.length_map _, hlengths.mp h.widths⟩
  have hgrid := splits_gridText (List.cons_ne_nil _ _) (List.length_pos_iff.mpr hcolumns) hwidth
  have htext : (tableOutcome columns t).text = gridText (columns.map Column.label :: grid) := by
    rw [gridText, List.map_cons, ← hlines]
    rfl
  have hcells : (∀ row ∈ t.rows, ∀ v ∈ row, ∀ text, v.cellText = .ok text → Unbroken text) ↔
      ∀ row ∈ grid, ∀ s ∈ row, Unbroken s := by
    apply forall_mem_iff_of_forall₂ htexts
    intro row texts hrow
    apply forall_mem_iff_of_forall₂ hrow
    intro v text hv
    simp [hv]
  have hsplits : (tableOutcome columns t).SplitsAsTable ↔
      Splits (columns.map Column.label :: grid).length columns.length
        (gridText (columns.map Column.label :: grid)) := by
    rw [Outcome.SplitsAsTable, Splits, htext, List.length_cons, hrows]
    simp only [tableOutcome, List.length_map]
    norm_cast
  rw [hsplits, hgrid, List.forall_mem_cons, ← hcells]
  rfl

section Walks

variable {σ : Type} {d : Dialect} {sink : Sink} {rs : ResultSet σ} {st : Statement σ}

theorem yields_normalizeRow_length :
    Yields (normalizeRow d rs) fun row => row.length = rs.columns.length := by
  unfold normalizeRow
  induction rs.columns with
  | nil => exact .pure rfl
  | cons c rest ih => exact .after _ fun v => ih.bind fun vs hvs => .pure (congrArg (· + 1) hvs)

theorem yields_drain_hasWidth (fuel : Nat) :
    Yields (drain d rs fuel) (Table.HasWidth rs.columns.length) := by
  induction fuel with
  | zero => exact .fail _
  | succ fuel ih =>
      refine .after _ fun more => ?_
      cases more with
      | false => exact .pure ⟨fun row hrow => absurd hrow List.not_mem_nil, .nil⟩
      | true =>
          refine yields_normalizeRow_length.bind fun row hrow => ?_
          have hline : Yields (Action.ofExcept (rowLine row) : Action (World σ) _)
              (LineReport row) :=
            .ofExcept fun line => lineReport_of_rowLine
          refine hline.bind fun line hline => ih.bind fun rest hrest => .pure ?_
          constructor
          · intro other hother
            rcases List.mem_cons.mp hother with rfl | hother
            · exact hrow
            · exact hrest.widths other hother
          · exact .cons hline hrest.reports

/-- The outcome is an update count, or a table of the width of its columns. -/
def Outcome.IsTable (o : Outcome) : Prop :=
  o.isResultSet = true → ∃ columns t, o = tableOutcome columns t ∧ t.HasWidth columns.length

theorem yields_consumeResultSet_isTable : Yields (consumeResultSet d sink st) Outcome.IsTable := by
  rw [consumeResultSet_eq]
  refine .after _ fun rs? => ?_
  cases rs? with
  | none => exact .fail _
  | some rs =>
      have hrows : Yields (consumeRows d rs) (Table.HasWidth rs.columns.length) :=
        .thenAlways (.after _ fun _ => yields_drain_hasWidth _) _
      refine hrows.bind fun table htable => ?_
      exact .after _ fun _ => .after _ fun _ => .after _ fun _ => .pure fun _ =>
        ⟨_, table, rfl, htable⟩

theorem isResultSet_countOutcome {count : Value} {o : Outcome} (h : countOutcome count = .ok o) :
    o.isResultSet = false := by
  obtain ⟨text, n, -, -, rfl⟩ := countOutcome_eq_ok h
  rfl

theorem yields_consume_isTable (isResultSet : Bool) :
    Yields (consume d sink st isResultSet) fun o? => ∀ o, o? = some o → o.IsTable := by
  cases isResultSet with
  | true =>
      refine yields_consumeResultSet_isTable.map fun o ho => ?_
      rintro p ⟨rfl⟩
      exact ho
  | false =>
      refine .after _ fun count => .after _ fun none? => ?_
      cases none? with
      | true => exact .pure nofun
      | false =>
          have hcount : Yields (Action.ofExcept (countOutcome count) : Action (World σ) _)
              fun o => o.isResultSet = false := .ofExcept fun o => isResultSet_countOutcome
          refine hcount.bind fun o ho => .after _ fun _ => .pure ?_
          rintro p ⟨rfl⟩ hset
          rw [ho] at hset
          cases hset

/-- Read line by line and field by field, the text of a table that a walk gives out has a line for
the labels and one for each row, and a field for each column, if and only if no label and no text of
a cell has a newline or a tab in it. -/
theorem walk_table_splits_iff (st : Statement σ) (d : Dialect) (sink : Sink) (sql : Option String)
    (w w' : World σ) (r : WalkResult) (o : Outcome) (h : (walk d sink st sql).run w = (.ok r, w'))
    (ho : o ∈ r.outcomes) (hset : o.isResultSet = true) (hcolumns : o.columns ≠ []) :
    o.SplitsAsTable ↔ o.Unbroken := by
  have htable : o.IsTable := yields_walk_of_consume yields_consume_isTable sql w r w' h o ho
  obtain ⟨columns, t, rfl, hwidth⟩ := htable hset
  have hne : columns ≠ [] := by
    rintro rfl
    exact hcolumns rfl
  exact splitsAsTable_iff hne hwidth

end Walks

theorem run_walk_text (d : Dialect) (s : String) :
    ∃ w, (walk d Sink.collecting (Session.statement (.ofDialect d) ScriptedCursor.cursor none)
        (some "select c")).run ⟨Session.fresh (.ofScript (cellScript "c" (.text s)) .null), {}⟩ =
      (.ok { sql := some "select c", outcomes := [cellOutcome "c" (.text s) s] }, w) :=
  run_walk_cellScript d "select c" "c" rfl (Dialect.correctionOf_of_isCanonical rfl nofun) rfl

theorem walk_of_unbroken_text_splits :
    ∃ r w o, (walk .sqlite Sink.collecting
        (Session.statement (.ofDialect .sqlite) ScriptedCursor.cursor none) (some "select c")).run
          ⟨Session.fresh (.ofScript (cellScript "c" (.text "a")) .null), {}⟩ = (.ok r, w) ∧
      r.outcomes = [o] ∧ o.SplitsAsTable := by
  obtain ⟨w, hrun⟩ := run_walk_text .sqlite "a"
  have hunbroken : (cellOutcome "c" (.text "a") "a").Unbroken := by
    constructor
    · intro label hlabel
      obtain rfl := List.mem_singleton.mp hlabel
      exact ⟨by decide, by decide⟩
    · intro row hrow v hv text htext
      obtain rfl := List.mem_singleton.mp hrow
      obtain rfl := List.mem_singleton.mp hv
      cases htext
      exact ⟨by decide, by decide⟩
  refine ⟨_, w, cellOutcome "c" (.text "a") "a", hrun, rfl, ?_⟩
  exact (walk_table_splits_iff _ .sqlite Sink.collecting (some "select c") _ w _ _ hrun
    List.mem_cons_self rfl (List.cons_ne_nil _ _)).mpr hunbroken

/-- A text with a newline in it makes a table of one row that has three lines. -/
theorem walk_of_broken_text_splits_wrong :
    ∃ r w o, (walk .sqlite Sink.collecting
        (Session.statement (.ofDialect .sqlite) ScriptedCursor.cursor none) (some "select c")).run
          ⟨Session.fresh (.ofScript (cellScript "c" (.text "a\nb")) .null), {}⟩ = (.ok r, w) ∧
      r.outcomes = [o] ∧ o.isResultSet = true ∧ o.columns = ["c"] ∧ o.rowCount = 1 ∧
        (o.text.toList.splitOn '\n').length = 3 ∧ ¬o.SplitsAsTable := by
  obtain ⟨w, hrun⟩ := run_walk_text .sqlite "a\nb"
  have hlines : ((cellOutcome "c" (.text "a\nb") "a\nb").text.toList.splitOn '\n').length = 3 := by
    decide
  refine ⟨_, w, cellOutcome "c" (.text "a\nb") "a\nb", hrun, rfl, rfl, rfl, rfl, hlines, ?_⟩
  rintro ⟨hcount, -⟩
  rw [hlines] at hcount
  cases hcount

end StatementWalk
