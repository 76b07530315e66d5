import StatementWalk.Proofs.ConnectionRun
import StatementWalk.Proofs.TableText
import StatementWalk.Script.Engine

/-!
# The single value of a run

A run that is asked for a single value interprets the first result set of its walk. Every row of a
walk has one cell for each column, so a single row has a first cell as soon as there is a column. A
single row without columns is not told apart from the rest: there the interpretation ends in the
fault of a missing position.
-/

namespace StatementWalk

variable {ε α : Type}

theorem Outcome.IsTable.length_eq {o : Outcome} (h : o.IsTable) (hset : o.isResultSet = true)
    {row : List Value} (hrow : row ∈ o.rows) : row.length = o.columns.length := by
  obtain ⟨columns, t, rfl, hwidth⟩ := h hset
  show row.length = (columns.map Column.label).length
  rw [List.length_map]
  exact hwidth.widths row hrow

namespace Connection

theorem yields_inSession {x : Action (World (Session ε)) α} {P : α → Prop} (h : Yields x P) :
    Yields (inSession x) P := by
  intro w a v hrun
  obtain ⟨hresult, -⟩ := Prod.mk.inj hrun
  exact h ⟨.fresh w.driver.engine, w.journal⟩ a _ (Prod.ext hresult rfl)

theorem yields_withConnection {c : Connection} {e : Engine ε} {x : Action (World (Hosted ε)) α}
    {P : α → Prop} (h : Yields x P) : Yields (c.withConnection e x) P := by
  refine .after _ fun w => ?_
  split
  · refine .after _ fun _ => .thenAlways ?_ _
    cases timeoutText? c.config with
    | none => exact h
    | some text => exact .after _ fun _ => h
  · exact .fail _

theorem yields_withStatement {c : Connection} {e : Engine ε} {own : Option Session.Prepared}
    {body : Statement (Session ε) → Action (World (Session ε)) α} {P : α → Prop}
    (h : ∀ st, Yields (body st) P) : Yields (c.withStatement e own body) P := by
  refine yields_withConnection (.after _ fun number => ?_)
  refine (yields_inSession (.thenAlways (h _) _)).bind fun result hresult => ?_
  split
  · exact .after _ fun _ => .pure hresult
  · exact .pure hresult

theorem yields_run_isTable (c : Connection) (e : Engine ε) (sink : Sink) (sql : String)
    (params : Option Value) :
    Yields (c.run e sink sql params) fun r => ∀ o ∈ r.outcomes, o.IsTable := by
  rw [run_eq]
  split
  · exact .fail _
  · exact yields_withStatement fun st => yields_walk_of_consume yields_consume_isTable _

end Connection

/-- The outcome is the first result set: only update counts come before it. -/
def WalkResult.FirstResultSet (r : WalkResult) (o : Outcome) : Prop :=
  o.isResultSet = true ∧ ∃ counts rest, r.outcomes = counts ++ o :: rest ∧
    ∀ p ∈ counts, p.isResultSet = false

theorem WalkResult.firstResultSet_iff {r : WalkResult} {o : Outcome} :
    r.FirstResultSet o ↔ ∃ rest, r.resultSets = o :: rest := by
  unfold FirstResultSet resultSets
  constructor
  · rintro ⟨ho, counts, rest, houtcomes, hcounts⟩
    refine ⟨rest.filter Outcome.isResultSet, List.filter_eq_cons_iff.mpr ?_⟩
    exact ⟨counts, rest, houtcomes, fun p hp => by simp [hcounts p hp], ho, rfl⟩
  · rintro ⟨rest, h⟩
    obtain ⟨counts, after, houtcomes, hcounts, ho, -⟩ := List.filter_eq_cons_iff.mp h
    exact ⟨ho, counts, after, houtcomes, fun p hp => eq_false_of_ne_true (hcounts p hp)⟩

theorem requireSingle_eq_error {rows : List α} (h : rows.length ≠ 1) :
    ∃ f, requireSingle rows = .error f ∧ f.kind = .database := by
  match rows, h with
  | [], _ => exact ⟨_, rfl, rfl⟩
  | [_], h => exact absurd rfl h
  | _ :: _ :: _, _ => exact ⟨_, rfl, rfl⟩

namespace Connection

theorem scalarOf_of_cell {r : WalkResult} {o : Outcome} {x : Value} {cells : List Value}
    (h : r.FirstResultSet o) (hrows : o.rows = [x :: cells]) : scalarOf r = .ok x := by
  obtain ⟨rest, hsets⟩ := WalkResult.firstResultSet_iff.mp h
  rw [scalarOf, hsets]
  dsimp only
  rw [hrows]
  rfl

theorem scalarOf_of_empty_row {r : WalkResult} {o : Outcome} (h : r.FirstResultSet o)
    (hrows : o.rows = [[]]) : scalarOf r = .error (.badPosition "list" 0) := by
  obtain ⟨rest, hsets⟩ := WalkResult.firstResultSet_iff.mp h
  rw [scalarOf, hsets]
  dsimp only
  rw [hrows]
  rfl

theorem scalarOf_eq_error {r : WalkResult} (h : ∀ o, r.FirstResultSet o → o.rows.length ≠ 1) :
    ∃ f, scalarOf r = .error f ∧ f.kind = .database := by
  cases hsets : r.resultSets with
  | nil =>
      rw [scalarOf, hsets]
      exact ⟨_, rfl, rfl⟩
  | cons o rest =>
      have hfirst : r.FirstResultSet o := WalkResult.firstResultSet_iff.mpr ⟨rest, hsets⟩
      obtain ⟨f, hf, hkind⟩ := requireSingle_eq_error (h o hfirst)
      rw [scalarOf, hsets]
      dsimp only
      rw [hf]
      exact ⟨f, rfl, hkind⟩

theorem run_scalar {c : Connection} {e : Engine ε} {sql : String} {params : Option Value}
    {w v : World (Hosted ε)} {r : WalkResult}
    (h : (c.run e (Sink.logging .debug .connections) sql params).run w = (.ok r, v)) :
    (c.scalar e sql params).run w = (scalarOf r, v) := by
  rw [scalar, Action.run_bind_ok h, Action.run_ofExcept]

/-- After a run that ended well the value is the first cell of the only row of the first result set,
where this has a single row and a column. Without a single row it is a fault of the database. A
single row without columns has no first cell, and this is a fault of another kind. -/
theorem scalar_is_only_cell (c : Connection) (e : Engine ε) (sql : String) (params : Option Value)
    (w v : World (Hosted ε)) (r : WalkResult)
    (h : (c.run e (Sink.logging .debug .connections) sql params).run w = (.ok r, v)) :
    ∃ answer, (c.scalar e sql params).run w = (answer, v) ∧
      (∀ o row, r.FirstResultSet o → o.rows = [row] → o.columns ≠ [] →
        ∃ x cells, row = x :: cells ∧ answer = .ok x) ∧
      ((∀ o, r.FirstResultSet o → o.rows.length ≠ 1) →
        ∃ f, answer = .error f ∧ f.kind = .database) ∧
      ∀ o row, r.FirstResultSet o → o.rows = [row] → o.columns = [] →
        answer = .error ⟨.badIndex, "list index out of range", none⟩ := by
  have hwidth {o : Outcome} {row : List Value} (hfirst : r.FirstResultSet o)
      (hrow : o.rows = [row]) : row.length = o.columns.length := by
    obtain ⟨hset, counts, rest, houtcomes, -⟩ := hfirst
    have ho : o ∈ r.outcomes := by
      rw [houtcomes]
      exact List.mem_append_right _ (List.mem_cons_self ..)
    refine (c.yields_run_isTable e _ sql params w r v h o ho).length_eq hset ?_
    rw [hrow]
    exact List.mem_singleton.mpr rfl
  refine ⟨scalarOf r, run_scalar h, fun o row hfirst hrow hcolumns => ?_, scalarOf_eq_error,
    fun o row hfirst hrow hcolumns => ?_⟩
  · cases row with
    | nil => exact absurd (List.length_eq_zero_iff.mp (hwidth hfirst hrow).symm) hcolumns
    | cons x cells => exact ⟨x, cells, rfl, scalarOf_of_cell hfirst hrow⟩
  · have hempty : row = [] := by
      have hlength := hwidth hfirst hrow
      rw [hcolumns] at hlength
      exact List.length_eq_zero_iff.mp hlength
    rw [hempty] at hrow
    exact scalarOf_of_empty_row hfirst hrow

def toServer : Connection := ⟨{ url := "mssql://h/d" }, .ofDialect .mssql⟩

def serving (outcomes : List OutcomeScript) : World (Hosted ScriptedEngine) :=
  ⟨⟨{ script := {}, waiting := [{ outcomes }] }, true⟩, {}⟩

def queried (outcomes : List OutcomeScript) :
    Except Fault WalkResult × World (Hosted ScriptedEngine) :=
  (toServer.run ScriptedEngine.engine (Sink.logging .debug .connections) "q" none).run
    (serving outcomes)

def tables (outcomes : List OutcomeScript) :
    Option (List (List String × List (List (Option Int)))) :=
  (queried outcomes).1.toOption.map fun r =>
    r.resultSets.map fun o => (o.columns, o.rows.map (·.map Value.asInt?))

theorem queried_of_tables (outcomes : List OutcomeScript) (labels : List String)
    (cells : List (Option Int)) (h : tables outcomes = some [(labels, [cells])]) :
    ∃ r v o row, queried outcomes = (.ok r, v) ∧ r.FirstResultSet o ∧ o.columns = labels ∧
      o.rows = [row] ∧ row.map Value.asInt? = cells := by
  unfold tables at h
  cases hrun : queried outcomes with
  | mk answer v =>
      rw [hrun] at h
      cases answer with
      | error f => cases h
      | ok r =>
          obtain ⟨o, rest, hsets, ho, -⟩ := List.map_eq_cons_iff.mp (Option.some.inj h)
          obtain ⟨hcolumns, hrows⟩ := Prod.mk.inj ho
          obtain ⟨row, others, hrow, hcells, hnone⟩ := List.map_eq_cons_iff.mp hrows
          obtain rfl := List.map_eq_nil_iff.mp hnone
          exact ⟨r, v, o, row, rfl, WalkResult.firstResultSet_iff.mpr ⟨rest, hsets⟩, hcolumns, hrow,
            hcells⟩

def countThenCell : List OutcomeScript :=
  [.count (.int 3), .rows [driverColumn "n"] [.list [.int 7]] none]

/-- The value is the cell of the table, whatever was counted before. -/
theorem scalar_skips_count :
    ∃ r v o x, queried countThenCell = (.ok r, v) ∧ r.FirstResultSet o ∧ o.rows = [[x]] ∧
      x.asInt? = some 7 ∧
      (toServer.scalar ScriptedEngine.engine "q" none).run (serving countThenCell) =
        (.ok x, v) := by
  obtain ⟨r, v, o, row, hrun, hfirst, hcolumns, hrow, hcells⟩ :=
    queried_of_tables countThenCell ["n"] [some 7] (by decide +kernel)
  obtain ⟨answer, hscalar, hvalue, -⟩ :=
    scalar_is_only_cell toServer ScriptedEngine.engine "q" none (serving countThenCell) v r hrun
  have hcolumn : o.columns ≠ [] := by
    rw [hcolumns]
    exact List.cons_ne_nil "n" []
  obtain ⟨x, rest, rfl, rfl⟩ := hvalue o row hfirst hrow hcolumn
  obtain ⟨hx, hrest⟩ := List.cons.inj hcells
  obtain rfl := List.map_eq_nil_iff.mp hrest
  exact ⟨r, v, o, x, hrun, hfirst, hrow, hx, hscalar⟩

def rowOfNothing : List OutcomeScript := [.rows [] [.list []] none]

/-- The run ends well, and the value of a row without columns is not a fault of the database. -/
theorem scalar_fails_on_empty_row :
    ∃ r v f, queried rowOfNothing = (.ok r, v) ∧
      (toServer.scalar ScriptedEngine.engine "q" none).run (serving rowOfNothing) = (.error f, v) ∧
      f.kind = .badIndex := by
  obtain ⟨r, v, o, row, hrun, hfirst, -, hrow, hcells⟩ :=
    queried_of_tables rowOfNothing [] [] (by decide +kernel)
  obtain rfl := List.map_eq_nil_iff.mp hcells
  refine ⟨r, v, .badPosition "list" 0, hrun, ?_, rfl⟩
  rw [run_scalar hrun, scalarOf_of_empty_row hfirst hrow]

end Connection

end StatementWalk
