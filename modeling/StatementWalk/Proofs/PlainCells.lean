import StatementWalk.Proofs.EveryOutcome
import StatementWalk.Proofs.WalkParts

/-!
# What leaves a walk

The rows of a walk that succeeds hold nothing that belongs to the driver: every cell is null or of
one of eight kinds. A value that the generic read gives is either left as it is, which happens to
these kinds only, or read again, and every typed read gives one of them.
-/

namespace StatementWalk

inductive Value.Plain : Value → Prop where
  | null : Plain .null
  | bool (b : Bool) : Plain (.bool b)
  | int (n : Int) : Plain (.int n)
  | float (x : Binary64) : Plain (.float x)
  | decimal (x : Decimal) : Plain (.decimal x)
  | text (s : String) : Plain (.text s)
  | bytes (bs : Text.Bytes) : Plain (.bytes bs)
  | timestamp (t : Timestamp) : Plain (.timestamp t)
  | date (t : Date) : Plain (.date t)

theorem Value.IsNormal.plain {v : Value} (h : v.IsNormal) : v.Plain := by
  rcases h with rfl | h
  · exact .null
  · cases v with
    | bool b => exact .bool b
    | int n => exact .int n
    | float x => exact .float x
    | decimal x => exact .decimal x
    | text s => exact .text s
    | bytes bs => exact .bytes bs
    | timestamp t => exact .timestamp t
    | date t => exact .date t
    | _ => cases h

variable {σ κ α β : Type}

/-- Every result of the action has the property. -/
def Yields (x : Action σ α) (P : α → Prop) : Prop := ∀ s a t, x.run s = (.ok a, t) → P a

namespace Yields

variable {x : Action σ α} {f : α → Action σ β} {P : α → Prop} {Q : β → Prop}

theorem ofExcept {r : Except Fault α} (h : ∀ a, r = .ok a → P a) :
    Yields (Action.ofExcept r : Action σ α) P := by
  intro s a t hrun
  cases hrun
  exact h a rfl

theorem pure {a : α} (h : P a) : Yields (Pure.pure a : Action σ α) P := by
  intro s b t hrun
  cases hrun
  exact h

theorem fail (e : Fault) : Yields (Action.fail e : Action σ α) P := by
  intro s a t hrun
  cases hrun

theorem any (x : Action σ α) : Yields x fun _ => True := fun _ _ _ _ => trivial

theorem bind (hx : Yields x P) (hf : ∀ a, P a → Yields (f a) Q) : Yields (x >>= f) Q := by
  intro s b t hrun
  cases hxrun : x.run s with
  | mk r u =>
      cases r with
      | error e =>
          rw [Action.run_bind_error hxrun] at hrun
          cases hrun
      | ok a =>
          rw [Action.run_bind_ok hxrun] at hrun
          exact hf a (hx s a u hxrun) u b t hrun

theorem after (x : Action σ α) (hf : ∀ a, Yields (f a) Q) : Yields (x >>= f) Q :=
  (any x).bind fun a _ => hf a

theorem map {g : α → β} (hx : Yields x P) (h : ∀ a, P a → Q (g a)) : Yields (g <$> x) Q := by
  rw [map_eq_pure_bind]
  exact hx.bind fun a ha => pure (h a ha)

theorem attempt (hx : Yields x P) : Yields x.attempt fun r => ∀ a, r = .ok a → P a := by
  intro s r t hrun a hr
  subst hr
  rw [Action.run_attempt] at hrun
  cases hxrun : x.run s with
  | mk q u =>
      rw [hxrun] at hrun
      cases hrun
      exact hx s a _ hxrun

theorem thenAlways (hx : Yields x P) (c : Action σ Unit) : Yields (x.thenAlways c) P := by
  intro s a t hrun
  cases hxrun : x.run s with
  | mk r u =>
      rw [Action.run_thenAlways hxrun] at hrun
      cases hc : c.run u with
      | mk q v =>
          rw [hc] at hrun
          cases q with
          | error e => cases hrun
          | ok _ =>
              cases hrun
              exact hx s a u hxrun

theorem onDriver (hx : Yields x P) : Yields (World.onDriver x) P := by
  intro w a w' hrun
  rw [World.run_onDriver] at hrun
  cases hxrun : x.run w.driver with
  | mk r u =>
      rw [hxrun] at hrun
      cases hrun
      exact hx _ a _ hxrun

end Yields

variable {d : Dialect} {sink : Sink} {rs : ResultSet σ} {st : Statement σ}

def ResultSet.ReadsPlain (rs : ResultSet σ) : Prop :=
  ∀ reading index, Yields (rs.get reading index) Value.Plain

def Statement.GivesPlain (st : Statement σ) : Prop :=
  Yields st.getResultSet fun rs? => ∀ rs, rs? = some rs → rs.ReadsPlain

def PlainRows (rows : List (List Value)) : Prop := ∀ row ∈ rows, ∀ v ∈ row, v.Plain

theorem yields_readAgain (h : rs.ReadsPlain) (reading : Reading) (index : Int) :
    Yields (readAgain rs reading index) Value.Plain := by
  refine (h reading index).onDriver.attempt.bind fun r hr => ?_
  cases r with
  | ok v => exact .pure (hr v rfl)
  | error f => exact .fail _

theorem yields_correct (h : rs.ReadsPlain) (index : Int) (v : Value) :
    Yields (correct d rs index v) Value.Plain := by
  unfold correct
  split
  · exact .pure .null
  · split
    · exact .fail _
    · rename_i column _
      have hcorrection : Yields (Action.ofExcept (d.correctionOf v column) : Action (World σ) _)
          fun q? => d.correctionOf v column = .ok q? := .ofExcept fun _ => id
      refine hcorrection.bind fun q? hq => ?_
      cases q? with
      | some q => exact yields_readAgain h _ _
      | none => exact .pure (Value.IsNormal.plain (.inr (Dialect.isCanonical_of_correctionOf hq)))

theorem yields_normalizeRow (h : rs.ReadsPlain) :
    Yields (normalizeRow d rs) fun row => ∀ v ∈ row, v.Plain := by
  unfold normalizeRow
  induction rs.columns with
  | nil => exact .pure fun v hv => absurd hv List.not_mem_nil
  | cons c rest ih =>
      have hcell : Yields (normalize d rs c.position) Value.Plain :=
        .after _ fun v => yields_correct h c.position v
      refine hcell.bind fun v hv => ih.bind fun vs hvs => .pure ?_
      intro u hu
      rcases List.mem_cons.mp hu with rfl | hu
      · exact hv
      · exact hvs u hu

theorem yields_drain (h : rs.ReadsPlain) (fuel : Nat) :
    Yields (drain d rs fuel) fun table => PlainRows table.rows := by
  induction fuel with
  | zero => exact .fail _
  | succ fuel ih =>
      refine .after _ fun more => ?_
      cases more with
      | false => exact .pure fun row hrow => absurd hrow List.not_mem_nil
      | true =>
          refine (yields_normalizeRow h).bind fun row hrow => ?_
          refine .after _ fun line => ih.bind fun rest hrest => .pure ?_
          intro other hother
          rcases List.mem_cons.mp hother with rfl | hother
          · exact hrow
          · exact hrest other hother

theorem yields_consumeRows (h : rs.ReadsPlain) :
    Yields (consumeRows d rs) fun table => PlainRows table.rows :=
  .thenAlways (.after _ fun _ => yields_drain h _) _

theorem yields_consumeResultSet (h : st.GivesPlain) :
    Yields (consumeResultSet d sink st) fun o => PlainRows o.rows := by
  rw [consumeResultSet_eq]
  refine h.onDriver.bind fun rs? hrs => ?_
  cases rs? with
  | none => exact .fail _
  | some rs =>
      refine (yields_consumeRows (hrs rs rfl)).bind fun table htable => ?_
      exact .after _ fun _ => .after _ fun _ => .after _ fun _ => .pure htable

theorem rows_countOutcome {count : Value} {o : Outcome} (h : countOutcome count = .ok o) :
    o.rows = [] := by
  obtain ⟨text, n, -, -, rfl⟩ := countOutcome_eq_ok h
  rfl

theorem yields_consumeCount :
    Yields (consumeCount sink st) fun o? => ∀ o, o? = some o → PlainRows o.rows := by
  refine .after _ fun count => .after _ fun none? => ?_
  cases none? with
  | true => exact .pure nofun
  | false =>
      have hcount : Yields (Action.ofExcept (countOutcome count) : Action (World σ) _)
          fun o => o.rows = [] := .ofExcept fun o => rows_countOutcome
      refine hcount.bind fun o ho => .after _ fun _ => .pure ?_
      rintro p ⟨rfl⟩ row hrow
      rw [ho] at hrow
      exact absurd hrow List.not_mem_nil

theorem yields_consume (h : st.GivesPlain) (isResultSet : Bool) :
    Yields (consume d sink st isResultSet) fun o? => ∀ o, o? = some o → PlainRows o.rows := by
  cases isResultSet with
  | false => exact yields_consumeCount
  | true =>
      refine (yields_consumeResultSet h).map fun o ho => ?_
      rintro p ⟨rfl⟩
      exact ho

/-- What holds of every outcome that is consumed holds of all outcomes of the loop. -/
theorem yields_consumeAll {Q : Outcome → Prop}
    (h : ∀ isResultSet, Yields (consume d sink st isResultSet) fun o? => ∀ o, o? = some o → Q o)
    (fuel : Nat) (isResultSet : Bool) {result : WalkResult} (hresult : ∀ o ∈ result.outcomes, Q o) :
    Yields (consumeAll d sink st fuel isResultSet result) fun r => ∀ o ∈ r.outcomes, Q o := by
  induction fuel generalizing isResultSet result with
  | zero => exact .fail _
  | succ fuel ih =>
      refine (h isResultSet).bind fun o? ho => ?_
      cases o? with
      | none => exact .pure hresult
      | some o =>
          refine .after _ fun more => .after _ fun warnings => ih more ?_
          intro p hp
          rcases List.mem_append.mp hp with hp | hp
          · exact hresult p hp
          · obtain rfl := List.mem_singleton.mp hp
            exact ho p rfl

theorem yields_walk_of_consume {Q : Outcome → Prop}
    (h : ∀ isResultSet, Yields (consume d sink st isResultSet) fun o? => ∀ o, o? = some o → Q o)
    (sql : Option String) : Yields (walk d sink st sql) fun r => ∀ o ∈ r.outcomes, Q o := by
  refine .after _ fun isResultSet => .after _ fun warnings => .after _ fun w => ?_
  refine (yields_consumeAll h _ isResultSet fun o ho => absurd ho List.not_mem_nil).bind
    fun r hr => ?_
  exact .after _ fun _ => .pure hr

theorem yields_walk (h : st.GivesPlain) (sql : Option String) :
    Yields (walk d sink st sql) fun r => ∀ o ∈ r.outcomes, PlainRows o.rows :=
  yields_walk_of_consume (yields_consume h) sql

namespace Session

theorem readsPlain_resultSet (b : Backend) (c : Cursor κ) (i : Nat) (columns : List Column) :
    (resultSet b c i columns).ReadsPlain := by
  intro reading index
  refine .after _ fun s => .after _ fun v => ?_
  have hconvert : Yields (Action.ofExcept (reading.convert v) : Action (Session κ) _) Value.Plain :=
    .ofExcept fun u hu => (Dialect.isNormal_of_convert hu).plain
  cases reading with
  | text => exact .after _ fun _ => hconvert
  | bytes => exact .after _ fun _ => hconvert
  | timestamp => exact hconvert
  | date => exact hconvert

theorem givesPlain_statement (b : Backend) (c : Cursor κ) (own : Option Prepared) :
    (statement b c own).GivesPlain := by
  refine .after _ fun s => ?_
  split
  · have hopen : Yields (openResultSet b c ((c.description s.cursor).getD []))
        ResultSet.ReadsPlain :=
      .after _ fun columns => .after _ fun s => .after _ fun _ =>
        .pure (readsPlain_resultSet b c _ columns)
    refine hopen.map fun rs hrs => ?_
    rintro qs ⟨rfl⟩
    exact hrs
  · exact .pure nofun

/-- Whatever a cursor hands out, the rows of a walk that succeeds hold only null and the plain
kinds. -/
theorem walk_yields_plain_cells (b : Backend) (c : Cursor κ) (own : Option Prepared) (sink : Sink)
    (sql : Option String) (w w' : World (Session κ)) (r : WalkResult)
    (h : (walk b.dialect sink (statement b c own) sql).run w = (.ok r, w')) :
    ∀ o ∈ r.outcomes, ∀ row ∈ o.rows, ∀ v ∈ row, v.Plain :=
  yields_walk (givesPlain_statement b c own) sql w r w' h

end Session

def driverColumn (label : String) : Entry :=
  [.text label, .null, .null, .null, .null, .null, .null]

def namedColumn (label : String) : Column := { position := 1, label }

def cellScript (label : String) (v : Value) : CursorScript where
  outcomes := [.rows [driverColumn label] [.list [v]] none]

def cellOutcome (label : String) (v : Value) (text : String) : Outcome :=
  tableOutcome [namedColumn label] ⟨[[v]], [text]⟩

namespace Dialect

theorem describeAll_driverColumn (d : Dialect) (label : String) :
    d.describeAll 1 [driverColumn label] = .ok [namedColumn label] := by
  cases d <;> rfl

theorem conversionTarget?_namedColumn (d : Dialect) (label : String) :
    d.conversionTarget? (namedColumn label) = none := by
  cases d <;> rfl

/-- A cell that needs no correction is its own normal form. -/
theorem normalForm_namedColumn {d : Dialect} {label : String} {v : Value} (hnull : v.isNull = false)
    (hcorrection : d.correctionOf v (namedColumn label) = .ok none) :
    d.normalForm (namedColumn label) (.ok v) = .ofExcept (.ok v) := by
  have hread : d.readObject v (namedColumn label) = .ok v := by
    unfold readObject
    rw [conversionTarget?_namedColumn]
  rw [normalForm, except_ok_bind, hread]
  simp only [corrected, hnull, hcorrection, except_ok_bind]
  rfl

theorem form_cellScript {d : Dialect} {label text : String} {v : Value} (hnull : v.isNull = false)
    (hcorrection : d.correctionOf v (namedColumn label) = .ok none)
    (htext : v.cellText = .ok text) :
    (OutcomeScript.form d true (.rows [driverColumn label] [.list [v]] none)).result =
      .ok (cellOutcome label v text) := by
  have hcell : cellOf [v] (namedColumn label).position = .ok v := rfl
  have hrow : d.normalRow [v] [namedColumn label] = .ofExcept (.ok [v]) := by
    rw [normalRow, hcell, normalForm_namedColumn hnull hcorrection]
    rfl
  have hline : rowLine [v] = .ok text := by
    rw [rowLine, List.mapM_cons, htext]
    simp [except_ok_bind, pure, Except.pure]
  have htable : d.tableForm [namedColumn label] none 0 [.list [v]] =
      .ofExcept (.ok ⟨[[v]], [text]⟩) := by
    rw [tableForm_cons rfl rfl]
    simp only [Value.toRow, Noted.ofExcept_ok_bind, hrow, hline]
    rfl
  have hcount := OutcomeScript.countLine_natCast (Number.lt_digitBound (by decide : 1 < 10 ^ 4))
  rw [OutcomeScript.form, describeAll_driverColumn, Noted.ofExcept_ok_bind, htable,
    Noted.ofExcept_ok_bind]
  exact Noted.result_bind_eq_ok.mpr ⟨_, hcount, rfl⟩

end Dialect

theorem run_walk_cellScript (d : Dialect) (sql label : String) {v : Value} {text : String}
    (hnull : v.isNull = false) (hcorrection : d.correctionOf v (namedColumn label) = .ok none)
    (htext : v.cellText = .ok text) :
    ∃ w, (walk d Sink.collecting (Session.statement (.ofDialect d) ScriptedCursor.cursor none)
        (some sql)).run ⟨Session.fresh (.ofScript (cellScript label v) .null), {}⟩ =
      (.ok { sql := some sql, outcomes := [cellOutcome label v text] }, w) := by
  have hsteps : Session.stepsOf (.ofDialect d) none (some sql)
      (Session.fresh (.ofScript (cellScript label v) .null)) =
        [((cellScript label v).stepAt (.ofDialect d) .null (cellScript label v).firstPlace).asFirst
          (some sql) []] := by
    cases d <;> rfl
  have hnotices : ((cellScript label v).stepAt (.ofDialect d) .null
      (cellScript label v).firstPlace).notices = .ok [] := by
    cases d <;> rfl
  apply Session.run_walk_of_step hsteps rfl
  · show (Except.mapError _ _).map _ = _
    rw [hnotices]
    rfl
  · exact Dialect.form_cellScript hnull hcorrection htext
  · exact fun line _ => takes_collecting line

/-- A row of a character object, a view of bytes, an identifier and a list. -/
def driverCells : Value :=
  .list [.object "oracledb" "LOB" "LOB" true
      [("read", .method (.ok (.text "a"))), ("type", .attribute (.text "CLOB"))],
    .buffer .view [99], .uuid 5, .list [.null]]

def driverScript : CursorScript where
  outcomes := [.rows (["doc", "raw", "key", "items"].map driverColumn) [driverCells] none]

def plainTable : Table :=
  ⟨[[.text "a", .bytes [99], .text "00000000-0000-0000-0000-000000000005", .text "[null]"]],
    ["a\t0x63\t00000000-0000-0000-0000-000000000005\t[null]"]⟩

theorem form_driverScript : ∃ columns, (OutcomeScript.form .oracle true (.rows
      (["doc", "raw", "key", "items"].map driverColumn) [driverCells] none)).result =
    .ok (tableOutcome columns plainTable) := by
  have hdescribed : ∃ columns, Dialect.oracle.describeAll 1
      (["doc", "raw", "key", "items"].map driverColumn) = .ok columns ∧
        Dialect.oracle.tableForm columns none 0 [driverCells] = ⟨[], .ok plainTable⟩ :=
          ⟨_, rfl, rfl⟩
  obtain ⟨columns, hcolumns, htable⟩ := hdescribed
  have hsummary : (tableOutcome columns plainTable).summary = _ :=
    OutcomeScript.countLine_natCast (Number.lt_digitBound
      (by decide : plainTable.rows.length < 10 ^ 4))
  refine ⟨columns, Noted.result_bind_eq_ok.mpr ⟨columns, hcolumns, ?_⟩⟩
  refine Noted.result_bind_eq_ok.mpr ⟨plainTable, by rw [htable], ?_⟩
  exact Noted.result_bind_eq_ok.mpr ⟨_, hsummary, rfl⟩

/-- A walk over cells of a driver gives out plain ones. -/
theorem walk_detaches_driver_cells :
    ∃ r w, (walk .oracle Sink.collecting
        (Session.statement (.ofDialect .oracle) ScriptedCursor.cursor none) (some "select")).run
          ⟨Session.fresh (.ofScript driverScript .null), {}⟩ = (.ok r, w) ∧
      r.outcomes.map Outcome.rows = [plainTable.rows] ∧
      ∀ o ∈ r.outcomes, ∀ row ∈ o.rows, ∀ v ∈ row, v.Plain := by
  obtain ⟨columns, hform⟩ := form_driverScript
  have hsteps : List.Forall₂ (Step.Succeeds Sink.collecting)
      (Session.stepsOf (.ofDialect .oracle) none (some "select")
        (Session.fresh (.ofScript driverScript .null))) [tableOutcome columns plainTable] :=
    .cons ⟨rfl, ⟨[], rfl, nofun⟩, hform, fun line _ => takes_collecting line⟩ .nil
  obtain ⟨r, w, hrun, houtcomes⟩ := Session.run_walk_of_succeeds hsteps {}
  refine ⟨r, w, hrun, by rw [houtcomes]; rfl, ?_⟩
  exact Session.walk_yields_plain_cells _ _ _ _ _ _ _ _ hrun

end StatementWalk
