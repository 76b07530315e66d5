import StatementWalk.Proofs.Following
import StatementWalk.Proofs.OutcomeForm
import StatementWalk.Proofs.RowReading

/-!
# Draining a result set

A session on a scripted cursor drains the rows of the current outcome into the table that the script
says. What it takes from the cursor are rows only: afterwards the cursor is still at the same place
of its script, with the same notices on its connection.
-/

namespace StatementWalk

open Dialect

namespace ScriptedCursor

variable {c : ScriptedCursor}

theorem run_fetch_error {f : Fault} (h : fetchFaultAt c.fetchFault c.fetched = some f) :
    cursor.fetch.run c = (.error f, c.touch) := by
  show fetch.run c = _
  rw [fetch, Action.run_bind_ok (Action.run_modify touch c),
    Action.run_bind_ok (Action.run_state c.touch)]
  unfold fetchFaultAt at h
  split at h
  · rename_i after g heq
    split at h
    · cases h
      simp_all [touch]
    · cases h
  · cases h

theorem run_fetch_ok (h : fetchFaultAt c.fetchFault c.fetched = none) :
    cursor.fetch.run c = takeRow.run c.touch := by
  show fetch.run c = _
  rw [fetch, Action.run_bind_ok (Action.run_modify touch c),
    Action.run_bind_ok (Action.run_state c.touch)]
  unfold fetchFaultAt at h
  split at h
  · rename_i after g heq
    split at h
    · cases h
    · rename_i hlt
      simp only [touch, heq, if_neg hlt]
  · rename_i heq
    simp only [touch, heq]

theorem run_takeRow_nil (h : c.rows = []) : takeRow.run c = (.ok none, c) := by
  rw [takeRow, Action.run_bind_ok (Action.run_state c), h]
  rfl

theorem run_takeRow_cons {v : Value} {rest : List Value} (h : c.rows = v :: rest) :
    takeRow.run c = (.ok (if v.isNull then none else some v),
      { c with rows := rest, fetched := c.fetched + 1 }) := by
  rw [takeRow, Action.run_bind_ok (Action.run_state c), h]
  rfl

def Shows (c : ScriptedCursor) : OutcomeScript → Prop
  | .failing _ => False
  | .rows entries items fault =>
    c.description = some entries ∧ c.rows = items ∧ c.fetchFault = fault ∧ c.fetched = 0
  | .count v => c.description = none ∧ c.rowCount = v

theorem Shows.isSome_description {o : OutcomeScript} (h : c.Shows o) :
    c.description.isSome = o.isTable := by
  cases o with
  | failing f => exact h.elim
  | rows entries items fault => rw [h.1]; rfl
  | count v => rw [h.1]; rfl

end ScriptedCursor

namespace Session

/-- Between the sessions only rows were read. -/
structure SamePlace (s t : Session ScriptedCursor) : Prop where
  script_eq : t.cursor.script = s.cursor.script
  position_eq : t.cursor.position = s.cursor.position
  connection_eq : t.cursor.pending = s.cursor.pending
  pending_eq : t.pending = s.pending
  exhausted_eq : t.exhausted = s.exhausted

theorem SamePlace.refl (s : Session ScriptedCursor) : SamePlace s s := ⟨rfl, rfl, rfl, rfl, rfl⟩

theorem SamePlace.trans {s t u : Session ScriptedCursor} (h : SamePlace s t) (k : SamePlace t u) :
    SamePlace s u :=
  ⟨k.script_eq.trans h.script_eq, k.position_eq.trans h.position_eq,
    k.connection_eq.trans h.connection_eq, k.pending_eq.trans h.pending_eq,
    k.exhausted_eq.trans h.exhausted_eq⟩

theorem OnlyHandles.samePlace {s t : Session ScriptedCursor} (h : OnlyHandles s t) :
    SamePlace s t :=
  ⟨by rw [h.1], by rw [h.1], by rw [h.1], h.2.1, h.2.2⟩

/-- The handle `i` reads the rows that the cursor has left. -/
structure Fetching (i : Nat) (columns : List Column) (fault : Option (Nat × Fault)) (fetched : Nat)
    (rows : List Value) (s : Session ScriptedCursor) : Prop where
  given : i < s.handles.length
  isOpen : (handle i s).closed = false
  columns_eq : (handle i s).columns = columns
  fault_eq : s.cursor.fetchFault = fault
  fetched_eq : s.cursor.fetched = fetched
  rows_eq : s.cursor.rows = rows

variable {b : Backend} {i : Nat} {columns : List Column} {fault : Option (Nat × Fault)}
  {fetched : Nat} {rows : List Value} {s : Session ScriptedCursor}

namespace Fetching

theorem run_fetch_error (h : Fetching i columns fault fetched rows s) {f : Fault}
    (hf : fetchFaultAt fault fetched = some f) :
    ScriptedCursor.cursor.fetch.run s.cursor = (.error f, s.cursor.touch) :=
  ScriptedCursor.run_fetch_error (by rw [h.fault_eq, h.fetched_eq]; exact hf)

theorem run_fetch_nil (h : Fetching i columns fault fetched [] s)
    (hf : fetchFaultAt fault fetched = none) :
    ScriptedCursor.cursor.fetch.run s.cursor = (.ok none, s.cursor.touch) := by
  rw [ScriptedCursor.run_fetch_ok (by rw [h.fault_eq, h.fetched_eq]; exact hf)]
  exact ScriptedCursor.run_takeRow_nil h.rows_eq

theorem run_fetch_cons {v : Value} {rest : List Value}
    (h : Fetching i columns fault fetched (v :: rest) s) (hf : fetchFaultAt fault fetched = none) :
    ScriptedCursor.cursor.fetch.run s.cursor = (.ok (if v.isNull then none else some v),
      { s.cursor.touch with rows := rest, fetched := fetched + 1 }) := by
  rw [ScriptedCursor.run_fetch_ok (by rw [h.fault_eq, h.fetched_eq]; exact hf)]
  rw [ScriptedCursor.run_takeRow_cons (c := s.cursor.touch) h.rows_eq]
  simp [ScriptedCursor.touch, h.fetched_eq]

end Fetching

theorem Standing.fetching {raw : List Value} {k : ScriptedCursor} {t : Session ScriptedCursor}
    (h : Standing ScriptedCursor.cursor i columns raw t) (hcursor : t.cursor = k) :
    Fetching i columns k.fetchFault k.fetched k.rows t :=
  ⟨h.given, h.isOpen, h.columns_eq, by rw [hcursor], by rw [hcursor], by rw [hcursor]⟩

theorem performs_drain_error {f : Fault} {t : Session ScriptedCursor} (fuel : Nat)
    (h : (nextRow ScriptedCursor.cursor i).run s = (.error f, t)) :
    Performs (drain b.dialect (resultSet b ScriptedCursor.cursor i columns) (fuel + 1)) s
      (.ofExcept (.error f)) t :=
  (Performs.onDriver h).stop

theorem performs_drain_end {t : Session ScriptedCursor} (fuel : Nat)
    (h : (nextRow ScriptedCursor.cursor i).run s = (.ok false, t)) :
    Performs (drain b.dialect (resultSet b ScriptedCursor.cursor i columns) (fuel + 1)) s
      (pure {}) t :=
  (Performs.onDriver h).after (.pure _ t)

theorem performs_drain_row {t u : Session ScriptedCursor} {x : Noted Table} (fuel : Nat)
    (h : (nextRow ScriptedCursor.cursor i).run s = (.ok true, t))
    (hx : Performs (do
      let row ← normalizeRow b.dialect (resultSet b ScriptedCursor.cursor i columns)
      let line ← Action.ofExcept (rowLine row)
      let rest ← drain b.dialect (resultSet b ScriptedCursor.cursor i columns) fuel
      return ⟨row :: rest.rows, line :: rest.lines⟩) t x u) :
    Performs (drain b.dialect (resultSet b ScriptedCursor.cursor i columns) (fuel + 1)) s x u :=
  (Performs.onDriver h).after hx

theorem performs_drain_rest {raw : List Value} {x : Noted Table} {t : Session ScriptedCursor}
    (hc : Numbered columns) (fuel : Nat)
    (hnext : (nextRow ScriptedCursor.cursor i).run s = (.ok true, t)) (hplace : SamePlace s t)
    (h : Standing ScriptedCursor.cursor i columns raw t)
    (hrest : ∀ u raw', u.cursor = t.cursor → Standing ScriptedCursor.cursor i columns raw' u →
      ∃ w, Performs (drain b.dialect (resultSet b ScriptedCursor.cursor i columns) fuel) u x w ∧
        SamePlace u w) :
    ∃ w, Performs (drain b.dialect (resultSet b ScriptedCursor.cursor i columns) (fuel + 1)) s
      (do
        let row ← b.dialect.normalRow raw columns
        let line ← .ofExcept (rowLine row)
        let rest ← x
        return ⟨row :: rest.rows, line :: rest.lines⟩) w ∧ SamePlace s w := by
  obtain ⟨u, hu, honly, raw', hstand⟩ := performs_normalizeRow (b := b) hc h
  have hplace' : SamePlace s u := hplace.trans honly.samePlace
  cases hrow : (b.dialect.normalRow raw columns).result with
  | error e => exact ⟨u, performs_drain_row fuel hnext (hu.bind_error hrow), hplace'⟩
  | ok row =>
      cases hline : rowLine row with
      | error e =>
          refine ⟨u, performs_drain_row fuel hnext (hu.bind_ok hrow ?_), hplace'⟩
          rw [hline, Noted.ofExcept_error_bind]
          exact (Performs.ofExcept (.error e) u).stop
      | ok line =>
          obtain ⟨w, hw, hplace''⟩ := hrest u raw' honly.1 hstand
          refine ⟨w, performs_drain_row fuel hnext (hu.bind_ok hrow ?_), hplace'.trans hplace''⟩
          rw [hline, Noted.ofExcept_ok_bind]
          exact (Performs.ofExcept (.ok line) u).after (hw.bind_pure _)

/-- Draining gives the table of the rows that are left. -/
theorem performs_drain (hc : Numbered columns) {fuel : Nat} (hfuel : rows.length < fuel)
    (h : Fetching i columns fault fetched rows s) :
    ∃ t, Performs (drain b.dialect (resultSet b ScriptedCursor.cursor i columns) fuel) s
        (b.dialect.tableForm columns fault fetched rows) t ∧ SamePlace s t := by
  induction rows generalizing fuel fetched s with
  | nil =>
      obtain ⟨fuel, rfl⟩ := Nat.exists_eq_add_one_of_ne_zero (Nat.ne_of_gt hfuel)
      cases hf : fetchFaultAt fault fetched with
      | some f =>
          rw [tableForm_fault hf]
          have hnext := run_nextRow_error h.isOpen (h.run_fetch_error hf)
          exact ⟨_, performs_drain_error fuel hnext, rfl, rfl, rfl, rfl, rfl⟩
      | none =>
          rw [tableForm_nil hf]
          have hnext := run_nextRow_none h.isOpen (h.run_fetch_nil hf)
          exact ⟨_, performs_drain_end fuel hnext, rfl, rfl, rfl, rfl, rfl⟩
  | cons v rest ih =>
      obtain ⟨fuel, rfl⟩ := Nat.exists_eq_add_one_of_ne_zero
        (Nat.ne_of_gt (Nat.zero_lt_of_lt hfuel))
      rw [List.length_cons] at hfuel
      cases hf : fetchFaultAt fault fetched with
      | some f =>
          rw [tableForm_fault hf]
          have hnext := run_nextRow_error h.isOpen (h.run_fetch_error hf)
          exact ⟨_, performs_drain_error fuel hnext, rfl, rfl, rfl, rfl, rfl⟩
      | none =>
          have hfetch := h.run_fetch_cons hf
          cases hv : v.isNull with
          | true =>
              rw [hv] at hfetch
              rw [tableForm_null hf hv]
              have hnext := run_nextRow_none h.isOpen hfetch
              exact ⟨_, performs_drain_end fuel hnext, rfl, rfl, rfl, rfl, rfl⟩
          | false =>
              rw [hv] at hfetch
              rw [tableForm_cons hf hv]
              cases hraw : v.toRow with
              | error f =>
                  have hnext := run_nextRow_notARow h.isOpen hfetch hraw
                  exact ⟨_, performs_drain_error fuel hnext, rfl, rfl, rfl, rfl, rfl⟩
              | ok raw =>
                  have hnext := run_nextRow_some h.isOpen hfetch hraw
                  have hstand := standing_moved (c := ScriptedCursor.cursor) h.given h.isOpen
                    h.columns_eq raw { s.cursor.touch with rows := rest, fetched := fetched + 1 }
                  have hfuel' : rest.length < fuel := by omega
                  rw [Noted.ofExcept_ok_bind]
                  refine performs_drain_rest hc fuel hnext ⟨rfl, rfl, rfl, rfl, rfl⟩ hstand ?_
                  intro u raw' hu hstand'
                  have hrest : Fetching i columns fault (fetched + 1) rest u := by
                    rw [← h.fault_eq]
                    exact hstand'.fetching hu
                  exact ih hfuel' hrest

/-- Draining and closing gives the same table. -/
theorem performs_consumeRows (hc : Numbered columns) (h : Fetching i columns fault 0 rows s) :
    ∃ t, Performs (consumeRows b.dialect (resultSet b ScriptedCursor.cursor i columns)) s
        (b.dialect.tableForm columns fault 0 rows) t ∧ SamePlace s t := by
  obtain ⟨t, ht, hplace⟩ := performs_drain (b := b) hc (Nat.lt_succ_self rows.length) h
  refine ⟨setHandle i { handle i t with row := none, closed := true } t, fun j => ?_, ?_⟩
  · have hbody : (do
        let w ← Action.state
        drain b.dialect (resultSet b ScriptedCursor.cursor i columns)
          ((resultSet b ScriptedCursor.cursor i columns).reach w.driver + 1)).run ⟨s, j⟩ =
        ((b.dialect.tableForm columns fault 0 rows).result,
          ⟨t, j.addRecords (b.dialect.tableForm columns fault 0 rows).notes⟩) := by
      rw [Action.run_bind_ok (Action.run_state _)]
      show (drain _ _ (s.cursor.rows.length + 1)).run ⟨s, j⟩ = _
      rw [h.rows_eq]
      exact ht j
    rw [consumeRows, quietlyClosing, Action.run_thenAlways hbody]
    rfl
  · exact hplace.trans ⟨rfl, rfl, rfl, rfl, rfl⟩

variable {sink : Sink} {own : Option Prepared}

theorem onResultSet_of_shows {o : OutcomeScript} (hs : s.exhausted = false)
    (h : s.cursor.Shows o) : onResultSet ScriptedCursor.cursor s = o.isTable := by
  rw [onResultSet, hs]
  exact h.isSome_description

theorem run_currentResultSet {entries : List Entry} {items : List Value} (hs : s.exhausted = false)
    (h : s.cursor.Shows (.rows entries items fault)) :
    (currentResultSet b ScriptedCursor.cursor).run s =
      match b.dialect.describeAll 1 entries with
      | .error f => (.error f, s)
      | .ok columns =>
        (.ok (some (resultSet b ScriptedCursor.cursor s.handles.length columns)),
          { s with handles := s.handles ++ [{ columns }] }) := by
  have hdesc : ScriptedCursor.cursor.description s.cursor = some entries := h.1
  rw [currentResultSet, Action.run_bind_ok (Action.run_state s), onResultSet_of_shows hs h, hdesc]
  simp only [OutcomeScript.isTable, if_true, Option.getD_some]
  rw [Action.run_map, openResultSet]
  cases hd : b.dialect.describeAll 1 entries with
  | error f =>
      rw [Action.run_bind_error (Action.run_ofExcept (.error f) s)]
      rfl
  | ok columns =>
      rw [Action.run_bind_ok (Action.run_ofExcept (.ok columns) s)]
      rfl

theorem fetching_opened {entries : List Entry} {items : List Value}
    (h : s.cursor.Shows (.rows entries items fault)) (columns : List Column) :
    Fetching s.handles.length columns fault 0 items
      { s with handles := s.handles ++ [{ columns }] } := by
  have hh : handle s.handles.length { s with handles := s.handles ++ [{ columns }] } =
      { columns } := by
    simp [handle]
  obtain ⟨-, hrows, hfault, hfetched⟩ := h
  exact ⟨by simp, by rw [hh], by rw [hh], hfault, hfetched, hrows⟩

theorem run_getUpdateCount (own : Option Prepared) {v : Value} (hs : s.exhausted = false)
    (h : s.cursor.Shows (.count v)) :
    (statement b ScriptedCursor.cursor own).getUpdateCount.run s =
      (affected s.cursor.script.countsRows v, s) := by
  show (Action.state >>= fun s => Action.ofExcept (updateCount ScriptedCursor.cursor s)).run s = _
  have hdesc : ScriptedCursor.cursor.description s.cursor = none := h.1
  have hcount : (ScriptedCursor.cursor.rowCount s.cursor).getD (.int (-1)) =
      countGiven s.cursor.script.countsRows v := by
    show (if s.cursor.script.countsRows then some s.cursor.rowCount else none).getD _ = _
    rw [h.2, countGiven]
    split <;> rfl
  rw [Action.run_bind_ok (Action.run_state s), Action.run_ofExcept, updateCount, hs, hdesc]
  simp only [Option.isSome_none, Bool.or_self, Bool.false_eq_true, if_false, hcount]
  rfl

theorem follows_offer (line : String) (s : Session ScriptedCursor) :
    Follows (offer sink line) s (sink line) (· = s) := Follows.onJournal (sink line) s

/-- A result set is drained, checked and closed before a line of it is written. -/
theorem follows_consumeResultSet {entries : List Entry} {items : List Value} (counted : Bool)
    (hs : s.exhausted = false) (h : s.cursor.Shows (.rows entries items fault)) :
    Follows (consumeResultSet b.dialect sink (statement b ScriptedCursor.cursor own)) s
      (sink.settle ((OutcomeScript.rows entries items fault).form b.dialect counted))
      (SamePlace s) := by
  have hrun := run_currentResultSet (b := b) hs h
  rw [consumeResultSet, OutcomeScript.form]
  cases hd : b.dialect.describeAll 1 entries with
  | error f =>
      rw [hd] at hrun
      rw [Noted.ofExcept_error_bind, sink.settle_error]
      exact (Performs.onDriver hrun).stop_follows
  | ok columns =>
      rw [hd] at hrun
      rw [Noted.ofExcept_ok_bind, sink.settle_bind]
      refine (Performs.onDriver hrun).after_follows ?_
      obtain ⟨t, ht, hplace⟩ :=
        performs_consumeRows (b := b) (describeAll_numbered hd) (fetching_opened h columns)
      refine ht.bind_follows fun table _ => ?_
      show Follows (Action.ofExcept (tableOutcome columns table).summary >>= _) t _ _
      cases hsum : (tableOutcome columns table).summary with
      | error f =>
          rw [Noted.ofExcept_error_bind, sink.settle_error]
          exact (Performs.ofExcept (.error f) t).stop_follows
      | ok summary =>
          rw [Noted.ofExcept_ok_bind, sink.settle_pure, Outcome.written_tableOutcome,
            Outcome.summary_eq_ok hsum]
          simp only [Sink.offerAll, bind_assoc, pure_bind]
          refine (Performs.ofExcept (.ok _) t).after_follows ?_
          refine (follows_offer _ t).bind fun _ u hu => ?_
          refine (follows_offer _ u).bind fun _ w hw => .pure _ ?_
          rw [hw, hu]
          exact ⟨hplace.1, hplace.2, hplace.3, hplace.4, hplace.5⟩

/-- Anything but a result set is counted, and one line is written for it. -/
theorem follows_consumeCount {v : Value} (hs : s.exhausted = false)
    (h : s.cursor.Shows (.count v)) :
    Follows (consumeCount sink (statement b ScriptedCursor.cursor own)) s
      (some <$> sink.settle
        ((OutcomeScript.count v).form b.dialect s.cursor.script.countsRows)) (SamePlace s) := by
  have hrun := run_getUpdateCount (b := b) own hs h
  rw [consumeCount, OutcomeScript.form]
  cases hc : affected s.cursor.script.countsRows v with
  | error f =>
      rw [hc] at hrun
      rw [except_error_bind, sink.settle_error, Action.map_fail]
      exact (Performs.onDriver hrun).stop_follows
  | ok c =>
      rw [hc] at hrun
      rw [except_ok_bind]
      refine (Performs.onDriver hrun).after_follows ?_
      rw [isNoOutcome_affected hc]
      refine (Performs.ofExcept (.ok false) s).after_follows ?_
      simp only [Bool.false_eq_true, if_false]
      cases ho : countOutcome c with
      | error f =>
          rw [sink.settle_error, Action.map_fail]
          exact (Performs.ofExcept (.error f) s).stop_follows
      | ok o =>
          refine (Performs.ofExcept (.ok o) s).after_follows ?_
          show Follows _ s (some <$> sink.settle (pure o)) _
          rw [sink.settle_pure, written_countOutcome ho]
          simp only [Sink.offerAll, bind_assoc, pure_bind, map_bind, map_pure]
          refine (follows_offer _ s).bind fun _ u hu => .pure _ ?_
          rw [hu]
          exact .refl s

/-- Consuming the outcome at which the cursor stands makes and writes what the script says. -/
theorem follows_consume (sink : Sink) (own : Option Prepared) {o : OutcomeScript}
    (hs : s.exhausted = false) (h : s.cursor.Shows o) :
    Follows (consume b.dialect sink (statement b ScriptedCursor.cursor own) o.isTable) s
      (some <$> sink.settle (o.form b.dialect s.cursor.script.countsRows)) (SamePlace s) := by
  cases o with
  | failing f => exact h.elim
  | rows entries items fault => exact (follows_consumeResultSet _ hs h).map some
  | count v => exact follows_consumeCount hs h

end Session

end StatementWalk
