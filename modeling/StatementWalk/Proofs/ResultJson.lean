import StatementWalk.Proofs.PlainCells

/-!
# Walk results as interchange text

Every kind of cell that a walk gives out can be written, and a result nests no deeper than the
writer goes. Only the size of integers is limited: a result is written if every integer in it, in a
cell, as a row count or as the code of a warning, has at most 64 bits, and fails for its integers
otherwise.
-/

namespace StatementWalk

/-- The integer can be written: as a signed word, or as an unsigned one. -/
def WordSized (n : Int) : Prop := -wordBound ≤ n ∧ n < 2 * wordBound

def notWordSized : Fault := .badType "Integer exceeds 64-bit range"

/-- Writing succeeds under the condition, and otherwise fails for an integer. -/
def WrittenIf {α : Type} (p : Prop) (x : Except Fault α) : Prop :=
  (p → ∃ a, x = .ok a) ∧ (¬p → x = .error notWordSized)

namespace WrittenIf

variable {α β : Type} {p q : Prop} {x : Except Fault α}

theorem ok (a : α) : WrittenIf True (.ok a : Except Fault α) :=
  ⟨fun _ => ⟨a, rfl⟩, fun h => absurd trivial h⟩

theorem congr (h : WrittenIf p x) (hpq : p ↔ q) : WrittenIf q x :=
  ⟨fun hq => h.1 (hpq.mpr hq), fun hq => h.2 fun hp => hq (hpq.mp hp)⟩

/-- The first part that cannot be written decides. -/
theorem bind {f : α → Except Fault β} (hx : WrittenIf p x) (hf : ∀ a, WrittenIf q (f a)) :
    WrittenIf (p ∧ q) (x >>= f) := by
  by_cases hp : p
  · obtain ⟨a, rfl⟩ := hx.1 hp
    rw [except_ok_bind]
    exact (hf a).congr (by simp [hp])
  · rw [hx.2 hp, except_error_bind]
    exact ⟨fun h => absurd h.1 hp, fun _ => rfl⟩

theorem map {f : α → β} (hx : WrittenIf p x) : WrittenIf p (do return f (← x)) :=
  (hx.bind fun a => ok (f a)).congr (and_iff_left trivial)

end WrittenIf

namespace Value

theorem writtenIf_int (n : Int) {depth : UInt8} : WrittenIf (WordSized n) ((int n).json depth) := by
  show WrittenIf _ (jsonInt n)
  unfold jsonInt WordSized
  split
  · rename_i h
    exact ⟨fun _ => ⟨_, rfl⟩, fun hn => absurd h hn⟩
  · rename_i h
    exact ⟨fun hn => absurd hn h, fun _ => rfl⟩

def Narrow (v : Value) : Prop := ∀ n, v = .int n → WordSized n

theorem narrow_int (n : Int) : Narrow (.int n) ↔ WordSized n := by
  constructor
  · intro h
    exact h n rfl
  · rintro h m ⟨rfl⟩
    exact h

/-- Of the plain values only integers may fail to be written. -/
theorem writtenIf_of_plain {v : Value} (h : v.Plain) (depth : UInt8) :
    WrittenIf v.Narrow (v.json depth) := by
  cases h with
  | int n => exact (writtenIf_int n).congr (narrow_int n).symm
  | _ => exact (WrittenIf.ok _).congr (by simp [Narrow])

variable {α : Type} {xs : List α} {f : α → Value} {P : α → Prop} {depth : UInt8}

theorem writtenIf_jsonItems (h : ∀ x ∈ xs, WrittenIf (P x) ((f x).json depth)) :
    WrittenIf (∀ x ∈ xs, P x) (jsonItems depth (xs.map f)) := by
  induction xs with
  | nil => exact (WrittenIf.ok []).congr (by simp)
  | cons x rest ih =>
      have hrest := ih fun y hy => h y (List.mem_cons_of_mem x hy)
      have hall := (h x List.mem_cons_self).bind fun s => hrest.map (f := (s :: ·))
      exact hall.congr List.forall_mem_cons.symm

theorem writtenIf_list (hdepth : depth + 1 ≠ depthLimit)
    (h : ∀ x ∈ xs, WrittenIf (P x) ((f x).json (depth + 1))) :
    WrittenIf (∀ x ∈ xs, P x) ((list (xs.map f)).json depth) := by
  rw [json, if_neg hdepth]
  exact (writtenIf_jsonItems h).map

theorem writtenIf_noEntry (depth : UInt8) : WrittenIf True (jsonEntries depth []) := .ok []

theorem writtenIf_entry (key : String) {v : Value} {rest : List (Value × Value)} {p q : Prop}
    (hv : WrittenIf p (v.json depth)) (hrest : WrittenIf q (jsonEntries depth rest)) :
    WrittenIf (p ∧ q) (jsonEntries depth ((.text key, v) :: rest)) :=
  hv.bind fun s => hrest.map (f := ((jsonText key ++ ":" ++ s) :: ·))

theorem writtenIf_dict {entries : List (Value × Value)} {p : Prop} (hdepth : depth + 1 ≠ depthLimit)
    (h : WrittenIf p (jsonEntries (depth + 1) entries)) :
    WrittenIf p ((dict entries).json depth) := by
  rw [json, if_neg hdepth]
  exact h.map

theorem writtenIf_text (s : String) : WrittenIf True ((text s).json depth) := .ok _

theorem writtenIf_ofText? (s? : Option String) : WrittenIf True ((ofText? s?).json depth) := by
  cases s? with
  | none => exact .ok _
  | some s => exact .ok _

end Value

def Outcome.Narrow (o : Outcome) : Prop :=
  WordSized o.rowCount ∧ ∀ row ∈ o.rows, ∀ v ∈ row, v.Narrow

def WalkResult.Narrow (r : WalkResult) : Prop :=
  (∀ o ∈ r.outcomes, o.Narrow) ∧ ∀ w ∈ r.warnings, WordSized w.code

open Value

theorem exported_of_plain {v : Value} (h : v.Plain) : Record.exported v = v := by
  cases h <;> rfl

theorem Outcome.writtenIf_toValue {o : Outcome} (h : PlainRows o.rows) :
    WrittenIf o.Narrow (o.toValue.json 2) := by
  have hcolumns : WrittenIf (∀ label ∈ o.columns, True)
      ((Value.list (o.columns.map .text)).json 3) :=
    writtenIf_list (by decide) fun label _ => writtenIf_text label
  have hrow (row : List Value) (hrow : row ∈ o.rows) :
      WrittenIf (∀ v ∈ row, v.Narrow) ((Value.list (row.map Record.exported)).json 4) := by
    apply writtenIf_list (by decide)
    intro v hv
    rw [exported_of_plain (h row hrow v hv)]
    exact writtenIf_of_plain (h row hrow v hv) _
  have hrows : WrittenIf (∀ row ∈ o.rows, ∀ v ∈ row, v.Narrow)
      ((Value.list (o.rows.map fun row => .list (row.map Record.exported))).json 3) :=
    writtenIf_list (by decide) hrow
  have hentries := writtenIf_entry "kind" (writtenIf_text o.kind.name)
    (writtenIf_entry "text" (writtenIf_text o.text)
      (writtenIf_entry "row_count" (writtenIf_int o.rowCount)
        (writtenIf_entry "columns" hcolumns
          (writtenIf_entry "rows" hrows (writtenIf_noEntry 3)))))
  exact (writtenIf_dict (by decide) hentries).congr (by simp [Outcome.Narrow])

theorem ClassifiedWarning.writtenIf_toValue (w : ClassifiedWarning) :
    WrittenIf (WordSized w.code) (w.toValue.json 2) := by
  have hentries := writtenIf_entry "kind" (writtenIf_text w.kind.name)
    (writtenIf_entry "message" (writtenIf_text w.message)
      (writtenIf_entry "error_code" (writtenIf_int w.code)
        (writtenIf_entry "sql_state" (writtenIf_ofText? w.state) (writtenIf_noEntry 3))))
  exact (writtenIf_dict (by decide) hentries).congr (by simp)

/-- A result with plain cells is written if every integer in it can be. -/
theorem WalkResult.writtenIf_toJson {r : WalkResult} (h : ∀ o ∈ r.outcomes, PlainRows o.rows) :
    WrittenIf r.Narrow r.toJson := by
  have houtcomes : WrittenIf (∀ o ∈ r.outcomes, o.Narrow)
      ((Value.list (r.outcomes.map Outcome.toValue)).json 1) :=
    writtenIf_list (by decide) fun o ho => Outcome.writtenIf_toValue (h o ho)
  have hwarnings : WrittenIf (∀ w ∈ r.warnings, WordSized w.code)
      ((Value.list (r.warnings.map ClassifiedWarning.toValue)).json 1) :=
    writtenIf_list (by decide) fun w _ => w.writtenIf_toValue
  have hentries := writtenIf_entry "sql" (writtenIf_ofText? r.sql)
    (writtenIf_entry "outcomes" houtcomes
      (writtenIf_entry "warnings" hwarnings (writtenIf_noEntry 1)))
  have hresult : WrittenIf _ (r.toValue.json 0) := writtenIf_dict (by decide) hentries
  exact hresult.congr (by simp [WalkResult.Narrow])

/-- The result of a walk is written if every integer in it can be, whatever else the cells hold, and
fails for an integer otherwise. -/
theorem Session.walk_result_written (b : Backend) {κ : Type} (c : Cursor κ) (own : Option Prepared)
    (sink : Sink) (sql : Option String) (w w' : World (Session κ)) (r : WalkResult)
    (h : (walk b.dialect sink (statement b c own) sql).run w = (.ok r, w')) :
    (r.Narrow → ∃ text, r.toJson = .ok text) ∧ (¬r.Narrow → r.toJson = .error notWordSized) :=
  WalkResult.writtenIf_toJson (yields_walk (givesPlain_statement b c own) sql w r w' h)

def integerResult (n : Int) : WalkResult :=
  { sql := some "select n", outcomes := [cellOutcome "n" (.int n) (toString n)] }

theorem narrow_integerResult (n : Int) : (integerResult n).Narrow ↔ WordSized n := by
  simp [WalkResult.Narrow, Outcome.Narrow, integerResult, cellOutcome, tableOutcome,
    Value.narrow_int, WordSized, wordBound]

theorem plainRows_integerResult (n : Int) : ∀ o ∈ (integerResult n).outcomes, PlainRows o.rows := by
  intro o ho row hrow v hv
  obtain rfl := List.mem_singleton.mp ho
  obtain rfl := List.mem_singleton.mp hrow
  obtain rfl := List.mem_singleton.mp hv
  exact .int n

theorem run_walk_integer (d : Dialect) (n : Int) (hn : n.natAbs < Number.digitBound) :
    ∃ w, (walk d Sink.collecting (Session.statement (.ofDialect d) ScriptedCursor.cursor none)
        (some "select n")).run ⟨Session.fresh (.ofScript (cellScript "n" (.int n)) .null), {}⟩ =
      (.ok (integerResult n), w) := by
  have htext : (Value.int n).cellText = .ok (toString n) := by
    rw [Value.cellText_int, Number.intText_eq_ok hn]
  exact run_walk_cellScript d "select n" "n" rfl
    (Dialect.correctionOf_of_isCanonical rfl nofun) htext

theorem walk_writes_short_integer :
    ∃ r w text, (walk .oracle Sink.collecting
        (Session.statement (.ofDialect .oracle) ScriptedCursor.cursor none) (some "select n")).run
          ⟨Session.fresh (.ofScript (cellScript "n" (.int 7)) .null), {}⟩ = (.ok r, w) ∧
      r.toJson = .ok text := by
  obtain ⟨w, hrun⟩ := run_walk_integer .oracle 7 (Number.lt_digitBound (by decide))
  have hnarrow : (integerResult 7).Narrow := by
    rw [narrow_integerResult]
    simp [WordSized, wordBound]
  obtain ⟨text, htext⟩ := (Session.walk_result_written (.ofDialect .oracle)
    ScriptedCursor.cursor none Sink.collecting (some "select n") _ w _ hrun).1 hnarrow
  exact ⟨_, w, text, hrun, htext⟩

/-- The walk over an integer of 65 bits succeeds, and its result cannot be written. -/
theorem walk_result_not_written :
    ∃ r w, (walk .oracle Sink.collecting
        (Session.statement (.ofDialect .oracle) ScriptedCursor.cursor none) (some "select n")).run
          ⟨Session.fresh (.ofScript (cellScript "n" (.int 18446744073709551616)) .null), {}⟩ =
        (.ok r, w) ∧
      r.toJson = .error notWordSized := by
  have hshort : (18446744073709551616 : Int).natAbs < Number.digitBound :=
    Number.lt_digitBound_of_lt_pow (by decide : 20 ≤ Number.digitLimit) (by decide)
  obtain ⟨w, hrun⟩ := run_walk_integer .oracle 18446744073709551616 hshort
  have hwide : ¬(integerResult 18446744073709551616).Narrow := by
    rw [narrow_integerResult]
    simp [WordSized, wordBound]
  exact ⟨_, w, hrun, (WalkResult.writtenIf_toJson (plainRows_integerResult _)).2 hwide⟩

end StatementWalk
