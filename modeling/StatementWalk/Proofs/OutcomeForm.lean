import StatementWalk.Proofs.NormalForm
import StatementWalk.Script.Cursor
import StatementWalk.Walk.Walk

/-!
# What a scripted outcome comes to

The outcome that a walk makes of one place in a script depends on the dialect and the script alone.
For a result set it is the table of the rows up to the first that is null, cell by cell in normal
form; for anything else it is the count. A table is written in two lines of output, the table and
its count, and a count in one.
-/

namespace StatementWalk

open Number Record

def fetchFaultAt (fault : Option (Nat × Fault)) (fetched : Nat) : Option Fault :=
  match fault with
  | some (after, f) => if after ≤ fetched then some f else none
  | none => none

/-- The table of the rows that are left. -/
def Dialect.tableForm (d : Dialect) (columns : List Column) (fault : Option (Nat × Fault)) :
    Nat → List Value → Noted Table
  | fetched, [] =>
    match fetchFaultAt fault fetched with
    | some f => .ofExcept (.error f)
    | none => return {}
  | fetched, v :: rest =>
    match fetchFaultAt fault fetched with
    | some f => .ofExcept (.error f)
    | none =>
      if v.isNull then return {}
      else do
        let raw ← .ofExcept v.toRow
        let row ← d.normalRow raw columns
        let line ← .ofExcept (rowLine row)
        let more ← d.tableForm columns fault (fetched + 1) rest
        return ⟨row :: more.rows, line :: more.lines⟩

namespace Dialect

variable {d : Dialect} {columns : List Column} {fault : Option (Nat × Fault)} {fetched : Nat}

theorem tableForm_fault {f : Fault} (h : fetchFaultAt fault fetched = some f) (rows : List Value) :
    d.tableForm columns fault fetched rows = .ofExcept (.error f) := by
  cases rows with
  | nil => simp only [tableForm, h]
  | cons v rest => simp only [tableForm, h]

theorem tableForm_nil (h : fetchFaultAt fault fetched = none) :
    d.tableForm columns fault fetched [] = pure {} := by
  simp only [tableForm, h]

theorem tableForm_null (h : fetchFaultAt fault fetched = none) {v : Value} (hv : v.isNull = true)
    (rest : List Value) : d.tableForm columns fault fetched (v :: rest) = pure {} := by
  simp only [tableForm, h, hv, if_true]

theorem tableForm_cons (h : fetchFaultAt fault fetched = none) {v : Value} (hv : v.isNull = false)
    (rest : List Value) :
    d.tableForm columns fault fetched (v :: rest) = do
      let raw ← .ofExcept v.toRow
      let row ← d.normalRow raw columns
      let line ← .ofExcept (rowLine row)
      let more ← d.tableForm columns fault (fetched + 1) rest
      return ⟨row :: more.rows, line :: more.lines⟩ := by
  simp only [tableForm, h, hv, Bool.false_eq_true, if_false]

end Dialect

def countGiven (counted : Bool) (v : Value) : Value := if counted then v else .int (-1)

/-- The number of rows affected, zero where there is no count. -/
def affected (counted : Bool) (v : Value) : Except Fault Value := do
  return if ← Session.countsRows (countGiven counted v) then countGiven counted v else .int 0

namespace OutcomeScript

def form (d : Dialect) (counted : Bool) : OutcomeScript → Noted Outcome
  | .failing f => .ofExcept (.error f)
  | .rows entries items fault => do
    let columns ← .ofExcept (d.describeAll 1 entries)
    let table ← d.tableForm columns fault 0 items
    let _ ← .ofExcept (tableOutcome columns table).summary
    return tableOutcome columns table
  | .count v => .ofExcept (affected counted v >>= countOutcome)

def isTable : OutcomeScript → Bool
  | .rows .. => true
  | _ => false

end OutcomeScript

theorem isNoOutcome_affected {counted : Bool} {v c : Value} (h : affected counted v = .ok c) :
    isNoOutcome c = .ok false := by
  obtain ⟨counts, hr, h⟩ := except_bind_eq_ok.mp h
  cases h
  cases counts with
  | false => rfl
  | true =>
      simp only [if_true]
      generalize countGiven counted v = g at hr
      cases g with
      | bool b => cases b <;> rfl
      | int n =>
          simp only [Session.countsRows, Except.ok.injEq, decide_eq_true_eq] at hr
          have hn : n ≠ -1 := by omega
          simp [isNoOutcome, Value.eqInt, hn]
      | float x =>
          simp only [Session.countsRows, Except.ok.injEq] at hr
          simp [isNoOutcome, Value.eqInt, Binary64.eqInt_of_geZero hr]
      | decimal x =>
          cases hx : x.geZero? with
          | none => simp [Session.countsRows, hx] at hr
          | some b =>
              simp only [Session.countsRows, hx, Except.ok.injEq] at hr
              subst hr
              simp [isNoOutcome, Decimal.isSignaling_of_geZero hx, Decimal.eqInt_of_geZero hx]
      | _ => simp [Session.countsRows] at hr

theorem ofFields_count (text : String) (c : Value) :
    Outcome.ofFields [("kind", .text OutcomeKind.updateCount.name), ("text", .text text),
      ("row_count", c)] =
      ((readIntIn 0 none c).within "row_count").map fun n => ⟨.updateCount, text, n, [], []⟩ := by
  have hk : Fields.required [("kind", Value.text OutcomeKind.updateCount.name),
      ("text", .text text), ("row_count", c)] "kind" readOutcomeKind = .ok .updateCount := rfl
  have ht : Fields.required [("kind", Value.text OutcomeKind.updateCount.name),
      ("text", .text text), ("row_count", c)] "text" readText = .ok text := rfl
  have hr : Fields.required [("kind", Value.text OutcomeKind.updateCount.name),
      ("text", .text text), ("row_count", c)] "row_count" (readIntIn 0 none) =
        (readIntIn 0 none c).within "row_count" := rfl
  rw [Outcome.ofFields, hk, ht, hr]
  cases (readIntIn 0 none c).within "row_count" <;> rfl

theorem readIntIn_natCast (n : Nat) : readIntIn 0 none (.int n) = .ok (n : Int) := by
  have hn : ¬ (n : Int) < 0 := by omega
  simp only [readIntIn, Record.readInt, bind, Except.bind, if_neg hn]
  rfl

/-- The outcome of a count has the text of the count in its line, and the count as an integer. -/
theorem countOutcome_eq_ok {c : Value} {o : Outcome} (h : countOutcome c = .ok o) :
    ∃ text n, c.display = .ok text ∧ readIntIn 0 none c = .ok n ∧
      o = ⟨.updateCount, text ++ " row(s) affected", n, [], []⟩ := by
  obtain ⟨text, ht, h⟩ := except_bind_eq_ok.mp h
  have hfields := except_mapError_eq_ok.mp h
  rw [ofFields_count] at hfields
  obtain ⟨n, hn, rfl⟩ := except_map_eq_ok.mp hfields
  exact ⟨text, n, ht, except_mapError_eq_ok.mp hn, rfl⟩

namespace Outcome

def countText (o : Outcome) : String := toString o.rowCount ++ " row(s) affected"

def written (o : Outcome) : List String :=
  if o.isResultSet then [o.text, o.countText] else [o.text]

theorem written_tableOutcome (columns : List Column) (t : Table) :
    (tableOutcome columns t).written =
      [(tableOutcome columns t).text, (tableOutcome columns t).countText] := rfl

end Outcome

theorem countLine_eq_ok {n : Int} {s : String} (h : countLine n = .ok s) :
    s = toString n ++ " row(s) affected" := by
  obtain ⟨text, htext, h⟩ := except_bind_eq_ok.mp h
  unfold intText at htext
  split at htext
  · cases htext
    exact (Except.ok.inj h).symm
  · cases htext

theorem written_countOutcome {c : Value} {o : Outcome} (h : countOutcome c = .ok o) :
    o.written = [o.text] := by
  obtain ⟨text, n, -, -, rfl⟩ := countOutcome_eq_ok h
  rfl

theorem Outcome.summary_eq_ok {o : Outcome} {s : String} (h : o.summary = .ok s) :
    s = o.countText := countLine_eq_ok h

def Sink.offerAll (sink : Sink) : List String → Action Journal Unit
  | [] => return
  | line :: rest => do
    sink line
    sink.offerAll rest

/-- The sink takes the line, whatever it was given before. -/
def Sink.Takes (sink : Sink) (line : String) : Prop := ∀ j, ∃ k, (sink line).run j = (.ok (), k)

/-- Makes an outcome and writes it. Nothing is written unless the whole outcome was made. -/
def Sink.settle (sink : Sink) (x : Noted Outcome) : Action Journal Outcome := do
  let o ← x.act
  sink.offerAll o.written
  return o

theorem Sink.settle_bind {α : Type} (sink : Sink) (x : Noted α) (f : α → Noted Outcome) :
    sink.settle (x >>= f) = x.act >>= fun a => sink.settle (f a) := by
  simp only [settle, Noted.act_bind, bind_assoc]

theorem Sink.settle_error (sink : Sink) (e : Fault) :
    sink.settle (.ofExcept (.error e)) = Action.fail e := by
  rw [settle, Noted.act_ofExcept]
  rfl

theorem Sink.settle_pure (sink : Sink) (o : Outcome) :
    sink.settle (pure o) = do
      sink.offerAll o.written
      return o := by
  show sink.settle (.ofExcept (.ok o)) = _
  rw [settle, Noted.act_ofExcept]
  rfl

end StatementWalk
