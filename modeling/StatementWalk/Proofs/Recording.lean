import StatementWalk.Proofs.Agreement

/-!
# Recorded calls

What a walk asks of a statement is made visible by a statement that does the same and keeps a record
of every call, with the answer to it. Result sets are numbered in the order in which they are given
out, so that the calls of one can be told from those of another. Recording is not noticed: a walk
ends and writes as it does on the statement itself.
-/

namespace StatementWalk

/-- The state of a driver with the calls that were made, the last one at the end. -/
structure Recorded (σ γ : Type) where
  driver : σ
  calls : List γ := []

def recording {σ γ α : Type} (call : Except Fault α → γ) (x : Action σ α) :
    Action (Recorded σ γ) α :=
  fun s => ((x.run s.driver).1, ⟨(x.run s.driver).2, s.calls ++ [call (x.run s.driver).1]⟩)

@[simp] theorem run_recording {σ γ α : Type} (call : Except Fault α → γ) (x : Action σ α)
    (s : Recorded σ γ) :
    (recording call x).run s =
      ((x.run s.driver).1, ⟨(x.run s.driver).2, s.calls ++ [call (x.run s.driver).1]⟩) := rfl

theorem run_recording_eq {σ γ α : Type} {call : Except Fault α → γ} {x : Action σ α}
    {s : Recorded σ γ} {r : Except Fault α} {t : σ} (h : x.run s.driver = (r, t)) :
    (recording call x).run s = (r, ⟨t, s.calls ++ [call r]⟩) := by
  rw [run_recording, h]

/-- A state with a record, and the same state without. -/
def Unrecorded {σ γ : Type} (s : Recorded σ γ) (t : σ) : Prop := s.driver = t

theorem same_recording {σ γ α : Type} (call : Except Fault α → γ) (x : Action σ α) :
    Same Unrecorded (recording call x) x := by
  intro s t hst
  obtain rfl : s.driver = t := hst
  exact ⟨_, _, _, rfl, rfl, rfl⟩

inductive RowCall where
  | next (answer : Except Fault Bool)
  | object (index : Int) (answer : Except Fault Value)
  | typed (reading : Reading) (index : Int) (answer : Except Fault Value)
  | close (answer : Except Fault Unit)

structure Handle where
  number : Nat
  columns : List Column

/-- A call of a statement, or of one of the result sets that it has given out. -/
inductive Call where
  | execute (text : String) (answer : Except Fault Bool)
  | executePrepared (answer : Except Fault Bool)
  | resultSet (answer : Except Fault (Option Handle))
  | updateCount (answer : Except Fault Value)
  | moreResults (answer : Except Fault Bool)
  | warnings (answer : Except Fault (Option WarningRecord))
  | clearWarnings (answer : Except Fault Unit)
  | close (answer : Except Fault Unit)
  | ofRows (number : Nat) (call : RowCall)

namespace Call

def begins : Call → Bool
  | .execute .. | .executePrepared _ => true
  | _ => false

def gives : Call → Bool
  | .resultSet (.ok (some _)) => true
  | _ => false

def closes (number : Nat) : Call → Bool
  | .ofRows n (.close _) => n == number
  | _ => false

end Call

variable {σ : Type}

/-- The result set with a record of its calls, under the number that it was given. -/
def ResultSet.recorded (rs : ResultSet σ) (number : Nat) : ResultSet (Recorded σ Call) where
  className := rs.className
  columns := rs.columns
  nextRow := recording (.ofRows number ∘ .next) rs.nextRow
  getObject index := recording (.ofRows number ∘ .object index) (rs.getObject index)
  get reading index := recording (.ofRows number ∘ .typed reading index) (rs.get reading index)
  close := recording (.ofRows number ∘ .close) rs.close
  reach s := rs.reach s.driver

/-- The number of the next result set that is given out. -/
def handlesGiven (calls : List Call) : Nat := calls.countP Call.gives

/-- Asks for the current result set, and gives it out with a record of its calls. -/
def recordedResultSet (st : Statement σ) :
    Action (Recorded σ Call) (Option (ResultSet (Recorded σ Call))) := fun s =>
  let number := handlesGiven s.calls
  let out := recording (fun given : Except Fault (Option (ResultSet σ)) =>
    .resultSet (given.map (·.map fun rs => ⟨number, rs.columns⟩))) st.getResultSet s
  (out.1.map (·.map (·.recorded number)), out.2)

def Statement.recorded (st : Statement σ) : Statement (Recorded σ Call) where
  className := st.className
  prepared := st.prepared
  execute text := recording (.execute text) (st.execute text)
  executePrepared := recording .executePrepared st.executePrepared
  getResultSet := recordedResultSet st
  getUpdateCount := recording .updateCount st.getUpdateCount
  getMoreResults := recording .moreResults st.getMoreResults
  getWarnings := recording .warnings st.getWarnings
  clearWarnings := recording .clearWarnings st.clearWarnings
  close := recording .close st.close
  reach s := st.reach s.driver

theorem ResultSet.matches_recorded (rs : ResultSet σ) (number : Nat) :
    (rs.recorded number).Matches Unrecorded rs where
  className_eq := rfl
  columns_eq := rfl
  nextRow := same_recording _ _
  getObject _ := same_recording _ _
  get _ _ := same_recording _ _
  close := same_recording _ _
  reach h := congrArg rs.reach h

theorem run_recordedResultSet {st : Statement σ} {s : Recorded σ Call}
    {r : Except Fault (Option (ResultSet σ))} {t : σ} (h : st.getResultSet.run s.driver = (r, t)) :
    (recordedResultSet st).run s =
      (r.map (·.map (·.recorded (handlesGiven s.calls))),
        ⟨t, s.calls ++ [.resultSet (r.map
          (·.map fun rs => ⟨handlesGiven s.calls, rs.columns⟩))]⟩) := by
  have hrun : st.getResultSet s.driver = (r, t) := h
  simp only [Action.run, recordedResultSet, recording, hrun]

theorem Statement.matches_recorded (st : Statement σ) :
    st.recorded.Matches Unrecorded Unrecorded Unrecorded Unrecorded st where
  prepared_eq := rfl
  execute _ := (same_recording _ _).relates fun _ _ h => h
  executePrepared := (same_recording _ _).relates fun _ _ h => h
  report sink :=
    (agree_report sink (same_recording _ _) (same_recording _ _)).relates fun _ _ h => h
  getResultSet {s t} hst := by
    obtain rfl : s.driver = t := hst
    cases hrun : st.getResultSet.run s.driver with
    | mk r t =>
        show Handout Unrecorded ((recordedResultSet st).run s) (r, t)
        rw [run_recordedResultSet hrun]
        cases r with
        | error f => exact .failed f rfl
        | ok given =>
            cases given with
            | none => exact .absent rfl
            | some rs => exact .given Unrecorded (fun _ _ h => h) (rs.matches_recorded _) rfl
  getUpdateCount := same_recording _ _
  getMoreResults := (same_recording _ _).relates fun _ _ h => h
  reach h := congrArg st.reach h
  unstarted h := h
  ended h := h

/-- A walk does not notice that its calls are recorded. -/
theorem Statement.run_walk_recorded (st : Statement σ) (d : Dialect) (sink : Sink)
    (sql : Option String) (s : Recorded σ Call) (j : Journal) :
    ((walk d sink st.recorded sql).run ⟨s, j⟩).1 = ((walk d sink st sql).run ⟨s.driver, j⟩).1 ∧
      ((walk d sink st.recorded sql).run ⟨s, j⟩).2.journal =
        ((walk d sink st sql).run ⟨s.driver, j⟩).2.journal ∧
      ((walk d sink st.recorded sql).run ⟨s, j⟩).2.driver.driver =
        ((walk d sink st sql).run ⟨s.driver, j⟩).2.driver := by
  obtain ⟨r, s', t', k, hs, ht, hend⟩ :=
    st.matches_recorded.run_walk d sink sql (rfl : Unrecorded s _) j
  rw [hs, ht]
  exact ⟨rfl, rfl, hend⟩

end StatementWalk
