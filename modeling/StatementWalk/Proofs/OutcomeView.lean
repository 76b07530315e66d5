import Mathlib.Logic.ExistsUnique
import StatementWalk.Proofs.CursorCalls
import StatementWalk.Script.Cursor

/-!
# The view of the current outcome

A statement shows its outcome by the result set that it gives out and by its update count. Together
the two answers are one of three views: a result set, a count, or nothing. Which one it is depends
on the cursor and on whether the session is exhausted. An exhausted session shows nothing, whatever
the cursor shows, and only an execution that the driver accepts ends this.
-/

namespace StatementWalk

variable {κ σ : Type}

/-- What follows an action and leaves the state alone does not show in the state. -/
theorem Action.snd_run_bind {α β : Type} {x : Action σ α} {f : α → Action σ β}
    (h : ∀ a s, ((f a).run s).2 = s) (s : σ) : ((x >>= f).run s).2 = (x.run s).2 := by
  rw [Action.run_bind]
  cases x.run s with
  | mk r t =>
      cases r with
      | error e => rfl
      | ok a => exact h a t

inductive OutcomeView where
  | resultSet
  | count
  | nothing
deriving DecidableEq, Repr

def Statement.Shows (st : Statement σ) (s : σ) : OutcomeView → Prop
  | .resultSet => (∃ rs, (st.getResultSet.run s).1 = .ok (some rs)) ∧
      (st.getUpdateCount.run s).1 = .ok (.int (-1))
  | .count => (st.getResultSet.run s).1 = .ok none ∧
      ∃ v n, (st.getUpdateCount.run s).1 = .ok v ∧ v.asInt? = some n ∧ 0 ≤ n
  | .nothing => (st.getResultSet.run s).1 = .ok none ∧
      (st.getUpdateCount.run s).1 = .ok (.int (-1))

/-- No two views have the same answers. -/
theorem Statement.Shows.unique {st : Statement σ} {s : σ} {v w : OutcomeView} (hv : st.Shows s v)
    (hw : st.Shows s w) : v = w := by
  cases v <;> cases w <;> simp_all [Statement.Shows, Value.asInt?]

/-- The columns of the current outcome can be described, and its row count is an integer or
missing. -/
structure Cursor.Regular (c : Cursor κ) (d : Dialect) (k : κ) : Prop where
  describes (entries : List Entry) (h : c.description k = some entries) :
    ∃ columns, d.describeAll 1 entries = .ok columns
  counts (v : Value) (h : c.rowCount k = some v) : v = .null ∨ ∃ n, v.asInt? = some n

namespace Session

variable {b : Backend} {c : Cursor κ} {own : Option Prepared} {s t : Session κ} {sql : String}
  {params : Option Value} {answer : Bool}

def view (c : Cursor κ) (s : Session κ) : OutcomeView :=
  if s.exhausted then .nothing
  else if (c.description s.cursor).isSome then .resultSet
  else .count

theorem onResultSet_iff : onResultSet c s = true ↔ view c s = .resultSet := by
  unfold onResultSet view
  cases s.exhausted <;> cases (c.description s.cursor).isSome <;> simp

theorem getResultSet_of_onResultSet (hreg : c.Regular b.dialect s.cursor)
    (h : onResultSet c s = true) :
    ∃ rs, ((statement b c own).getResultSet.run s).1 = .ok (some rs) := by
  have hsome : (c.description s.cursor).isSome = true := by
    simp only [onResultSet, Bool.and_eq_true] at h
    exact h.2
  obtain ⟨entries, hentries⟩ := Option.isSome_iff_exists.mp hsome
  obtain ⟨columns, hcolumns⟩ := hreg.describes entries hentries
  show ∃ rs, ((currentResultSet b c).run s).1 = .ok (some rs)
  rw [currentResultSet, Action.run_bind_ok (Action.run_state s), h]
  simp only [if_true, hentries, Option.getD_some, Action.run_map, openResultSet, hcolumns]
  exact ⟨_, rfl⟩

theorem getResultSet_of_not_onResultSet (h : onResultSet c s = false) :
    ((statement b c own).getResultSet.run s).1 = .ok none := by
  show ((currentResultSet b c).run s).1 = .ok none
  rw [currentResultSet, Action.run_bind_ok (Action.run_state s), h]
  rfl

theorem updateCount_of_view (h : view c s ≠ .count) : updateCount c s = .ok (.int (-1)) := by
  unfold view at h
  unfold updateCount
  cases hs : s.exhausted <;> cases hd : (c.description s.cursor).isSome <;> simp_all

theorem countsRows_of_asInt? {v : Value} {n : Int} (h : v.asInt? = some n) :
    countsRows v = .ok (decide (0 ≤ n)) := by
  cases v with
  | bool b =>
      obtain rfl : (if b then 1 else 0) = n := Option.some.inj h
      cases b <;> rfl
  | int m =>
      obtain rfl : m = n := Option.some.inj h
      rfl
  | _ => simp [Value.asInt?] at h

theorem updateCount_of_count (hreg : c.Regular b.dialect s.cursor) (h : view c s = .count) :
    ∃ v n, updateCount c s = .ok v ∧ v.asInt? = some n ∧ 0 ≤ n := by
  have hcount : updateCount c s = do
      return if ← countsRows ((c.rowCount s.cursor).getD (.int (-1)))
        then (c.rowCount s.cursor).getD (.int (-1)) else .int 0 := by
    unfold view at h
    unfold updateCount
    cases hs : s.exhausted <;> cases hd : (c.description s.cursor).isSome <;> simp_all
  have hgiven : (c.rowCount s.cursor).getD (.int (-1)) = .null ∨
      ∃ n, ((c.rowCount s.cursor).getD (.int (-1))).asInt? = some n := by
    cases hv : c.rowCount s.cursor with
    | none => exact .inr ⟨-1, rfl⟩
    | some v => exact hreg.counts v hv
  rw [hcount]
  rcases hgiven with hnull | ⟨n, hn⟩
  · rw [hnull]
    exact ⟨.int 0, 0, rfl, rfl, Int.le_refl 0⟩
  · rw [countsRows_of_asInt? hn]
    by_cases hpos : 0 ≤ n
    · refine ⟨_, n, ?_, hn, hpos⟩
      simp [hpos, bind, Except.bind, pure, Except.pure]
    · refine ⟨.int 0, 0, ?_, rfl, Int.le_refl 0⟩
      simp [hpos, bind, Except.bind, pure, Except.pure]

/-- The answers of the statement show the view of its session. -/
theorem shows_view (hreg : c.Regular b.dialect s.cursor) :
    (statement b c own).Shows s (view c s) := by
  cases hv : view c s with
  | resultSet =>
      have htable : ∃ rs, ((statement b c own).getResultSet.run s).1 = .ok (some rs) :=
        getResultSet_of_onResultSet hreg (onResultSet_iff.mpr hv)
      exact ⟨htable, updateCount_of_view (by simp [hv])⟩
  | count =>
      have hnone : onResultSet c s = false := by simp [← Bool.not_eq_true, onResultSet_iff, hv]
      exact ⟨getResultSet_of_not_onResultSet hnone, updateCount_of_count hreg hv⟩
  | nothing =>
      have hnone : onResultSet c s = false := by simp [← Bool.not_eq_true, onResultSet_iff, hv]
      exact ⟨getResultSet_of_not_onResultSet hnone, updateCount_of_view (by simp [hv])⟩

theorem shows_nothing_of_exhausted (h : s.exhausted = true) :
    (statement b c own).Shows s .nothing := by
  have hview : view c s = .nothing := by simp [view, h]
  have hnone : onResultSet c s = false := by simp [onResultSet, h]
  exact ⟨getResultSet_of_not_onResultSet hnone, updateCount_of_view (by simp [hview])⟩

/-- Without an outcome there is no next one, and the driver is not asked for it. -/
theorem run_moreResults_of_exhausted (h : s.exhausted = true) :
    (moreResults b c).run s = (.ok false, s) := by
  have hadvance : (advance b c).run s = (.ok false, s) := by
    rw [advance, Action.run_bind_ok (Action.run_state s)]
    simp [h]
  have hsame : { s with exhausted := true } = s := by rw [← h]
  rw [moreResults, Action.run_bind_ok hadvance]
  show (Except.ok (onResultSet c { s with exhausted := true }), { s with exhausted := true }) = _
  rw [hsame]
  simp [onResultSet, h]

theorem calls_collectWarnings (b : Backend) (c : Cursor κ) (s : Session (Recorded κ CursorCall)) :
    ((collectWarnings b (c.recorded id)).run s).2.cursor.calls = s.cursor.calls := by
  unfold collectWarnings
  split
  · rw [Action.run_bind_ok (Action.run_state s)]
    cases b.dialect.collect ((c.recorded id).notices s.cursor) <;> rfl
  · rfl

/-- Collects the warnings of an outcome and says whether it is a result set. -/
def arriving (b : Backend) (c : Cursor κ) : Action (Session κ) Bool := do
  collectWarnings b c
  return onResultSet c (← Action.state)

theorem snd_run_arriving (b : Backend) (c : Cursor κ) (s : Session κ) :
    ((arriving b c).run s).2 = ((collectWarnings b c).run s).2 :=
  Action.snd_run_bind (fun _ _ => rfl) s

theorem run_execute_error {f : Fault} {k : κ}
    (h : (c.execute sql params).run s.cursor = (.error f, k)) :
    (execute b c sql params).run s = (.error f, { s with cursor := k }) := by
  rw [execute, Action.run_bind_error (run_onCursor h)]

theorem run_execute_ok {k : κ} (h : (c.execute sql params).run s.cursor = (.ok (), k)) :
    (execute b c sql params).run s =
      (arriving b c).run { s with cursor := k, exhausted := false } := by
  rw [execute, Action.run_bind_ok (run_onCursor h)]
  rfl

theorem calls_of_advanced {s t : Session (Recorded κ CursorCall)}
    (h : (advance b (c.recorded id)).run s = (.ok true, t)) :
    t.cursor.calls = s.cursor.calls ++ [.advance (.ok true)] := by
  rw [advance, Action.run_bind_ok (Action.run_state s)] at h
  split at h
  · cases hrun : c.advance.run s.cursor.driver with
    | mk r k =>
        have hcursor : (onCursor (c.recorded id).advance).run s =
            (r, { s with cursor := ⟨k, s.cursor.calls ++ [.advance r]⟩ }) :=
          run_onCursor (run_recording_eq hrun)
        rw [Action.run_bind, hcursor] at h
        cases r with
        | error f => cases h
        | ok more =>
            have hcalls := calls_collectWarnings b c
              { s with cursor := ⟨k, s.cursor.calls ++ [.advance (.ok more)]⟩ }
            cases more with
            | false => cases h
            | true =>
                change ((collectWarnings b (c.recorded id) >>= fun _ => pure true).run
                  { s with cursor := ⟨k, s.cursor.calls ++ [.advance (.ok true)]⟩ }) =
                    (.ok true, t) at h
                have hreached := congrArg Prod.snd h
                rw [Action.snd_run_bind fun _ _ => rfl] at hreached
                rwa [hreached] at hcalls
  · cases h

theorem run_moreResults_of_not_advanced (h : (advance b c).run s = (.ok false, t)) :
    (moreResults b c).run s = (.ok false, { t with exhausted := true }) := by
  rw [moreResults, Action.run_bind_ok h]
  rfl

theorem run_moreResults_of_advanced (h : (advance b c).run s = (.ok true, t)) :
    (moreResults b c).run s = (.ok (onResultSet c t), t) := by
  rw [moreResults, Action.run_bind_ok h]
  rfl

theorem answer_of_arriving (h : ((arriving b c).run s).1 = .ok answer) :
    answer = onResultSet c ((arriving b c).run s).2 := by
  rw [snd_run_arriving]
  rw [arriving, Action.run_bind] at h
  cases hrun : (collectWarnings b c).run s with
  | mk r t =>
      rw [hrun] at h
      cases r with
      | error f => cases h
      | ok u => exact (Except.ok.inj h).symm

theorem answer_of_execute (h : ((execute b c sql params).run s).1 = .ok answer) :
    answer = onResultSet c ((execute b c sql params).run s).2 := by
  cases hrun : (c.execute sql params).run s.cursor with
  | mk r k =>
      cases r with
      | error f =>
          rw [run_execute_error hrun] at h
          cases h
      | ok u =>
          rw [run_execute_ok hrun] at h ⊢
          exact answer_of_arriving h

/-- A move answers whether it came to a result set. -/
theorem answer_of_moreResults (h : ((moreResults b c).run s).1 = .ok answer) :
    answer = onResultSet c ((moreResults b c).run s).2 := by
  cases hadvance : (advance b c).run s with
  | mk r t =>
      cases r with
      | error f =>
          rw [moreResults, Action.run_bind_error hadvance] at h
          cases h
      | ok more =>
          cases more with
          | false =>
              rw [run_moreResults_of_not_advanced hadvance] at h ⊢
              simpa [onResultSet] using (Except.ok.inj h).symm
          | true =>
              rw [run_moreResults_of_advanced hadvance] at h ⊢
              exact (Except.ok.inj h).symm

end Session

/-- A call of a statement, or a change that the driver makes to its cursor between two of them. -/
inductive StatementCall (κ : Type) where
  | execute (sql : String) (params : Option Value)
  | moreResults
  | resultSet
  | updateCount
  | warnings
  | clearWarnings
  | close
  | behind (change : κ → κ)

namespace StatementCall

/-- Makes the call, over a cursor with a record of its own calls. The result is the answer of the
calls that say whether the outcome is a result set. -/
def action (b : Backend) (c : Cursor κ) (own : Option Session.Prepared) :
    StatementCall κ → Action (Session (Recorded κ CursorCall)) (Option Bool)
  | .execute sql params => some <$> Session.execute b (c.recorded id) sql params
  | .moreResults => some <$> (Session.statement b (c.recorded id) own).getMoreResults
  | .resultSet => (fun _ => none) <$> (Session.statement b (c.recorded id) own).getResultSet
  | .updateCount => (fun _ => none) <$> (Session.statement b (c.recorded id) own).getUpdateCount
  | .warnings => (fun _ => none) <$> (Session.statement b (c.recorded id) own).getWarnings
  | .clearWarnings => (fun _ => none) <$> (Session.statement b (c.recorded id) own).clearWarnings
  | .close => (fun _ => none) <$> (Session.statement b (c.recorded id) own).close
  | .behind change => (fun _ => none) <$> Action.modify fun s =>
      { s with cursor := { s.cursor with driver := change s.cursor.driver } }

def leave (b : Backend) (c : Cursor κ) (own : Option Session.Prepared) (call : StatementCall κ)
    (s : Session (Recorded κ CursorCall)) : Session (Recorded κ CursorCall) :=
  ((call.action b c own).run s).2

def made (b : Backend) (c : Cursor κ) (own : Option Session.Prepared) (call : StatementCall κ)
    (s : Session (Recorded κ CursorCall)) : List CursorCall :=
  (call.leave b c own s).cursor.calls.drop s.cursor.calls.length

end StatementCall

/-- The session of a new statement after some calls. -/
def reached (b : Backend) (c : Cursor κ) (own : Option Session.Prepared) (k : κ)
    (calls : List (StatementCall κ)) : Session (Recorded κ CursorCall) :=
  calls.foldl (fun s call => call.leave b c own s) (Session.fresh ⟨k, []⟩)

def CursorCall.starts : CursorCall → Bool
  | .execute _ _ (.ok _) => true
  | _ => false

def CursorCall.finds : CursorCall → Bool
  | .advance (.ok more) => more
  | _ => false

/-- After these calls the statement has no outcome: none was begun, or the last one was closed or
passed, and the driver accepted no execution since. -/
inductive Ended (b : Backend) (c : Cursor κ) (own : Option Session.Prepared) (k : κ) :
    List (StatementCall κ) → Prop
  | unstarted : Ended b c own k []
  | closed (calls : List (StatementCall κ)) : Ended b c own k (calls ++ [.close])
  | foundNothing (calls : List (StatementCall κ)) (answer : Option Bool)
      (returns : ((StatementCall.moreResults.action b c own).run (reached b c own k calls)).1 =
        .ok answer)
      (nothing : ∀ call ∈ StatementCall.moreResults.made b c own (reached b c own k calls),
        call.finds = false) :
      Ended b c own k (calls ++ [.moreResults])
  | stays (calls : List (StatementCall κ)) (call : StatementCall κ) (ended : Ended b c own k calls)
      (unstarted : ∀ asked ∈ call.made b c own (reached b c own k calls), asked.starts = false) :
      Ended b c own k (calls ++ [call])

namespace StatementCall

variable {b : Backend} {c : Cursor κ} {own : Option Session.Prepared} {call : StatementCall κ}
  {s : Session (Recorded κ CursorCall)}

theorem leave_resultSet_exhausted : (leave b c own .resultSet s).exhausted = s.exhausted := by
  have hopen (entries : List Entry) :
      ((Session.openResultSet b (c.recorded id) entries).run s).2.exhausted = s.exhausted := by
    rw [Session.openResultSet]
    cases b.dialect.describeAll 1 entries <;> rfl
  rw [leave, action, Action.run_map]
  show ((Session.currentResultSet b (c.recorded id)).run s).2.exhausted = s.exhausted
  rw [Session.currentResultSet, Action.run_bind_ok (Action.run_state s)]
  split
  · rw [Action.run_map]
    exact hopen _
  · rfl

theorem leave_updateCount : leave b c own .updateCount s = s := by
  rw [leave, action, Action.run_map]
  rfl

theorem leave_close_exhausted : (leave b c own .close s).exhausted = true := by
  rw [leave, action, Action.run_map]
  rfl

/-- Only an execution that the driver accepts gives an exhausted session an outcome. -/
theorem exhausted_leave (hs : s.exhausted = true)
    (hno : ∀ asked ∈ call.made b c own s, asked.starts = false) :
    (call.leave b c own s).exhausted = true := by
  cases call with
  | execute sql params =>
      cases hrun : (c.execute sql params).run s.cursor.driver with
      | mk r k =>
          have hrecorded : ((c.recorded id).execute sql params).run s.cursor =
              (r, ⟨k, s.cursor.calls ++ [.execute sql params r]⟩) := run_recording_eq hrun
          cases r with
          | error f =>
              rw [leave, action, Action.run_map, Session.run_execute_error hrecorded]
              exact hs
          | ok u =>
              have hleave : (leave b c own (.execute sql params) s).cursor.calls =
                  s.cursor.calls ++ [.execute sql params (.ok ())] := by
                rw [leave, action, Action.run_map, Session.run_execute_ok hrecorded,
                  Session.snd_run_arriving, Session.calls_collectWarnings]
              have hmade : CursorCall.execute sql params (.ok ()) ∈
                  made b c own (.execute sql params) s := by
                simp [made, hleave]
              have := hno _ hmade
              simp [CursorCall.starts] at this
  | moreResults =>
      have hrun : (Session.moreResults b (c.recorded id)).run s = (.ok false, s) :=
        Session.run_moreResults_of_exhausted hs
      rw [leave, action, Action.run_map]
      show ((Session.moreResults b (c.recorded id)).run s).2.exhausted = true
      rw [hrun]
      exact hs
  | resultSet => rwa [leave_resultSet_exhausted]
  | updateCount => rwa [leave_updateCount]
  | warnings => exact hs
  | clearWarnings => exact hs
  | close => exact leave_close_exhausted
  | behind change => exact hs

theorem exhausted_of_foundNothing {answer : Option Bool}
    (hreturns : ((moreResults.action b c own).run s).1 = .ok answer)
    (hnothing : ∀ asked ∈ moreResults.made b c own s, asked.finds = false) :
    (moreResults.leave b c own s).exhausted = true := by
  rw [action, Action.run_map] at hreturns
  rw [leave, action, Action.run_map]
  change (((Session.moreResults b (c.recorded id)).run s).1.map some) = .ok answer at hreturns
  change ((Session.moreResults b (c.recorded id)).run s).2.exhausted = true
  cases hadvance : (Session.advance b (c.recorded id)).run s with
  | mk r t =>
      cases r with
      | error f =>
          rw [Session.moreResults, Action.run_bind_error hadvance] at hreturns
          cases hreturns
      | ok more =>
          cases more with
          | false => rw [Session.run_moreResults_of_not_advanced hadvance]
          | true =>
              have hleave : (leave b c own .moreResults s).cursor.calls =
                  s.cursor.calls ++ [.advance (.ok true)] := by
                rw [leave, action, Action.run_map]
                show ((Session.moreResults b (c.recorded id)).run s).2.cursor.calls = _
                rw [Session.run_moreResults_of_advanced hadvance,
                  Session.calls_of_advanced hadvance]
              have hmade : CursorCall.advance (.ok true) ∈ made b c own .moreResults s := by
                simp [made, hleave]
              have := hnothing _ hmade
              simp [CursorCall.finds] at this

theorem answer_eq {answer : Bool} (h : ((call.action b c own).run s).1 = .ok (some answer)) :
    answer = Session.onResultSet (c.recorded id) (call.leave b c own s) := by
  have hsome {x : Action (Session (Recorded κ CursorCall)) Bool}
      (hx : ((some <$> x).run s).1 = .ok (some answer)) : (x.run s).1 = .ok answer := by
    rw [Action.run_map] at hx
    cases hr : (x.run s).1 with
    | error f =>
        rw [hr] at hx
        cases hx
    | ok a =>
        rw [hr] at hx
        cases hx
        rfl
  have hnone {α : Type} (x : Action (Session (Recorded κ CursorCall)) α) :
      (((fun _ => none) <$> x).run s).1 ≠ .ok (some answer) := by
    rw [Action.run_map]
    cases (x.run s).1 <;> simp [Except.map]
  cases call with
  | execute sql params =>
      have hanswer := Session.answer_of_execute (hsome h)
      rwa [leave, action, Action.run_map]
  | moreResults =>
      have hanswer := Session.answer_of_moreResults (hsome h)
      rwa [leave, action, Action.run_map]
  | _ =>
      exact (hnone _ h).elim

end StatementCall

theorem reached_append (b : Backend) (c : Cursor κ) (own : Option Session.Prepared) (k : κ)
    (calls : List (StatementCall κ)) (call : StatementCall κ) :
    reached b c own k (calls ++ [call]) = call.leave b c own (reached b c own k calls) := by
  simp [reached]

theorem Ended.exhausted {b : Backend} {c : Cursor κ} {own : Option Session.Prepared} {k : κ}
    {calls : List (StatementCall κ)} (h : Ended b c own k calls) :
    (reached b c own k calls).exhausted = true := by
  induction h with
  | unstarted => rfl
  | closed calls =>
      rw [reached_append]
      exact StatementCall.leave_close_exhausted
  | foundNothing calls answer returns nothing =>
      rw [reached_append]
      exact StatementCall.exhausted_of_foundNothing returns nothing
  | stays calls call ended unstarted ih =>
      rw [reached_append]
      exact StatementCall.exhausted_leave ih unstarted

/-- Whatever is called, and whatever the driver does in between, a statement shows exactly one view
of its outcome, and an execution or a move answers whether the view is a result set. Once the
statement has ended it shows nothing, and a move changes nothing and asks nothing of the cursor. -/
theorem Session.statement_shows_one_view (b : Backend) (c : Cursor κ)
    (own : Option Prepared) (k : κ) (calls : List (StatementCall κ)) :
    let st := statement b (c.recorded id) own
    let s := reached b c own k calls
    (c.Regular b.dialect s.cursor.driver → ∃! view, st.Shows s view) ∧
      (∀ (call : StatementCall κ) (answer : Bool),
        ((call.action b c own).run s).1 = .ok (some answer) →
        c.Regular b.dialect (call.leave b c own s).cursor.driver →
        (answer = true ↔ st.Shows (call.leave b c own s) .resultSet)) ∧
      (Ended b c own k calls → st.Shows s .nothing ∧ st.getMoreResults.run s = (.ok false, s)) := by
  intro st s
  have hregular {t : Session (Recorded κ CursorCall)} (h : c.Regular b.dialect t.cursor.driver) :
      (c.recorded id).Regular b.dialect t.cursor := ⟨h.describes, h.counts⟩
  refine ⟨fun hreg => ?_, fun call answer hanswer hreg => ?_, fun hended => ?_⟩
  · have hshows : st.Shows s (view (c.recorded id) s) := shows_view (hregular hreg)
    exact ⟨_, hshows, fun w hw => hw.unique hshows⟩
  · have hshows : st.Shows (call.leave b c own s) (view (c.recorded id) (call.leave b c own s)) :=
      shows_view (hregular hreg)
    rw [StatementCall.answer_eq hanswer, onResultSet_iff]
    constructor
    · intro hview
      rwa [hview] at hshows
    · intro hset
      exact hshows.unique hset
  · have hexhausted : s.exhausted = true := hended.exhausted
    exact ⟨shows_nothing_of_exhausted hexhausted, run_moreResults_of_exhausted hexhausted⟩

def tableAlone : ScriptedCursor := .ofScript { outcomes := [.rows [[.text "n"]] [] none] } .null

/-- The statement shows the table, and nothing when the table was passed. -/
theorem statement_shows_table_then_nothing :
    let b := Backend.ofDialect .mssql
    let st := Session.statement b (ScriptedCursor.cursor.recorded id) none
    let begun := reached b ScriptedCursor.cursor none tableAlone [.execute "select n" none]
    let passed := reached b ScriptedCursor.cursor none tableAlone
      [.execute "select n" none, .moreResults]
    st.Shows begun .resultSet ∧ st.Shows passed .nothing := by
  intro b st begun passed
  have hregular : ScriptedCursor.cursor.Regular b.dialect begun.cursor.driver := by
    constructor
    · intro entries hentries
      cases hentries
      exact ⟨[{ position := 1, label := "n" }], rfl⟩
    · intro v hv
      cases hv
      exact .inr ⟨-1, rfl⟩
  have hended : Ended b ScriptedCursor.cursor none tableAlone
      [.execute "select n" none, .moreResults] := by
    apply Ended.foundNothing [.execute "select n" none] (some false)
    · rfl
    · intro call hcall
      cases hcall with
      | head => rfl
      | tail _ h => cases h
  have hbegin := (Session.statement_shows_one_view b ScriptedCursor.cursor none tableAlone []).2.1
    (.execute "select n" none) true rfl hregular
  have hpass := (Session.statement_shows_one_view b ScriptedCursor.cursor none tableAlone
    [.execute "select n" none, .moreResults]).2.2 hended
  exact ⟨hbegin.mp rfl, hpass.1⟩

end StatementWalk
