import StatementWalk.Proofs.Course
import StatementWalk.Proofs.OutcomeReading

/-!
# Moving from place to place

Executing brings a session to the first place of its script, and every further move to the next one.
What the server said there is collected on the way. When a move finds no place, the session is left
without an outcome and without warnings to report.
-/

namespace StatementWalk

namespace ScriptedCursor

variable {c : ScriptedCursor} {o : OutcomeScript}

/-- The cursor came to a place with the notices `p` on its connection. -/
structure StandsAt (script : CursorScript) (k : Nat) (p : Value) (q : Place) (c : ScriptedCursor) :
    Prop where
  script_eq : c.script = script
  position_eq : c.position = k
  shows_outcome : c.Shows q.outcome
  messages_eq : c.messages = q.messages
  pending_eq : c.pending = script.announced p q

theorem run_arrive_none (h : c.script.outcomes[c.position]? = none) :
    arrive.run c = (.ok false, c.pastEnd) := by
  rw [arrive, Action.run_bind_ok (Action.run_state c), h]
  rfl

theorem run_arrive_some (h : c.script.outcomes[c.position]? = some o) :
    arrive.run c = (load o >>= fun _ => pure true).run c := by
  rw [arrive, Action.run_bind_ok (Action.run_state c), h]

/-- Arriving at an outcome, the cursor stands at its place, or the driver does not reach it. -/
theorem run_arrive_place (h : c.script.outcomes[c.position]? = some o) :
    ∃ c', arrive.run c = (o.reached.map fun _ => true, c') ∧
      (o.reached = .ok () →
        c'.StandsAt c.script c.position c.pending (c.script.placeAt c.position o)) := by
  rw [run_arrive_some h]
  cases o with
  | failing f => exact ⟨c, rfl, fun hr => nomatch hr⟩
  | rows entries items fault => exact ⟨_, rfl, fun _ => ⟨rfl, rfl, ⟨rfl, rfl, rfl, rfl⟩, rfl, rfl⟩⟩
  | count v => exact ⟨_, rfl, fun _ => ⟨rfl, rfl, ⟨rfl, rfl⟩, rfl, rfl⟩⟩

theorem notices_of_standsAt {script : CursorScript} {k : Nat} {p : Value} {q : Place}
    (h : c.StandsAt script k p q) : notices c = script.board p q := by
  rw [notices, h.messages_eq, h.script_eq, h.pending_eq, CursorScript.board]

end ScriptedCursor

namespace ScriptedCursor

theorem addNotices_nil (p : Value) : addNotices p [] = p := rfl

theorem standsAt_pastEnd {c : ScriptedCursor} (h : c.script.outcomes = []) (hk : c.position = 0) :
    c.pastEnd.StandsAt c.script 0 c.pending c.script.firstPlace := by
  rw [CursorScript.firstPlace, h]
  refine ⟨rfl, hk, ⟨rfl, rfl⟩, rfl, ?_⟩
  rw [CursorScript.announced, addNotices_nil, ite_self]
  rfl

def begun (sql : String) (params : Option Value) (c : ScriptedCursor) : ScriptedCursor :=
  { c with executed := c.executed ++ [(sql, params)], position := 0 }

/-- Executing, the cursor comes to the first place, or the driver does not reach it. -/
theorem run_execute_place {c : ScriptedCursor} (h : c.script.executeFault = none) (sql : String)
    (params : Option Value) :
    ∃ c', (execute sql params).run c = (c.script.firstPlace.outcome.reached, c') ∧
      (c.script.firstPlace.outcome.reached = .ok () →
        c'.StandsAt c.script 0 c.pending c.script.firstPlace) := by
  have hrun : (execute sql params).run c =
      (arrive >>= fun _ => pure ()).run (begun sql params c) := by
    rw [execute, Action.run_bind_ok (Action.run_state c), h]
    rfl
  rw [hrun]
  cases hos : c.script.outcomes with
  | nil =>
      have harrive : arrive.run (begun sql params c) = (.ok false, (begun sql params c).pastEnd) :=
        run_arrive_none (by show c.script.outcomes[0]? = none; rw [hos]; rfl)
      refine ⟨(begun sql params c).pastEnd, ?_, fun _ => ?_⟩
      · rw [Action.run_bind_ok harrive, CursorScript.firstPlace, hos]
        rfl
      · exact standsAt_pastEnd (c := begun sql params c) hos rfl
  | cons o rest =>
      have hfirst : c.script.firstPlace = c.script.placeAt 0 o := by
        rw [CursorScript.firstPlace, hos]
      obtain ⟨c', harrive, hstands⟩ := run_arrive_place (c := begun sql params c) (o := o)
        (by show c.script.outcomes[0]? = some o; rw [hos]; rfl)
      rw [hfirst]
      refine ⟨c', ?_, hstands⟩
      show _ = (o.reached, c')
      cases hr : o.reached with
      | error f =>
          rw [hr] at harrive
          exact Action.run_bind_error harrive
      | ok u =>
          rw [hr] at harrive
          exact Action.run_bind_ok harrive

end ScriptedCursor

namespace Session

variable {b : Backend} {script : CursorScript} {k : Nat} {p : Value} {q : Place}
  {s : Session ScriptedCursor}

/-- The session came to an outcome with warnings to report. -/
structure Reached (script : CursorScript) (k : Nat) (p : Value) (o : OutcomeScript)
    (ns : List Notice) (s : Session ScriptedCursor) : Prop where
  script_eq : s.cursor.script = script
  position_eq : s.cursor.position = k
  shows_outcome : s.cursor.Shows o
  connection_eq : s.cursor.pending = p
  pending_eq : s.pending = ns
  exhausted_eq : s.exhausted = false

structure Between (script : CursorScript) (k : Nat) (p : Value) (s : Session ScriptedCursor) :
    Prop where
  script_eq : s.cursor.script = script
  position_eq : s.cursor.position = k
  connection_eq : s.cursor.pending = p
  pending_eq : s.pending = []
  exhausted_eq : s.exhausted = false

structure Finished (s : Session ScriptedCursor) : Prop where
  exhausted_eq : s.exhausted = true
  pending_eq : s.pending = []

theorem Reached.between {o : OutcomeScript} {t : Session ScriptedCursor}
    (h : Reached script k p o [] s) (ht : SamePlace s t) : Between script k p t :=
  ⟨ht.script_eq.trans h.script_eq, ht.position_eq.trans h.position_eq,
    ht.connection_eq.trans h.connection_eq, ht.pending_eq.trans h.pending_eq,
    ht.exhausted_eq.trans h.exhausted_eq⟩

theorem Reached.cleared {o : OutcomeScript} {ns : List Notice} (h : Reached script k p o ns s) :
    Reached script k p o [] { s with pending := [] } :=
  ⟨h.script_eq, h.position_eq, h.shows_outcome, h.connection_eq, rfl, h.exhausted_eq⟩

theorem shows_setNotices {c : ScriptedCursor} {o : OutcomeScript} (h : c.Shows o)
    (board : NoticeBoard) : (ScriptedCursor.setNotices board c).Shows o := by
  cases o with
  | failing f => exact h
  | rows entries items fault => exact h
  | count v => exact h

/-- Collecting at a place fails as the step says, or adds its notices to those to report. -/
theorem run_collectWarnings (h : s.cursor.StandsAt script k p q) (hs : s.exhausted = false) :
    ∃ t, (collectWarnings b ScriptedCursor.cursor).run s =
        ((script.stepAt b p q).notices.map fun _ => (), t) ∧
      ∀ ns, (script.stepAt b p q).notices = .ok ns →
        Reached script k (script.kept b p q) q.outcome (s.pending ++ ns) t := by
  have hboard : ScriptedCursor.cursor.notices s.cursor = script.board p q :=
    ScriptedCursor.notices_of_standsAt h
  have hstep : (script.stepAt b p q).notices = (script.collected b p q).map Prod.fst := rfl
  unfold collectWarnings
  cases hw : b.capabilities.warnings with
  | false =>
      have hc : script.collected b p q = .ok ([], script.board p q) := by
        simp [CursorScript.collected, hw]
      rw [hstep, hc]
      refine ⟨s, rfl, fun ns hns => ?_⟩
      cases hns
      have hkept : script.kept b p q = script.announced p q := by
        rw [CursorScript.kept, hc, CursorScript.board]
        dsimp only
        split <;> rfl
      exact ⟨h.script_eq, h.position_eq, h.shows_outcome, h.pending_eq.trans hkept.symm,
        (List.append_nil _).symm, hs⟩
  | true =>
      have hc : script.collected b p q = b.dialect.collect (script.board p q) := by
        simp [CursorScript.collected, hw]
      simp only [if_true]
      rw [Action.run_bind_ok (Action.run_state s), hboard, ← hc, hstep]
      cases hres : script.collected b p q with
      | error f => exact ⟨s, Action.run_bind_error (Action.run_ofExcept (.error f) s), nofun⟩
      | ok found =>
          rw [Action.run_bind_ok (Action.run_ofExcept (.ok found) s)]
          refine ⟨_, rfl, fun ns hns => ?_⟩
          cases hns
          have hkept : script.kept b p q = found.2.pending.getD (script.announced p q) := by
            rw [CursorScript.kept, hres]
          refine ⟨h.script_eq, h.position_eq, shows_setNotices h.shows_outcome found.2, ?_, rfl, hs⟩
          rw [hkept, ← h.pending_eq]
          rfl

theorem run_setExhausted (e : Bool) (s : Session ScriptedCursor) :
    (setExhausted e : Action (Session ScriptedCursor) Unit).run s =
      (.ok (), { s with exhausted := e }) := rfl

theorem run_execute_fault {f : Fault} (h : s.cursor.script.executeFault = some f) (sql : String)
    (params : Option Value) :
    (execute b ScriptedCursor.cursor sql params).run s = (.error f, s) := by
  have hrun : (ScriptedCursor.cursor.execute sql params).run s.cursor = (.error f, s.cursor) := by
    show (ScriptedCursor.execute sql params).run s.cursor = _
    rw [ScriptedCursor.execute, Action.run_bind_ok (Action.run_state _), h]
    rfl
  exact Action.run_bind_error (run_onCursor hrun)

/-- Once the cursor stands at a place, the session collects and says what kind of outcome it is. -/
theorem run_arrived (h : s.cursor.StandsAt script k p q) (hs : s.exhausted = false)
    (hr : q.outcome.reached = .ok ()) :
    ∃ t, (do
        collectWarnings b ScriptedCursor.cursor
        return onResultSet ScriptedCursor.cursor (← Action.state)).run s =
          ((script.stepAt b p q).arrive q.outcome.isTable, t) ∧
      ∀ ns, (script.stepAt b p q).notices = .ok ns →
        Reached script k (script.kept b p q) q.outcome (s.pending ++ ns) t := by
  obtain ⟨t, ht, hreached⟩ := run_collectWarnings (b := b) h hs
  have hreach : (script.stepAt b p q).reached = .ok () := hr
  refine ⟨t, ?_, hreached⟩
  cases hn : (script.stepAt b p q).notices with
  | error f =>
      rw [hn] at ht
      rw [Action.run_bind_error ht, Step.arrive, hreach, hn]
      rfl
  | ok ns =>
      rw [hn] at ht
      have hkind := onResultSet_of_shows (hreached ns hn).exhausted_eq
        (hreached ns hn).shows_outcome
      rw [Action.run_bind_ok ht, Action.run_bind_ok (Action.run_state t), hkind,
        Step.arrive_of_notices hreach hn]
      rfl

theorem run_execute (h : s.cursor.script.executeFault = none) (sql : String)
    (params : Option Value) (hq : q = s.cursor.script.firstPlace) (hp : p = s.cursor.pending)
    (hscript : script = s.cursor.script) :
    ∃ t, (execute b ScriptedCursor.cursor sql params).run s =
        ((script.stepAt b p q).arrive q.outcome.isTable, t) ∧
      ∀ ns, (script.stepAt b p q).reached = .ok () → (script.stepAt b p q).notices = .ok ns →
        Reached script 0 (script.kept b p q) q.outcome (s.pending ++ ns) t := by
  subst hq hp hscript
  obtain ⟨c', hrun, hstands⟩ := ScriptedCursor.run_execute_place h sql params
  have hcursor := run_onCursor (a := ScriptedCursor.cursor.execute sql params) hrun
  cases hr : s.cursor.script.firstPlace.outcome.reached with
  | error f =>
      rw [hr] at hcursor
      have hreach : (s.cursor.script.stepAt b s.cursor.pending s.cursor.script.firstPlace).reached =
          .error f := hr
      refine ⟨{ s with cursor := c' }, ?_, fun ns hns => ?_⟩
      · rw [execute, Action.run_bind_error hcursor, Step.arrive, hreach]
        rfl
      · rw [hreach] at hns
        cases hns
  | ok u =>
      rw [hr] at hcursor
      obtain ⟨t, ht, hreached⟩ := run_arrived (b := b)
        (s := { s with cursor := c', exhausted := false })
        (hstands hr) rfl hr
      refine ⟨t, ?_, fun ns _ hns => hreached ns hns⟩
      rw [execute, Action.run_bind_ok hcursor, Action.run_bind_ok (run_setExhausted false _)]
      exact ht

theorem run_cursor_advance (c : ScriptedCursor) :
    ScriptedCursor.cursor.advance.run c =
      ScriptedCursor.arrive.run { c.touch with position := c.position + 1 } := rfl

theorem run_advance_of_not (h : s.cursor.script.advances b = false) :
    (advance b ScriptedCursor.cursor).run s = (.ok false, s) := by
  have hcan : (!s.exhausted && b.capabilities.multipleResults &&
      ScriptedCursor.cursor.canAdvance s.cursor) = false := by
    rw [Bool.and_assoc]
    show (!s.exhausted && s.cursor.script.advances b) = false
    rw [h, Bool.and_false]
  rw [advance, Action.run_bind_ok (Action.run_state s), hcan]
  rfl

theorem run_advance (h : s.cursor.script.advances b = true) (hs : s.exhausted = false) :
    (advance b ScriptedCursor.cursor).run s =
      (do
        let more ← onCursor ScriptedCursor.cursor.advance
        if more then collectWarnings b ScriptedCursor.cursor
        return more : Action (Session ScriptedCursor) Bool).run s := by
  have hcan : (!s.exhausted && b.capabilities.multipleResults &&
      ScriptedCursor.cursor.canAdvance s.cursor) = true := by
    rw [hs, Bool.and_assoc]
    exact h
  rw [advance, Action.run_bind_ok (Action.run_state s), hcan]
  rfl

/-- Where there is no further place, the session is done. -/
theorem run_moreResults_nil (h : Between script k p s) (hq : script.placesAfter b k = []) :
    ∃ t, (moreResults b ScriptedCursor.cursor).run s = (.ok false, t) ∧ Finished t := by
  have hlast : ∃ t, (advance b ScriptedCursor.cursor).run s = (.ok false, t) ∧ t.pending = [] := by
    cases hadv : script.advances b with
    | false => exact ⟨s, run_advance_of_not (by rw [h.script_eq]; exact hadv), h.pending_eq⟩
    | true =>
        have hnone : script.outcomes[k + 1]? = none := by
          rcases CursorScript.placesAfter_eq_nil hq with hn | hn
          · rw [hadv] at hn
            cases hn
          · exact hn
        have harrive := run_onCursor (s := s) ((run_cursor_advance s.cursor).trans
          (ScriptedCursor.run_arrive_none
            (c := { s.cursor.touch with position := s.cursor.position + 1 })
            (by rw [← h.script_eq, ← h.position_eq] at hnone; exact hnone)))
        rw [run_advance (by rw [h.script_eq]; exact hadv) h.exhausted_eq,
          Action.run_bind_ok harrive]
        exact ⟨_, rfl, h.pending_eq⟩
  obtain ⟨t, ht, hpending⟩ := hlast
  refine ⟨{ t with exhausted := true }, ?_, rfl, hpending⟩
  rw [moreResults, Action.run_bind_ok ht]
  rfl

/-- Where there is a further place, the session comes to it. -/
theorem run_moreResults_cons {rest : List Place} (h : Between script k p s)
    (hq : script.placesAfter b k = q :: rest) :
    ∃ t, (moreResults b ScriptedCursor.cursor).run s =
        ((script.stepAt b p q).arrive q.outcome.isTable, t) ∧
      ∀ ns, (script.stepAt b p q).reached = .ok () → (script.stepAt b p q).notices = .ok ns →
        Reached script (k + 1) (script.kept b p q) q.outcome ns t := by
  obtain ⟨hadv, o, ho, rfl, -⟩ := CursorScript.placesAfter_eq_cons hq
  obtain ⟨c', harrive, hstands⟩ := ScriptedCursor.run_arrive_place (o := o)
    (c := { s.cursor.touch with position := s.cursor.position + 1 })
    (by rw [← h.script_eq, ← h.position_eq] at ho; exact ho)
  have hcursor := run_onCursor (s := s) ((run_cursor_advance s.cursor).trans harrive)
  have hadvance := run_advance (b := b) (s := s) (by rw [h.script_eq]; exact hadv) h.exhausted_eq
  have hreach : (script.stepAt b p (script.placeAt (k + 1) o)).reached = o.reached := rfl
  cases hr : o.reached with
  | error f =>
      rw [hr] at hcursor hreach
      refine ⟨{ s with cursor := c' }, ?_, fun ns hns => ?_⟩
      · rw [moreResults, Action.run_bind_error (hadvance.trans (Action.run_bind_error hcursor)),
          Step.arrive, hreach]
        rfl
      · rw [hreach] at hns
        cases hns
  | ok u =>
      rw [hr] at hcursor
      have hplace : c'.StandsAt script (k + 1) p (script.placeAt (k + 1) o) := by
        have := hstands hr
        rw [← h.script_eq, ← h.position_eq, ← h.connection_eq]
        exact this
      obtain ⟨t, ht, hreached⟩ := run_arrived (b := b) (s := { s with cursor := c' }) hplace
        h.exhausted_eq hr
      rw [h.pending_eq] at hreached
      refine ⟨t, ?_, fun ns _ hns => hreached ns hns⟩
      have hw : (advance b ScriptedCursor.cursor).run s =
          (collectWarnings b ScriptedCursor.cursor >>= fun _ => pure true).run
            { s with cursor := c' } := by
        rw [hadvance, Action.run_bind_ok hcursor]
        rfl
      rw [← ht]
      cases hc : (collectWarnings b ScriptedCursor.cursor).run { s with cursor := c' } with
      | mk r t' =>
          cases r with
          | error f =>
              rw [Action.run_bind_error hc, moreResults]
              exact Action.run_bind_error (hw.trans (Action.run_bind_error hc))
          | ok u =>
              rw [Action.run_bind_ok hc, moreResults]
              exact Action.run_bind_ok (hw.trans (Action.run_bind_ok hc))

end Session

end StatementWalk
