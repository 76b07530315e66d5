import StatementWalk.Proofs.Moving

/-!
# A walk follows the course of its script

The loop of a walk, the session and the cursor stay in step: a walk over a scripted cursor ends as
the course of its steps does, and writes what the course writes, whatever the sink answers. The
session that a successful walk leaves has no outcome and no warnings that were not reported.
-/

namespace StatementWalk

namespace Session

variable {b : Backend} {sink : Sink} {own : Option Prepared} {script : CursorScript} {k : Nat}
  {p : Value} {o : OutcomeScript} {s : Session ScriptedCursor}

theorem follows_report (sink : Sink) (own : Option Prepared) (s : Session ScriptedCursor) :
    Follows (report sink (statement b ScriptedCursor.cursor own)) s (reportNotices sink s.pending)
      (· = { s with pending := [] }) := by
  have hget : Performs (World.onDriver (statement b ScriptedCursor.cursor own).getWarnings) s
      (.ofExcept (.ok (WarningRecord.chain (s.pending.map WarningRecord.single)))) s :=
    Performs.onDriver rfl
  have hnotices : WarningRecord.noticesOf
      (WarningRecord.chain (s.pending.map WarningRecord.single)) = s.pending := by
    rw [WarningRecord.noticesOf_chain, List.map_map]
    exact List.map_id s.pending
  have hclear : Performs (World.onDriver (statement b ScriptedCursor.cursor own).clearWarnings) s
      (.ofExcept (.ok ())) { s with pending := [] } := Performs.onDriver rfl
  rw [report, ← bind_pure (reportNotices sink s.pending)]
  refine hget.attempt.after_follows ?_
  have hreport : Follows (reportChain sink
      (WarningRecord.chain (s.pending.map WarningRecord.single))) s
      (reportNotices sink s.pending) (· = s) := by
    rw [reportChain, hnotices]
    exact Follows.onJournal _ s
  refine hreport.bind fun ws t ht => ?_
  rw [ht]
  exact hclear.attempt.after_follows (.pure ws rfl)

theorem follows_consumeAll_finished (h : Finished s) (fuel : Nat) (result : WalkResult) :
    Follows (consumeAll b.dialect sink (statement b ScriptedCursor.cursor own) (fuel + 1) false
      result) s (pure result) Finished := by
  have hcount : Performs (World.onDriver
      (statement b ScriptedCursor.cursor own).getUpdateCount) s
        (.ofExcept (.ok (.int (-1)))) s := by
    refine Performs.onDriver ?_
    show (Action.state >>= fun s => Action.ofExcept (updateCount ScriptedCursor.cursor s)).run s = _
    rw [Action.run_bind_ok (Action.run_state s), updateCount, h.exhausted_eq]
    rfl
  have hnone : Performs (consume b.dialect sink (statement b ScriptedCursor.cursor own) false) s
      (.ofExcept (.ok none)) s :=
    hcount.after ((Performs.ofExcept (.ok true) s).after (.pure none s))
  exact hnone.after_follows (.pure result h)

/-- At the last place the loop makes the outcome at which the session stands, and ends. -/
theorem follows_consumeAll_last (sink : Sink) (own : Option Prepared)
    (hplaces : script.placesAfter b k = []) (h : Reached script k p o [] s) (fuel : Nat)
    (result : WalkResult) :
    Follows (consumeAll b.dialect sink (statement b ScriptedCursor.cursor own) (fuel + 2) o.isTable
      result) s
      (do
        let outcome ← sink.settle (o.form b.dialect script.countsRows)
        let warnings ← reportNotices sink []
        return { result with
          outcomes := result.outcomes ++ [outcome], warnings := result.warnings ++ warnings })
      Finished := by
  have hconsume := follows_consume (b := b) sink own h.exhausted_eq h.shows_outcome
  rw [h.script_eq] at hconsume
  refine hconsume.bind_map fun outcome t ht => ?_
  obtain ⟨u, hu, hfinished⟩ := run_moreResults_nil (h.between ht) hplaces
  refine (Performs.onDriver hu).after_follows ?_
  have hreport := follows_report (b := b) sink own u
  rw [hfinished.pending_eq] at hreport
  refine hreport.bind fun warnings w hw => ?_
  have hdone : Finished w := by
    rw [hw]
    exact ⟨hfinished.exhausted_eq, rfl⟩
  exact follows_consumeAll_finished hdone fuel _

/-- The loop makes the outcome at which the session stands and then the steps that are left. -/
theorem follows_consumeAll (sink : Sink) (own : Option Prepared) {places : List Place} {fuel : Nat}
    (hplaces : script.placesAfter b k = places)
    (hfuel : places.length + 1 < fuel) (h : Reached script k p o [] s) (result : WalkResult) :
    Follows (consumeAll b.dialect sink (statement b ScriptedCursor.cursor own) fuel
      o.isTable result) s
      (do
        let outcome ← sink.settle (o.form b.dialect script.countsRows)
        let rest ← course sink (script.stepsAt b p places)
        return { result with
          outcomes := result.outcomes ++ outcome :: rest.map Prod.snd
          warnings := result.warnings ++ (rest.map Prod.fst).flatten }) Finished := by
  induction places generalizing k p o s fuel result with
  | nil =>
      rw [List.length_nil] at hfuel
      obtain ⟨fuel, rfl⟩ : ∃ n, fuel = n + 2 := ⟨fuel - 2, by omega⟩
      exact follows_consumeAll_last sink own hplaces h fuel result
  | cons q rest ih =>
      rw [List.length_cons] at hfuel
      obtain ⟨fuel, rfl⟩ : ∃ n, fuel = n + 1 := ⟨fuel - 1, by omega⟩
      have hconsume := follows_consume (b := b) sink own h.exhausted_eq h.shows_outcome
      rw [h.script_eq] at hconsume
      refine hconsume.bind_map fun outcome t ht => ?_
      obtain ⟨u, hu, hreached⟩ := run_moreResults_cons (h.between ht) hplaces
      rw [CursorScript.stepsAt, course]
      cases ha : (script.stepAt b p q).arrive q.outcome.isTable with
      | error f =>
          rw [ha] at hu
          rw [Step.perform_of_arrive_error ha]
          exact (Performs.onDriver hu).stop_follows
      | ok v =>
          obtain ⟨hr, ⟨ns, hn⟩, rfl⟩ := Step.arrive_eq_ok ha
          rw [ha] at hu
          refine (Performs.onDriver hu).after_follows ?_
          have hu' := hreached ns hr hn
          have hreport := follows_report (b := b) sink own u
          rw [hu'.pending_eq] at hreport
          rw [Step.perform_of_notices hr hn]
          simp only [bind_assoc, pure_bind]
          refine hreport.bind fun ws w hw => ?_
          subst hw
          have hplaces' := (CursorScript.placesAfter_eq_cons hplaces).2.choose_spec.2.2.symm
          have hfuel' : rest.length + 1 < fuel := by omega
          have hrest := ih hplaces' hfuel' hu'.cleared
            { result with
              outcomes := result.outcomes ++ [outcome], warnings := result.warnings ++ ws }
          have houtcome : (script.stepAt b p q).outcome =
              q.outcome.form b.dialect script.countsRows := rfl
          rw [houtcome]
          simpa using hrest

theorem begin?_statement (sql : Option String) (h : own.isSome ∨ sql.isSome) :
    ∃ text params, begin? (statement b ScriptedCursor.cursor own) sql =
      .ok (execute b ScriptedCursor.cursor text params) := by
  cases own with
  | some prepared => exact ⟨prepared.sql, prepared.params, rfl⟩
  | none =>
      cases sql with
      | some text => exact ⟨text, none, rfl⟩
      | none => simp at h

theorem performs_start {sql : Option String} {text : String} {params : Option Value}
    {t : Session ScriptedCursor} {r : Except Fault Bool}
    (hbegin : begin? (statement b ScriptedCursor.cursor own) sql =
      .ok (execute b ScriptedCursor.cursor text params))
    (h : (execute b ScriptedCursor.cursor text params).run s = (r, t)) :
    Performs (start (statement b ScriptedCursor.cursor own) sql) s
      (.ofExcept (r.mapError (executionFault sql))) t := by
  rw [start, hbegin]
  refine (Performs.ofExcept (.ok _) s).after ?_
  refine (Performs.onDriver h).attempt.after ?_
  cases r with
  | error f => exact .fail (executionFault sql f) t
  | ok v => exact .pure v t

/-- The rest of a walk, once the statement was started. -/
theorem follows_walk_started {ns : List Notice} (sql : Option String)
    (h : Reached script 0 p o ns s) :
    Follows (do
        let warnings ← report sink (statement b ScriptedCursor.cursor own)
        let w ← Action.state
        let result ← consumeAll b.dialect sink (statement b ScriptedCursor.cursor own)
          ((statement b ScriptedCursor.cursor own).reach w.driver + 2) o.isTable { sql, warnings }
        World.log .debug .walking ("Walked " ++ toString result.outcomes.length ++ " outcome(s)")
        return result) s
      (do
        let warnings ← reportNotices sink ns
        let outcome ← sink.settle (o.form b.dialect script.countsRows)
        let rest ← course sink (script.stepsAt b p (script.placesAfter b 0))
        Journal.note .debug .walking
          ("Walked " ++ toString (rest.length + 1) ++ " outcome(s)")
        return .ofDone sql ((warnings, outcome) :: rest)) Finished := by
  have hreport := follows_report (b := b) sink own s
  rw [h.pending_eq] at hreport
  refine hreport.bind fun ws t ht => ?_
  have hclear : Reached script 0 p o [] t := by
    rw [ht]
    exact h.cleared
  refine Follows.state fun j => ?_
  have hfuel : (script.placesAfter b 0).length + 1 <
      (statement b ScriptedCursor.cursor own).reach t + 2 := by
    have hle := CursorScript.length_placesAfter_le b script 0
    show _ < t.cursor.script.outcomes.length - t.cursor.position + 2
    rw [hclear.script_eq, hclear.position_eq]
    omega
  have hloop := (follows_consumeAll sink own rfl hfuel hclear
    { sql, warnings := ws }).bind fun result u hu =>
      (Follows.log .debug .walking
        ("Walked " ++ toString result.outcomes.length ++ " outcome(s)") u).bind
          fun _ v hv => Follows.pure result (hv ▸ hu)
  simpa [WalkResult.ofDone] using hloop

/-- The steps of a walk. Without a text there is nothing to run. -/
def stepsOf (b : Backend) (own : Option Prepared) (sql : Option String)
    (s : Session ScriptedCursor) : List Step :=
  if own.isNone && sql.isNone then [CursorScript.failedStep nothingToRun]
  else Step.opening sql s.pending (s.cursor.script.steps b s.cursor.pending)

theorem walkOf_of_arrive_error {p : Step} {isTable : Bool} {f : Fault} (sql : Option String)
    (h : p.arrive isTable = .error f) (rest : List Step) :
    walkOf sink sql (p :: rest) = Action.fail f := by
  rw [walkOf, course, Step.perform_of_arrive_error h]
  rfl

theorem walkOf_of_unreached {p : Step} {f : Fault} (sql : Option String) (h : p.reached = .error f)
    (rest : List Step) : walkOf sink sql (p :: rest) = Action.fail f := by
  rw [walkOf, course, Step.perform_of_unreached h]
  rfl

theorem walkOf_of_notices {p : Step} {ns : List Notice} (sql : Option String)
    (hr : p.reached = .ok ()) (hn : p.notices = .ok ns) (rest : List Step) :
    walkOf sink sql (p :: rest) = do
      let warnings ← reportNotices sink ns
      let outcome ← sink.settle p.outcome
      let done ← course sink rest
      Journal.note .debug .walking ("Walked " ++ toString (done.length + 1) ++ " outcome(s)")
      return .ofDone sql ((warnings, outcome) :: done) := by
  rw [walkOf, course, Step.perform_of_notices hr hn]
  simp only [bind_assoc, pure_bind, List.length_cons]

/-- A walk ends and writes as the course of its steps does. -/
theorem follows_walk (sink : Sink) (own : Option Prepared) (sql : Option String)
    (s : Session ScriptedCursor) :
    Follows (walk b.dialect sink (statement b ScriptedCursor.cursor own) sql) s
      (walkOf sink sql (stepsOf b own sql s)) Finished := by
  by_cases h : own.isNone && sql.isNone
  · obtain ⟨hown, hsql⟩ := Bool.and_eq_true_iff.mp h
    rw [stepsOf, if_pos h, walk, walkOf_of_unreached sql rfl]
    have hbegin : begin? (statement b ScriptedCursor.cursor own) sql = .error nothingToRun := by
      rw [Option.isNone_iff_eq_none.mp hown, Option.isNone_iff_eq_none.mp hsql]
      rfl
    have hstart : Performs (start (statement b ScriptedCursor.cursor own) sql) s
        (.ofExcept (.error nothingToRun)) s := by
      rw [start, hbegin]
      exact (Performs.ofExcept _ s).stop
    exact hstart.stop_follows
  · have hstart : own.isSome ∨ sql.isSome := by
      cases own <;> cases sql <;> simp at h ⊢
    obtain ⟨text, params, hbegin⟩ := begin?_statement (b := b) sql hstart
    rw [stepsOf, if_neg h, walk]
    cases hf : s.cursor.script.executeFault with
    | some f =>
        have ht := performs_start hbegin (run_execute_fault hf text params)
        rw [CursorScript.steps, hf, Step.opening, walkOf_of_unreached sql rfl]
        exact ht.stop_follows
    | none =>
        obtain ⟨t, ht, hreached⟩ := run_execute (b := b) hf text params rfl rfl rfl
        have hbegun := performs_start hbegin ht
        rw [CursorScript.steps, hf]
        dsimp only
        rw [CursorScript.stepsAt, Step.opening]
        cases ha : (s.cursor.script.stepAt b s.cursor.pending s.cursor.script.firstPlace).arrive
            s.cursor.script.firstPlace.outcome.isTable with
        | error f =>
            rw [ha] at hbegun
            rw [walkOf_of_arrive_error sql (by rw [Step.arrive_asFirst, ha]; rfl)]
            exact hbegun.stop_follows
        | ok v =>
            obtain ⟨hr, ⟨ns, hn⟩, rfl⟩ := Step.arrive_eq_ok ha
            rw [ha] at hbegun
            have hr' : ((s.cursor.script.stepAt b s.cursor.pending
                s.cursor.script.firstPlace).asFirst sql s.pending).reached = .ok () := by
              rw [Step.asFirst, hr]
              rfl
            have hn' : ((s.cursor.script.stepAt b s.cursor.pending
                s.cursor.script.firstPlace).asFirst sql s.pending).notices =
                  .ok (s.pending ++ ns) := by
              rw [Step.asFirst, hn]
              rfl
            rw [walkOf_of_notices sql hr' hn']
            exact hbegun.after_follows (follows_walk_started sql (hreached ns hr hn))

end Session

end StatementWalk
