import StatementWalk.Proofs.EveryOutcome
import StatementWalk.Proofs.Transcript

/-!
# Transcripts of walks

With a sink that takes every line, a walk that succeeds has written the warnings and the outcome of
each step, in order, and nothing else. A walk that fails has written the same for the steps before
the one that failed, and of that one nothing or its warnings.
-/

namespace StatementWalk

open Number

namespace OutcomeScript

/-- A count of rows is an integer or missing. -/
def CountsInts (counted : Bool) : OutcomeScript → Prop
  | .count v => counted = true → v = .null ∨ ∃ n, v = .int n
  | _ => True

theorem lines_of_form {d : Dialect} {counted : Bool} {o : OutcomeScript} {outcome : Outcome}
    (h : (o.form d counted).result = .ok outcome) (hc : o.CountsInts counted) :
    outcome.lines = .ok outcome.written := by
  cases o with
  | failing f => cases h
  | rows entries items fault =>
      obtain ⟨columns, -, h⟩ := Noted.result_bind_eq_ok.mp h
      obtain ⟨table, -, h⟩ := Noted.result_bind_eq_ok.mp h
      obtain ⟨summary, hsummary, h⟩ := Noted.result_bind_eq_ok.mp h
      have hs : (tableOutcome columns table).summary = .ok summary := hsummary
      cases h
      rw [Outcome.lines, hs, except_ok_bind, Outcome.summary_eq_ok hs]
      rfl
  | count v =>
      have hform : (affected counted v >>= countOutcome) = .ok outcome := h
      rw [affected_eq_ok hc, except_ok_bind] at hform
      by_cases hfits : rowsAffected counted v < digitBound
      · rw [countOutcome_natCast hfits] at hform
        cases hform
        rw [Outcome.lines, Outcome.summary, countLine_natCast hfits]
        rfl
      · obtain ⟨text, n, htext, -, -⟩ := countOutcome_eq_ok hform
        rw [Value.display_int, intText_eq_error (by rw [Int.natAbs_natCast]; exact hfits)] at htext
        cases htext

end OutcomeScript

theorem WalkResult.outcomes_ofDone_reports (sql : Option String) (reports : List StepReport) :
    (ofDone sql (reports.map fun x => (x.warnings, x.outcome))).outcomes =
      reports.map StepReport.outcome := by
  rw [ofDone, List.map_map]
  rfl

theorem WalkResult.warnings_ofDone_reports (sql : Option String) (reports : List StepReport) :
    (ofDone sql (reports.map fun x => (x.warnings, x.outcome))).warnings =
      reports.flatMap StepReport.warnings := by
  show ((reports.map fun x => (x.warnings, x.outcome)).map Prod.fst).flatten = _
  rw [List.map_map, List.flatMap_def]
  rfl

/-- The lines of a result are the lines of its outcomes. -/
theorem WalkResult.lines_eq_ok {r : WalkResult} (h : ∀ o ∈ r.outcomes, o.lines = .ok o.written) :
    r.lines = .ok (r.outcomes.flatMap Outcome.written) := by
  have hmap : r.outcomes.mapM Outcome.lines = .ok (r.outcomes.map Outcome.written) := by
    generalize r.outcomes = os at h
    induction os with
    | nil => rfl
    | cons o rest ih =>
        rw [List.mapM_cons, h o (List.mem_cons_self ..), except_ok_bind,
          ih fun x hx => h x (List.mem_cons_of_mem _ hx)]
        rfl
  rw [lines, hmap, List.flatMap_def]
  rfl

namespace CursorScript

variable {b : Backend} {script : CursorScript}

theorem tidy_stepAt (p : Value) (q : Place) : (script.stepAt b p q).Tidy := by
  intro ns hns
  have hcollected : (script.collected b p q).map Prod.fst = .ok ns := hns
  unfold collected at hcollected
  split at hcollected
  · cases hcollect : b.dialect.collect (script.board p q) with
    | error f =>
        rw [hcollect] at hcollected
        cases hcollected
    | ok found =>
        rw [hcollect] at hcollected
        cases hcollected
        exact Dialect.collect_tidy hcollect
  · cases hcollected
    exact .inr (Nat.zero_le 1)

theorem mem_stepsAt {p : Value} {places : List Place} {step : Step}
    (h : step ∈ script.stepsAt b p places) :
    ∃ left, ∃ q ∈ places, step = script.stepAt b left q := by
  induction places generalizing p with
  | nil => cases h
  | cons q rest ih =>
      rcases List.mem_cons.mp h with rfl | h
      · exact ⟨p, q, List.mem_cons_self .., rfl⟩
      · obtain ⟨left, q', hq', hstep⟩ := ih h
        exact ⟨left, q', List.mem_cons_of_mem _ hq', hstep⟩

/-- A step that is reached stands at the first place or at a later one that is visited. -/
theorem mem_steps {p : Value} {step : Step} (h : step ∈ script.steps b p) :
    (∃ f, step = failedStep f) ∨
      ∃ left, ∃ q ∈ script.firstPlace :: script.placesAfter b 0, step = script.stepAt b left q := by
  unfold steps at h
  split at h
  · exact .inl ⟨_, List.mem_singleton.mp h⟩
  · exact .inr (mem_stepsAt h)

theorem tidy_failedStep (f : Fault) : (failedStep f).Tidy := by
  intro ns hns
  cases hns
  exact .inr (Nat.zero_le 1)

theorem tidy_of_mem_steps {p : Value} {step : Step} (h : step ∈ script.steps b p) : step.Tidy := by
  rcases mem_steps h with ⟨f, rfl⟩ | ⟨left, q, -, rfl⟩
  · exact tidy_failedStep f
  · exact tidy_stepAt left q

/-- A place is walked, or it is the one of a script without outcomes, which counts nothing. -/
theorem outcome_of_mem_places {q : Place} (h : q ∈ script.firstPlace :: script.placesAfter b 0) :
    q.outcome ∈ script.walked b ∨ q.outcome = .count (.int (-1)) := by
  have hmap := List.mem_map_of_mem (f := Place.outcome) h
  by_cases hsome : script.outcomes = []
  · have hnone : (script.firstPlace :: script.placesAfter b 0).map Place.outcome =
        [.count (.int (-1))] := by
      rw [placesAfter, firstPlace, hsome]
      simp [placesFrom]
    rw [hnone] at hmap
    exact .inr (List.mem_singleton.mp hmap)
  · rw [map_outcome_places hsome] at hmap
    exact .inl hmap

theorem lines_of_mem_steps {p : Value} {step : Step} (h : step ∈ script.steps b p)
    (hc : ∀ o ∈ script.walked b, o.CountsInts script.countsRows) {outcome : Outcome}
    (houtcome : step.outcome.result = .ok outcome) : outcome.lines = .ok outcome.written := by
  rcases mem_steps h with ⟨f, rfl⟩ | ⟨left, q, hq, rfl⟩
  · cases houtcome
  · refine OutcomeScript.lines_of_form houtcome ?_
    rcases outcome_of_mem_places hq with hwalked | hnone
    · exact hc _ hwalked
    · rw [hnone]
      exact fun _ => .inr ⟨-1, rfl⟩

end CursorScript

theorem exists_gives {steps : List Step} {reports : List StepReport}
    (h : List.Forall₂ Step.Gives steps reports) {r : StepReport} (hr : r ∈ reports) :
    ∃ step ∈ steps, step.Gives r := by
  induction h with
  | nil => cases hr
  | cons hgives _ ih =>
      rcases List.mem_cons.mp hr with rfl | hr
      · exact ⟨_, List.mem_cons_self .., hgives⟩
      · obtain ⟨step, hstep, hgives⟩ := ih hr
        exact ⟨step, List.mem_cons_of_mem _ hstep, hgives⟩

namespace Step

variable {p : Step} {sql : Option String}

/-- With nothing held back, a first step says what it says as any other step. -/
theorem notices_of_asFirst {ns : List Notice} (h : (p.asFirst sql []).notices = .ok ns) :
    p.notices = .ok ns := by
  cases hp : p.notices with
  | error f =>
      rw [asFirst, hp] at h
      cases h
  | ok ms =>
      rw [asFirst, hp] at h
      exact h

theorem Leaves.eq_nil {tail : List String} {f : Fault} (h : p.Leaves tail)
    (hf : p.reached = .error f) : tail = [] := by
  rcases h with rfl | ⟨ns, hreached, -, -⟩
  · rfl
  · rw [hf] at hreached
    cases hreached

theorem Tidy.asFirst (h : p.Tidy) : (p.asFirst sql []).Tidy :=
  fun ns hns => h ns (notices_of_asFirst hns)

theorem Gives.of_asFirst {r : StepReport} (h : (p.asFirst sql []).Gives r) : p.Gives r := by
  refine ⟨?_, notices_of_asFirst h.notices, h.said, h.outcome⟩
  have hreached := h.reached
  cases hp : p.reached with
  | error f =>
      rw [Step.asFirst, hp] at hreached
      cases hreached
  | ok u => rfl

end Step

namespace Session

variable {b : Backend} {sink : Sink} {own : Option Prepared} {sql : Option String}
  {c : ScriptedCursor}

theorem tidy_stepsOf (b : Backend) (own : Option Prepared) (sql : Option String)
    (c : ScriptedCursor) : ∀ p ∈ stepsOf b own sql (fresh c), p.Tidy := by
  unfold stepsOf
  split
  · intro p hp
    obtain rfl := List.mem_singleton.mp hp
    exact CursorScript.tidy_failedStep _
  · have htidy : ∀ step ∈ c.script.steps b c.pending, step.Tidy :=
      fun _ => CursorScript.tidy_of_mem_steps
    show ∀ p ∈ Step.opening sql [] (c.script.steps b c.pending), p.Tidy
    cases hsteps : c.script.steps b c.pending with
    | nil =>
        intro p hp
        cases hp
    | cons first rest =>
        rw [hsteps] at htidy
        intro p hp
        rcases List.mem_cons.mp hp with rfl | hp
        · exact (htidy first (List.mem_cons_self ..)).asFirst
        · exact htidy p (List.mem_cons_of_mem _ hp)

/-- The steps that a walk of a fresh session performs are those of the script. -/
theorem gives_of_stepsOf {rs : List StepReport}
    (h : List.Forall₂ Step.Gives (stepsOf b own sql (fresh c)) rs) :
    List.Forall₂ Step.Gives (c.script.steps b c.pending) rs := by
  unfold stepsOf at h
  split at h
  · cases h with
    | cons hfirst _ => cases hfirst.reached
  · have hsteps : List.Forall₂ Step.Gives (Step.opening sql [] (c.script.steps b c.pending)) rs := h
    revert hsteps
    cases c.script.steps b c.pending with
    | nil => exact id
    | cons first rest =>
        intro hsteps
        cases hsteps with
        | cons hfirst hrest => exact .cons hfirst.of_asFirst hrest

/-- Where the driver does not execute, the first step of a walk is not reached. -/
theorem unreached_of_execute_error (b : Backend) (own : Option Prepared) (sql : Option String)
    {text : String} {params : Option Value} {g : Fault}
    (h : ((ScriptedCursor.cursor.execute text params).run c).1 = .error g) :
    ∃ first rest f, stepsOf b own sql (fresh c) = first :: rest ∧ first.reached = .error f := by
  unfold stepsOf
  split
  · exact ⟨_, [], nothingToRun, rfl, rfl⟩
  · show ∃ first rest f, Step.opening sql [] (c.script.steps b c.pending) = first :: rest ∧ _
    unfold CursorScript.steps
    cases hf : c.script.executeFault with
    | some f => exact ⟨_, [], executionFault sql f, rfl, rfl⟩
    | none =>
        obtain ⟨c', hrun, -⟩ := ScriptedCursor.run_execute_place hf text params
        have hreached : c.script.firstPlace.outcome.reached = .error g := by
          have hexec : ((ScriptedCursor.execute text params).run c).1 = .error g := h
          rwa [hrun] at hexec
        refine ⟨_, _, executionFault sql g, rfl, ?_⟩
        show (c.script.firstPlace.outcome.reached).mapError _ = _
        rw [hreached]
        rfl

/-- What a walk of a fresh session does to the journal, whether it succeeds or fails. -/
theorem run_walk_fresh (b : Backend) (own : Option Prepared) (sql : Option String)
    (c : ScriptedCursor) (hsink : sink.Accepting) (j : Journal) :
    (∃ reports events w, List.Forall₂ Step.Gives (stepsOf b own sql (fresh c)) reports ∧
        (walk b.dialect sink (statement b ScriptedCursor.cursor own) sql).run ⟨fresh c, j⟩ =
          (.ok (.ofDone sql (reports.map fun r => (r.warnings, r.outcome))), w) ∧
        w.journal = sink.after events j ∧ offeredLines events = reports.flatMap StepReport.lines ∧
        Finished w.driver) ∨
      ∃ f reports step tail events w,
        List.Forall₂ Step.Gives ((stepsOf b own sql (fresh c)).take reports.length) reports ∧
        (stepsOf b own sql (fresh c))[reports.length]? = some step ∧ step.Leaves tail ∧
        (walk b.dialect sink (statement b ScriptedCursor.cursor own) sql).run ⟨fresh c, j⟩ =
          (.error f, w) ∧
        w.journal = sink.after events j ∧
        offeredLines events = reports.flatMap StepReport.lines ++ tail := by
  obtain ⟨hresult, hjournal, hfinished⟩ := follows_walk (b := b) sink own sql (fresh c) j
  rcases run_course hsink (tidy_stepsOf b own sql c) j with
    ⟨reports, events, hgives, hrun, hlines⟩ |
      ⟨f, reports, step, tail, events, hgives, hstep, hleaves, hrun, hlines⟩
  · rw [walkOf, Action.run_bind_ok hrun] at hresult hjournal hfinished
    refine .inl ⟨reports, events ++ [.noted ⟨.debug, .walking,
      "Walked " ++ toString (reports.map fun r => (r.warnings, r.outcome)).length ++
        " outcome(s)"⟩],
      _, hgives, Prod.ext hresult rfl, ?_, ?_, hfinished _ rfl⟩
    · rw [hjournal, Sink.after_append]
      rfl
    · rw [offeredLines_append, hlines]
      exact List.append_nil _
  · rw [walkOf, Action.run_bind_error hrun] at hresult hjournal
    exact .inr ⟨f, reports, step, tail, events, _, hgives, hstep, hleaves, Prod.ext hresult rfl,
      hjournal, hlines⟩

/-- A walk of a fresh session that succeeds offers the warnings and the lines of each step, in
order, and nothing else; its result has the same warnings and lines, and no warning is left. -/
theorem walk_offers_each_step (b : Backend) (sink : Sink) (own : Option Prepared)
    (sql : Option String) (c : ScriptedCursor) (j : Journal) (r : WalkResult)
    (w : World (Session ScriptedCursor)) (hsink : sink.Accepting)
    (hcounts : ∀ o ∈ c.script.walked b, o.CountsInts c.script.countsRows)
    (hrun : (walk b.dialect sink (statement b ScriptedCursor.cursor own) sql).run ⟨fresh c, j⟩ =
      (.ok r, w)) :
    ∃ reports events, List.Forall₂ Step.Gives (c.script.steps b c.pending) reports ∧
      (∀ x ∈ reports, x.outcome.lines = .ok x.outcome.written) ∧
      w.journal = sink.after events j ∧
      offeredLines events = reports.flatMap StepReport.lines ∧
      r.outcomes = reports.map StepReport.outcome ∧
      r.warnings = reports.flatMap StepReport.warnings ∧
      r.lines = .ok (reports.flatMap fun x => x.outcome.written) ∧
      w.driver.pending = [] := by
  rcases run_walk_fresh b own sql c hsink j with
    ⟨reports, events, w', hgives, hresult, hjournal, hlines, hfinished⟩ |
      ⟨f, _, _, _, _, _, _, _, _, hresult, _⟩
  · obtain ⟨hr, rfl⟩ := Prod.mk.inj (hrun.symm.trans hresult)
    obtain rfl := Except.ok.inj hr
    have hsteps := gives_of_stepsOf hgives
    have hwritten : ∀ x ∈ reports, x.outcome.lines = .ok x.outcome.written := by
      intro x hx
      obtain ⟨step, hstep, hx⟩ := exists_gives hsteps hx
      exact CursorScript.lines_of_mem_steps hstep hcounts hx.outcome
    have houtcomes := WalkResult.outcomes_ofDone_reports sql reports
    refine ⟨reports, events, hsteps, hwritten, hjournal, hlines, houtcomes,
      WalkResult.warnings_ofDone_reports sql reports, ?_, hfinished.pending_eq⟩
    rw [WalkResult.lines_eq_ok, houtcomes, List.flatMap_map]
    intro o ho
    rw [houtcomes] at ho
    obtain ⟨x, hx, rfl⟩ := List.mem_map.mp ho
    exact hwritten x hx
  · rw [hrun] at hresult
    cases hresult

end Session

def countsAndMessages : CursorScript where
  outcomes := [.count (.int 3), .count (.int 5)]
  messages := [[[.text "[01000] (0)", .text "begin"]],
    [[.text "[01000] (5701)", .text "[Microsoft][SQL Server]changed"]]]

theorem accepting_collecting : Sink.collecting.Accepting := fun _ _ => ⟨_, rfl⟩

theorem succeeds_count {p : Step} (d : Dialect) (n : Nat) (ns : List Notice) (hn : n < 10 ^ 4)
    (hreached : p.reached = .ok ()) (hnotices : p.notices = .ok ns)
    (hcodes : ∀ x ∈ ns, x.code.natAbs < digitBound)
    (houtcome : p.outcome = (OutcomeScript.count (.int n)).form d true) :
    p.Succeeds Sink.collecting
      { kind := .updateCount, text := toString n ++ " row(s) affected", rowCount := n } := by
  refine ⟨hreached, ⟨ns, hnotices, hcodes⟩, ?_, fun line _ => takes_collecting line⟩
  rw [houtcome]
  show (affected true (.int n) >>= countOutcome) = _
  rw [OutcomeScript.affected_eq_ok fun _ => .inr ⟨n, rfl⟩, except_ok_bind]
  exact OutcomeScript.countOutcome_natCast (lt_digitBound hn)

/-- The walk writes what was said before each count. -/
theorem walk_offers_messages_and_counts :
    ∃ r w reports, (walk .mssql Sink.collecting
        (Session.statement (.ofDialect .mssql) ScriptedCursor.cursor none) (some "update t")).run
          ⟨Session.fresh (.ofScript countsAndMessages .null), {}⟩ = (.ok r, w) ∧
      List.Forall₂ Step.Gives (countsAndMessages.steps (.ofDialect .mssql) .null) reports ∧
      w.journal.lines = reports.flatMap StepReport.lines ∧
      r.outcomes = reports.map StepReport.outcome ∧
      r.warnings = reports.flatMap StepReport.warnings ∧
      r.lines = .ok (reports.flatMap fun x => x.outcome.written) ∧
      w.driver.pending = [] := by
  have hsteps : List.Forall₂ (Step.Succeeds Sink.collecting)
      (Session.stepsOf (.ofDialect .mssql) none (some "update t")
        (Session.fresh (.ofScript countsAndMessages .null)))
      [{ kind := .updateCount, text := toString 3 ++ " row(s) affected", rowCount := 3 },
        { kind := .updateCount, text := toString 5 ++ " row(s) affected", rowCount := 5 }] := by
    refine .cons (succeeds_count .mssql 3 [{ code := 0, message := "begin" }] (by decide) rfl rfl
      ?_ rfl) (.cons (succeeds_count .mssql 5
        [{ code := 5701, state := some "01000", message := "changed" }] (by decide) rfl rfl
          ?_ rfl) .nil)
    · intro x hx
      obtain rfl := List.mem_singleton.mp hx
      exact lt_digitBound (by decide)
    · intro x hx
      obtain rfl := List.mem_singleton.mp hx
      exact lt_digitBound (by decide)
  have hcounts : ∀ o ∈ countsAndMessages.walked (.ofDialect .mssql),
      o.CountsInts countsAndMessages.countsRows := by
    intro o ho
    rcases List.mem_pair.mp ho with rfl | rfl
    · exact fun _ => .inr ⟨3, rfl⟩
    · exact fun _ => .inr ⟨5, rfl⟩
  obtain ⟨r, w, hrun, -⟩ := Session.run_walk_of_succeeds hsteps {}
  obtain ⟨reports, events, hgives, -, hjournal, hlines, houtcomes, hwarnings, hkept, hpending⟩ :=
    Session.walk_offers_each_step (.ofDialect .mssql) Sink.collecting none (some "update t")
      (.ofScript countsAndMessages .null) {} r w accepting_collecting hcounts hrun
  refine ⟨r, w, reports, hrun, hgives, ?_, houtcomes, hwarnings, hkept, hpending⟩
  rw [hjournal, Sink.lines_after_collecting, hlines]
  rfl

namespace Session

/-- A walk of a fresh session that fails has offered the lines of the steps before the one that
failed, and of that one nothing or its warnings. Nothing is offered where the statement does not
execute. -/
theorem walk_error_offers_prefix (b : Backend) (sink : Sink) (own : Option Prepared)
    (sql : Option String) (c : ScriptedCursor) (j : Journal) (f : Fault)
    (w : World (Session ScriptedCursor)) (hsink : sink.Accepting)
    (hrun : (walk b.dialect sink (statement b ScriptedCursor.cursor own) sql).run ⟨fresh c, j⟩ =
      (.error f, w)) :
    ∃ reports step tail events,
      List.Forall₂ Step.Gives ((stepsOf b own sql (fresh c)).take reports.length) reports ∧
      (stepsOf b own sql (fresh c))[reports.length]? = some step ∧ step.Leaves tail ∧
      w.journal = sink.after events j ∧
      offeredLines events = reports.flatMap StepReport.lines ++ tail ∧
      (∀ text params g, ((ScriptedCursor.cursor.execute text params).run c).1 = .error g →
        offeredLines events = []) := by
  rcases run_walk_fresh b own sql c hsink j with
    ⟨_, _, _, _, hresult, _⟩ |
      ⟨g, reports, step, tail, events, w', hgives, hstep, hleaves, hresult, hjournal, hlines⟩
  · rw [hrun] at hresult
    cases hresult
  · obtain ⟨-, rfl⟩ := Prod.mk.inj (hrun.symm.trans hresult)
    refine ⟨reports, step, tail, events, hgives, hstep, hleaves, hjournal, hlines, ?_⟩
    intro text params e he
    obtain ⟨first, rest, e', hsteps, hreached⟩ := unreached_of_execute_error b own sql he
    rw [hsteps] at hgives hstep
    cases reports with
    | cons x xs =>
        cases hgives with
        | cons hfirst _ =>
            have hok := hfirst.reached
            rw [hreached] at hok
            cases hok
    | nil =>
        obtain rfl : first = step := Option.some.inj hstep
        obtain rfl := hleaves.eq_nil hreached
        exact hlines

end Session

def countAndBrokenTable : CursorScript where
  outcomes := [.count (.int 3),
    .rows [[.text "c", .typeRef "builtins" "str", .null, .null, .null, .null, .bool true]]
      [.list [.text "a"], .list [.text "b"]] (some (1, .badValue "link failure"))]
  messages := [[], [[.text "[01000] (0)", .text "begin"]]]

/-- The walk over the broken table keeps the count and what was said, and no line of the table. -/
theorem walk_stops_within_table :
    ∃ f w reports step tail, (walk .mssql Sink.collecting
        (Session.statement (.ofDialect .mssql) ScriptedCursor.cursor none) (some "call p")).run
          ⟨Session.fresh (.ofScript countAndBrokenTable .null), {}⟩ = (.error f, w) ∧
      List.Forall₂ Step.Gives ((Session.stepsOf (.ofDialect .mssql) none (some "call p")
        (Session.fresh (.ofScript countAndBrokenTable .null))).take reports.length) reports ∧
      (Session.stepsOf (.ofDialect .mssql) none (some "call p")
        (Session.fresh (.ofScript countAndBrokenTable .null)))[reports.length]? = some step ∧
      step.Leaves tail ∧ w.journal.lines = reports.flatMap StepReport.lines ++ tail := by
  rcases Session.run_walk_fresh (.ofDialect .mssql) none (some "call p")
      (.ofScript countAndBrokenTable .null) accepting_collecting {} with
    ⟨reports, -, -, hgives, -⟩ | ⟨f, -, -, -, -, w, -, -, -, hrun, -⟩
  · cases hgives with
    | cons _ hrest =>
        cases hrest with
        | cons htable _ =>
            have hok := htable.outcome
            cases hok
  · obtain ⟨reports, step, tail, events, hgives, hstep, hleaves, hjournal, hlines, -⟩ :=
      Session.walk_error_offers_prefix (.ofDialect .mssql) Sink.collecting none (some "call p")
        (.ofScript countAndBrokenTable .null) {} f w accepting_collecting hrun
    refine ⟨f, w, reports, step, tail, hrun, hgives, hstep, hleaves, ?_⟩
    rw [hjournal, Sink.lines_after_collecting, hlines]
    rfl

end StatementWalk
