import StatementWalk.Proofs.WalkTranscript

/-!
# Trouble with warnings

What the server said at a step is collected and written before the outcome of the step is made. A
notice that cannot be collected, or has no text, ends the walk there, and at the first step a fault
of collecting counts as a failed execution. Where neither happens, the outcomes or the fault of a
walk are those of the same script without any warnings.
-/

namespace StatementWalk

namespace Sink

/-- The answer to a line does not depend on what was written before. -/
def Steady (sink : Sink) : Prop := ∀ line, ∃ r, Ends (sink line) r

theorem steady_collecting : collecting.Steady := fun _ => ⟨.ok (), fun _ => rfl⟩

variable {sink : Sink}

theorem Steady.offerAll (h : sink.Steady) (lines : List String) :
    ∃ r, Ends (sink.offerAll lines) r := by
  induction lines with
  | nil => exact ⟨_, .pure ()⟩
  | cons line rest ih =>
      obtain ⟨r, hr⟩ := h line
      obtain ⟨q, hq⟩ := ih
      exact ⟨_, hr.bind fun _ => hq⟩

/-- How an outcome ends: with a fault of its own or of the sink, or made and written. -/
def settled (sink : Sink) (x : Noted Outcome) : Except Fault Outcome := ((sink.settle x).run {}).1

theorem Steady.settle (h : sink.Steady) (x : Noted Outcome) :
    Ends (sink.settle x) (sink.settled x) := by
  refine .of_exists ?_ {}
  have hact : Ends x.act x.result := fun j => by rw [x.run_act j]
  have hoffer (o : Outcome) : Ends (sink.offerAll o.written) ((sink.offerAll o.written).run {}).1 :=
    .of_exists (h.offerAll o.written) {}
  exact ⟨_, hact.bind fun o => (hoffer o).bind fun _ => .pure o⟩

end Sink

namespace Step

def texts (p : Step) : Except Fault (List String) := do
  (← p.notices).mapM fun n => n.classify.render

def ending (sink : Sink) (p : Step) : Except Fault Outcome := do
  p.reached
  let _ ← p.texts
  sink.settled p.outcome

def silent (p : Step) : Step := { p with notices := .ok [] }

variable {sink : Sink}

theorem ends_perform (h : sink.Steady) (p : Step) :
    Ends (Prod.snd <$> p.perform sink) (p.ending sink) := by
  cases hr : p.reached with
  | error f =>
      rw [perform_of_unreached hr, ending, hr]
      exact .ofExcept (.error f)
  | ok u =>
      cases hn : p.notices with
      | error f =>
          rw [perform_of_uncollected hr hn, ending, hr, texts, hn]
          exact .ofExcept (.error f)
      | ok ns =>
          have hall := (ends_emitAll sink ns).bind fun _ => h.settle p.outcome
          rw [perform_of_notices hr hn, ending, hr, texts, hn]
          simpa only [reportNotices, map_bind, map_pure, bind_assoc, pure_bind, bind_pure,
            except_ok_bind] using hall

theorem ending_of_unreached {p : Step} {f : Fault} (h : p.reached = .error f) :
    p.ending sink = .error f := by
  rw [ending, h]
  rfl

theorem ending_of_trouble {p : Step} {f : Fault} (hr : p.reached = .ok ())
    (h : p.texts = .error f) : p.ending sink = .error f := by
  rw [ending, hr, h]
  rfl

/-- Without trouble the warnings of a step have no effect. -/
theorem ending_of_texts {p : Step} {lines : List String} (h : p.texts = .ok lines) :
    p.ending sink = p.silent.ending sink := by
  rw [ending, h]
  rfl

end Step

theorem ends_course {sink : Sink} (h : sink.Steady) (steps : List Step) :
    Ends (List.map Prod.snd <$> course sink steps) (steps.mapM (Step.ending sink)) := by
  induction steps with
  | nil => exact .pure []
  | cons p rest ih =>
      have hcons := (p.ends_perform h).bind fun o => ih.bind fun os => .pure (o :: os)
      rw [course, List.mapM_cons]
      simpa only [map_eq_pure_bind, bind_assoc, pure_bind, List.map_cons] using hcons

/-- The first trouble with the warnings of a step that is reached. -/
def firstTrouble (sink : Sink) : List Step → Option Fault
  | [] => none
  | p :: rest =>
    match p.reached, p.texts, sink.settled p.outcome with
    | .error _, _, _ => none
    | .ok _, .error f, _ => some f
    | .ok _, .ok _, .error _ => none
    | .ok _, .ok _, .ok _ => firstTrouble sink rest

theorem firstTrouble_of_texts {sink : Sink} {p : Step} {rest : List Step} {f : Fault}
    (hr : p.reached = .ok ()) (h : p.texts = .error f) :
    firstTrouble sink (p :: rest) = some f := by
  rw [firstTrouble, hr, h]

/-- A course ends with the first trouble, or as it does where nothing is said. -/
theorem mapM_ending (sink : Sink) (steps : List Step) :
    steps.mapM (Step.ending sink) =
      match firstTrouble sink steps with
      | some f => .error f
      | none => (steps.map Step.silent).mapM (Step.ending sink) := by
  induction steps with
  | nil => rfl
  | cons p rest ih =>
      rw [List.map_cons, List.mapM_cons, List.mapM_cons, firstTrouble]
      cases hr : p.reached with
      | error f =>
          have hsilent : p.silent.ending sink = .error f := Step.ending_of_unreached hr
          rw [Step.ending_of_unreached hr, hsilent]
          rfl
      | ok u =>
          cases ht : p.texts with
          | error f =>
              rw [Step.ending_of_trouble hr ht]
              rfl
          | ok lines =>
              rw [Step.ending_of_texts ht]
              have hsilent : p.silent.ending sink = sink.settled p.outcome := by
                rw [Step.ending]
                show (p.reached >>= fun _ => _) = _
                rw [hr]
                rfl
              rw [hsilent]
              cases hs : sink.settled p.outcome with
              | error f => rfl
              | ok o =>
                  rw [except_ok_bind, except_ok_bind, ih]
                  dsimp only
                  cases firstTrouble sink rest <;> rfl

theorem ends_walkOf {sink : Sink} (h : sink.Steady) (sql : Option String) (steps : List Step) :
    Ends (WalkResult.outcomes <$> walkOf sink sql steps) (steps.mapM (Step.ending sink)) := by
  have hnote (n : Nat) :
      Ends (Journal.note .debug .walking ("Walked " ++ toString n ++ " outcome(s)")) (.ok ()) :=
    fun _ => rfl
  have hall := (ends_course h steps).bind fun os => (hnote os.length).bind fun _ => .pure os
  simpa only [walkOf, WalkResult.ofDone, map_eq_pure_bind, bind_assoc, pure_bind, List.length_map,
    except_ok_bind, bind_pure] using hall

def Place.silenced (q : Place) : Place := { q with messages := [], notices := [] }

namespace CursorScript

def silenced (script : CursorScript) : CursorScript :=
  { script with messages := [], notices := [], warning := none }

variable {b : Backend} {script : CursorScript}

theorem placesFrom_silenced (k : Nat) (os : List OutcomeScript) :
    script.silenced.placesFrom k os = (script.placesFrom k os).map Place.silenced := by
  induction os generalizing k with
  | nil => rfl
  | cons o rest ih => rw [placesFrom, placesFrom, List.map_cons, ih]; rfl

theorem places_silenced :
    script.silenced.firstPlace :: script.silenced.placesAfter b 0 =
      (script.firstPlace :: script.placesAfter b 0).map Place.silenced := by
  have houtcomes : script.silenced.outcomes = script.outcomes := rfl
  have hfirst : script.silenced.firstPlace = script.firstPlace.silenced := by
    unfold firstPlace
    rw [houtcomes]
    cases script.outcomes <;> rfl
  have hafter : script.silenced.placesAfter b 0 = (script.placesAfter b 0).map Place.silenced := by
    show (if script.advances b then _ else _) = _
    unfold placesAfter
    split
    · exact placesFrom_silenced 1 _
    · rfl
  rw [List.map_cons, hfirst, hafter]

theorem announced_silenced (q : Place) : script.silenced.announced .null q.silenced = .null := by
  unfold announced
  split <;> rfl

/-- On a connection without notices nothing is collected. -/
theorem collected_silenced (q : Place) :
    script.silenced.collected b .null q.silenced =
      .ok ([], script.silenced.board .null q.silenced) := by
  unfold collected
  split
  · cases hd : b.dialect with
    | postgresql =>
        rw [Dialect.collect, board, announced_silenced]
        cases hc : script.silenced.connected <;> rfl
    | mssql => rfl
    | oracle => rfl
    | sqlite => rfl
    | mysql => rfl
    | plain => rfl
  · rfl

theorem kept_silenced (q : Place) : script.silenced.kept b .null q.silenced = .null := by
  rw [kept, collected_silenced]
  show (board _ _ _).pending.getD _ = _
  rw [board, announced_silenced]
  cases hc : script.silenced.connected <;> rfl

theorem stepAt_silenced (p : Value) (q : Place) :
    script.silenced.stepAt b .null q.silenced = (script.stepAt b p q).silent := by
  rw [stepAt, collected_silenced]
  rfl

theorem stepsAt_silenced (p : Value) (places : List Place) :
    script.silenced.stepsAt b .null (places.map Place.silenced) =
      (script.stepsAt b p places).map Step.silent := by
  induction places generalizing p with
  | nil => rfl
  | cons q rest ih =>
      rw [List.map_cons, stepsAt, stepsAt, List.map_cons, stepAt_silenced p, kept_silenced,
        ih (script.kept b p q)]

/-- The steps of a script without warnings are the steps of the script, with nothing said. -/
theorem steps_silenced (p : Value) :
    script.silenced.steps b .null = (script.steps b p).map Step.silent := by
  have hexec : script.silenced.executeFault = script.executeFault := rfl
  unfold steps
  rw [hexec]
  cases script.executeFault with
  | some f => rfl
  | none =>
      show script.silenced.stepsAt b .null _ = (script.stepsAt b p _).map Step.silent
      rw [places_silenced, stepsAt_silenced p]

end CursorScript

def ScriptedCursor.silenced (c : ScriptedCursor) : ScriptedCursor :=
  .ofScript c.script.silenced .null

namespace Session

variable {b : Backend} {sink : Sink} {own : Option Prepared} {sql : Option String}
  {c : ScriptedCursor}

theorem stepsOf_silenced :
    stepsOf b own sql (fresh c.silenced) = (stepsOf b own sql (fresh c)).map Step.silent := by
  unfold stepsOf
  split
  · rfl
  · show Step.opening sql [] (c.script.silenced.steps b .null) =
      (Step.opening sql [] (c.script.steps b c.pending)).map Step.silent
    rw [CursorScript.steps_silenced c.pending]
    cases c.script.steps b c.pending <;> rfl

theorem result_walk (hsink : sink.Steady) (j : Journal) :
    ((walk b.dialect sink (statement b ScriptedCursor.cursor own) sql).run ⟨fresh c, j⟩).1.map
        WalkResult.outcomes =
      (stepsOf b own sql (fresh c)).mapM (Step.ending sink) := by
  rw [(follows_walk (b := b) sink own sql (fresh c) j).1]
  have hends := ends_walkOf hsink sql (stepsOf b own sql (fresh c)) j
  rwa [Action.run_map] at hends

/-- A walk ends with the first trouble with warnings, or its outcomes or its fault are those of the
same script without any warnings. At the first step, a fault of collecting is reported as a failed
execution. -/
theorem walk_of_warnings (b : Backend) (sink : Sink) (own : Option Prepared) (sql : Option String)
    (c : ScriptedCursor) (j k : Journal) (hsink : sink.Steady) :
    (((walk b.dialect sink (statement b ScriptedCursor.cursor own) sql).run ⟨fresh c, j⟩).1.map
        WalkResult.outcomes =
      match firstTrouble sink (stepsOf b own sql (fresh c)) with
      | some f => .error f
      | none => ((walk b.dialect sink (statement b ScriptedCursor.cursor own) sql).run
          ⟨fresh c.silenced, k⟩).1.map WalkResult.outcomes) ∧
    ∀ f, own.isSome ∨ sql.isSome → c.script.executeFault = none →
      c.script.firstPlace.outcome.reached = .ok () →
      c.script.collected b c.pending c.script.firstPlace = .error f →
      firstTrouble sink (stepsOf b own sql (fresh c)) = some (executionFault sql f) := by
  refine ⟨?_, fun f htext hexec hreached hcollected => ?_⟩
  · rw [result_walk hsink, result_walk hsink, stepsOf_silenced]
    exact mapM_ending sink _
  · have hstart : (own.isNone && sql.isNone) = false := by
      cases own <;> cases sql <;> simp at htext ⊢
    have hsteps : stepsOf b own sql (fresh c) =
        (c.script.stepAt b c.pending c.script.firstPlace).asFirst sql [] ::
          c.script.stepsAt b (c.script.kept b c.pending c.script.firstPlace)
            (c.script.placesAfter b 0) := by
      rw [stepsOf, hstart]
      show Step.opening sql [] (c.script.steps b c.pending) = _
      rw [CursorScript.steps, hexec]
      rfl
    rw [hsteps]
    refine firstTrouble_of_texts ?_ ?_
    · show (c.script.firstPlace.outcome.reached).mapError _ = _
      rw [hreached]
      rfl
    · have hnotices : (c.script.stepAt b c.pending c.script.firstPlace).notices = .error f := by
        rw [CursorScript.stepAt, hcollected]
        rfl
      rw [Step.texts, Step.asFirst, hnotices]
      rfl

end Session

def countAndWarning : CursorScript where
  outcomes := [.count (.int 0)]
  warning := some (.object "drv" "W" "<obj>" false
    [("code", .attribute (.int 1)), ("full_code", .attribute (.int 5)),
      ("message", .attribute (.text "bad state type"))])

theorem collected_countAndWarning :
    ∃ f, countAndWarning.collected (.ofDialect .oracle) .null countAndWarning.firstPlace =
      .error f :=
  ⟨_, rfl⟩

/-- The driver executes, and yet the walk reports that the execution failed. Without the warning it
succeeds. -/
theorem walk_fails_on_warning :
    ((ScriptedCursor.cursor.execute "select" none).run (.ofScript countAndWarning .null)).1 =
      .ok () ∧
    (∃ f, ((walk .oracle Sink.collecting
        (Session.statement (.ofDialect .oracle) ScriptedCursor.cursor none) (some "select")).run
      ⟨Session.fresh (.ofScript countAndWarning .null), {}⟩).1 =
        .error (executionFault (some "select") f)) ∧
    ∃ r, ((walk .oracle Sink.collecting
        (Session.statement (.ofDialect .oracle) ScriptedCursor.cursor none) (some "select")).run
      ⟨Session.fresh (ScriptedCursor.ofScript countAndWarning .null).silenced, {}⟩).1 = .ok r := by
  refine ⟨rfl, ?_, ?_⟩
  · obtain ⟨f, hf⟩ := collected_countAndWarning
    refine ⟨f, (Session.follows_walk (b := .ofDialect .oracle) Sink.collecting none (some "select")
      (Session.fresh (.ofScript countAndWarning .null)) {}).1.trans ?_⟩
    have harrive : ((countAndWarning.stepAt (.ofDialect .oracle) .null
        countAndWarning.firstPlace).asFirst (some "select") []).arrive false =
          .error (executionFault (some "select") f) := by
      rw [CursorScript.stepAt, hf]
      rfl
    show ((walkOf Sink.collecting (some "select")
      [(countAndWarning.stepAt (.ofDialect .oracle) .null
        countAndWarning.firstPlace).asFirst (some "select") []]).run {}).1 = _
    rw [Session.walkOf_of_arrive_error _ harrive]
    rfl
  · have hsteps : List.Forall₂ (Step.Succeeds Sink.collecting)
        (Session.stepsOf (.ofDialect .oracle) none (some "select")
          (Session.fresh (ScriptedCursor.ofScript countAndWarning .null).silenced))
        [{ kind := .updateCount, text := toString 0 ++ " row(s) affected", rowCount := 0 }] :=
      .cons (succeeds_count .oracle 0 [] (by decide) rfl rfl nofun rfl) .nil
    obtain ⟨r, w, hrun, -⟩ := Session.run_walk_of_succeeds hsteps {}
    exact ⟨r, congrArg Prod.fst hrun⟩

/-- The walk with the warning ends with the fault of collecting it. -/
theorem walk_ends_with_warning :
    Sink.collecting.Steady ∧ ∃ f, ((walk .oracle Sink.collecting
        (Session.statement (.ofDialect .oracle) ScriptedCursor.cursor none) (some "select")).run
      ⟨Session.fresh (.ofScript countAndWarning .null), {}⟩).1.map WalkResult.outcomes =
        .error (executionFault (some "select") f) := by
  obtain ⟨hresult, hfirst⟩ := Session.walk_of_warnings (.ofDialect .oracle) Sink.collecting none
    (some "select") (.ofScript countAndWarning .null) {} {} Sink.steady_collecting
  obtain ⟨f, hf⟩ := collected_countAndWarning
  rw [hfirst f (.inr rfl) rfl rfl hf] at hresult
  exact ⟨Sink.steady_collecting, f, hresult⟩

end StatementWalk
