import StatementWalk.Proofs.Ending
import StatementWalk.Proofs.NoticeCodes
import StatementWalk.Proofs.OutcomeReport
import StatementWalk.Proofs.WalkCourse

/-!
# Every outcome is reported once

Where no call fails and every integer is short enough to be written, a walk succeeds, and its
outcomes are the reports of the outcomes of the script, one each, in the order of the driver. An
integer of more than 4300 digits is the exception: it normalizes, but it has no text, and the walk
fails on it.
-/

namespace StatementWalk

open Number

theorem run_reportNotices_ok (sink : Sink) {ns : List Notice}
    (h : ∀ n ∈ ns, n.code.natAbs < digitBound) (j : Journal) :
    ∃ k, (reportNotices sink ns).run j = (.ok (ns.map Notice.classify), k) := by
  obtain ⟨lines, hlines, -⟩ := mapM_eq_ok (f := fun n : Notice => n.classify.render)
    fun n hn => Notice.render_eq_ok (h n hn)
  have hends := ends_reportNotices sink ns
  rw [hlines] at hends
  exact hends.run j

theorem run_offerAll_ok {sink : Sink} {lines : List String} (h : ∀ line ∈ lines, sink.Takes line)
    (j : Journal) : ∃ k, (sink.offerAll lines).run j = (.ok (), k) := by
  induction lines generalizing j with
  | nil => exact ⟨j, rfl⟩
  | cons line rest ih =>
      obtain ⟨k, hk⟩ := h line (List.mem_cons_self ..) j
      obtain ⟨l, hl⟩ := ih (fun x hx => h x (List.mem_cons_of_mem _ hx)) k
      refine ⟨l, ?_⟩
      rw [Sink.offerAll, Action.run_bind_ok hk]
      exact hl

theorem run_settle_ok {sink : Sink} {x : Noted Outcome} {o : Outcome} (hx : x.result = .ok o)
    (h : ∀ line ∈ o.written, sink.Takes line) (j : Journal) :
    ∃ k, (sink.settle x).run j = (.ok o, k) := by
  have hact := x.run_act j
  rw [hx] at hact
  obtain ⟨k, hk⟩ := run_offerAll_ok h (j.addRecords x.notes)
  refine ⟨k, ?_⟩
  rw [Sink.settle, Action.run_bind_ok hact, Action.run_bind_ok hk]
  rfl

structure Step.Succeeds (sink : Sink) (p : Step) (o : Outcome) : Prop where
  reached : p.reached = .ok ()
  notices : ∃ ns, p.notices = .ok ns ∧ ∀ n ∈ ns, n.code.natAbs < digitBound
  outcome : p.outcome.result = .ok o
  taken : ∀ line ∈ o.written, sink.Takes line

theorem Step.Succeeds.run_perform {sink : Sink} {p : Step} {o : Outcome} (h : p.Succeeds sink o)
    (j : Journal) : ∃ ws k, (p.perform sink).run j = (.ok (ws, o), k) := by
  obtain ⟨ns, hns, hcodes⟩ := h.notices
  obtain ⟨k, hk⟩ := run_reportNotices_ok sink hcodes j
  obtain ⟨l, hl⟩ := run_settle_ok h.outcome h.taken k
  refine ⟨ns.map Notice.classify, l, ?_⟩
  rw [Step.perform_of_notices h.reached hns, Action.run_bind_ok hk, Action.run_bind_ok hl]
  rfl

theorem run_course_ok {sink : Sink} {steps : List Step} {os : List Outcome}
    (h : List.Forall₂ (Step.Succeeds sink) steps os) (j : Journal) :
    ∃ done k, (course sink steps).run j = (.ok done, k) ∧ done.map Prod.snd = os := by
  induction h generalizing j with
  | nil => exact ⟨[], j, rfl, rfl⟩
  | cons hp _ ih =>
      obtain ⟨ws, k, hk⟩ := hp.run_perform j
      obtain ⟨done, l, hl, hdone⟩ := ih k
      refine ⟨(ws, _) :: done, l, ?_, by rw [List.map_cons, hdone]⟩
      rw [course, Action.run_bind_ok hk, Action.run_bind_ok hl]
      rfl

namespace CursorScript

variable {b : Backend} {script : CursorScript}

/-- The outcomes that a walk visits: all of them, or the first one where it cannot go on. -/
def walked (b : Backend) (script : CursorScript) : List OutcomeScript :=
  if script.advances b then script.outcomes else script.outcomes.take 1

theorem map_outcome_places (h : script.outcomes ≠ []) :
    (script.firstPlace :: script.placesAfter b 0).map Place.outcome = script.walked b := by
  unfold firstPlace placesAfter walked
  cases hos : script.outcomes with
  | nil => exact absurd hos h
  | cons o rest =>
      cases script.advances b with
      | true =>
          simp only [if_true, List.map_cons, map_outcome_placesFrom]
          rfl
      | false => rfl

/-- Each place makes a step with the outcome of the place. -/
theorem forall₂_stepsAt (script : CursorScript) (b : Backend) (p : Value) (places : List Place) :
    List.Forall₂ (fun step o => step.reached = OutcomeScript.reached o ∧
      step.outcome = o.form b.dialect script.countsRows)
      (script.stepsAt b p places) (places.map Place.outcome) := by
  induction places generalizing p with
  | nil => exact .nil
  | cons q rest ih => exact .cons ⟨rfl, rfl⟩ (ih (script.kept b p q))

end CursorScript

namespace Session

variable {b : Backend} {sink : Sink} {own : Option Prepared} {sql : Option String}
  {s : Session ScriptedCursor}

theorem forall₂_stepsOf (htext : own.isSome ∨ sql.isSome)
    (hexec : s.cursor.script.executeFault = none) (hsome : s.cursor.script.outcomes ≠ []) :
    List.Forall₂ (fun step o => (OutcomeScript.reached o = .ok () → step.reached = .ok ()) ∧
      step.outcome = o.form b.dialect s.cursor.script.countsRows)
      (stepsOf b own sql s) (s.cursor.script.walked b) := by
  have hstart : (own.isNone && sql.isNone) = false := by
    cases own <;> cases sql <;> simp at htext ⊢
  rw [stepsOf, hstart, CursorScript.steps, hexec, ← CursorScript.map_outcome_places hsome]
  have hsteps := s.cursor.script.forall₂_stepsAt b s.cursor.pending
    (s.cursor.script.firstPlace :: s.cursor.script.placesAfter b 0)
  cases hsteps with
  | cons hfirst hrest =>
      refine .cons ⟨fun hr => ?_, hfirst.2⟩
        (hrest.imp fun step o h => ⟨fun hr => h.1.trans hr, h.2⟩)
      rw [Step.asFirst, hfirst.1.trans hr]
      rfl

theorem reached_of_regular {d : Dialect} {counted : Bool} {o : OutcomeScript}
    (h : o.Regular d counted) : o.reached = .ok () := by
  cases o with
  | failing f => exact h.elim
  | rows entries items fault => rfl
  | count v => rfl

/-- Steps that make regular outcomes succeed, each with the report of its outcome. -/
theorem exists_succeeds {d : Dialect} {counted : Bool} {steps : List Step}
    {os : List OutcomeScript}
    (h : List.Forall₂ (fun step o => (OutcomeScript.reached o = .ok () → step.reached = .ok ()) ∧
      step.outcome = o.form d counted) steps os)
    (hregular : ∀ o ∈ os, o.Regular d counted) (hwritable : ∀ o ∈ os, o.Writable d counted)
    (hwarnings : ∀ step ∈ steps, ∃ ns, step.notices = .ok ns ∧ ∀ n ∈ ns, n.code.natAbs < digitBound)
    (hsink : ∀ o ∈ os, ∀ outcome, o.Reports d counted outcome →
      ∀ line ∈ outcome.written, sink.Takes line) :
    ∃ outcomes, List.Forall₂ (Step.Succeeds sink) steps outcomes ∧
      List.Forall₂ (OutcomeScript.Reports d counted) os outcomes := by
  induction h with
  | nil => exact ⟨[], .nil, .nil⟩
  | @cons step o steps os hstep _ ih =>
      obtain ⟨outcome, hform, hreport⟩ := OutcomeScript.form_eq_ok
        (hregular o (List.mem_cons_self ..)) (hwritable o (List.mem_cons_self ..))
      obtain ⟨outcomes, hsteps, hreports⟩ := ih (fun x hx => hregular x (List.mem_cons_of_mem _ hx))
        (fun x hx => hwritable x (List.mem_cons_of_mem _ hx))
        (fun x hx => hwarnings x (List.mem_cons_of_mem _ hx))
        (fun x hx => hsink x (List.mem_cons_of_mem _ hx))
      refine ⟨outcome :: outcomes, .cons ?_ hsteps, .cons hreport hreports⟩
      exact ⟨hstep.1 (reached_of_regular (hregular o (List.mem_cons_self ..))),
        hwarnings step (List.mem_cons_self ..), by rw [hstep.2]; exact hform,
        hsink o (List.mem_cons_self ..) outcome hreport⟩

/-- A walk all of whose steps succeed succeeds, with their outcomes. -/
theorem run_walk_of_succeeds {outcomes : List Outcome}
    (h : List.Forall₂ (Step.Succeeds sink) (stepsOf b own sql s) outcomes) (j : Journal) :
    ∃ r w, (walk b.dialect sink (statement b ScriptedCursor.cursor own) sql).run ⟨s, j⟩ =
      (.ok r, w) ∧ r.outcomes = outcomes := by
  obtain ⟨done, k, hdone, rfl⟩ := run_course_ok h j
  have hcourse : ((walkOf sink sql (stepsOf b own sql s)).run j).1 = .ok (.ofDone sql done) := by
    rw [walkOf, Action.run_bind_ok hdone]
    rfl
  have hwalk := (follows_walk (b := b) sink own sql s j).1
  rw [hcourse] at hwalk
  exact ⟨.ofDone sql done, _, Prod.ext hwalk rfl, rfl⟩

/-- A walk of a single step in which nothing is said and nothing fails. -/
theorem run_walk_of_step {p : Step} {o : Outcome} (hsteps : stepsOf b own sql s = [p])
    (hreached : p.reached = .ok ()) (hnotices : p.notices = .ok [])
    (houtcome : p.outcome.result = .ok o)
    (hsink : ∀ line ∈ o.written, sink.Takes line) (j : Journal) :
    ∃ w, (walk b.dialect sink (statement b ScriptedCursor.cursor own) sql).run ⟨s, j⟩ =
      (.ok { sql, outcomes := [o] }, w) := by
  obtain ⟨k, hk⟩ := run_settle_ok houtcome hsink j
  have hcourse : ((walkOf sink sql (stepsOf b own sql s)).run j).1 =
      .ok { sql, outcomes := [o] } := by
    have hreport : (reportNotices sink []).run j = (.ok [], j) := rfl
    rw [hsteps, walkOf_of_notices sql hreached hnotices, Action.run_bind_ok hreport,
      Action.run_bind_ok hk]
    rfl
  have hwalk := (follows_walk (b := b) sink own sql s j).1
  rw [hcourse] at hwalk
  exact ⟨_, Prod.ext hwalk rfl⟩

/-- A walk in which nothing fails succeeds, and it reports every outcome once, in driver order. -/
theorem walk_reports_every_outcome (b : Backend) (sink : Sink) (own : Option Prepared)
    (sql : Option String) (s : Session ScriptedCursor) (j : Journal)
    (htext : own.isSome ∨ sql.isSome) (hexec : s.cursor.script.executeFault = none)
    (hsome : s.cursor.script.outcomes ≠ [])
    (hregular : ∀ o ∈ s.cursor.script.walked b, o.Regular b.dialect s.cursor.script.countsRows)
    (hwritable : ∀ o ∈ s.cursor.script.walked b, o.Writable b.dialect s.cursor.script.countsRows)
    (hwarnings : ∀ step ∈ stepsOf b own sql s,
      ∃ ns, step.notices = .ok ns ∧ ∀ n ∈ ns, n.code.natAbs < digitBound)
    (hsink : ∀ o ∈ s.cursor.script.walked b, ∀ outcome,
      o.Reports b.dialect s.cursor.script.countsRows outcome →
        ∀ line ∈ outcome.written, sink.Takes line) :
    ∃ r w, (walk b.dialect sink (statement b ScriptedCursor.cursor own) sql).run ⟨s, j⟩ =
        (.ok r, w) ∧
      List.Forall₂ (OutcomeScript.Reports b.dialect s.cursor.script.countsRows)
        (s.cursor.script.walked b) r.outcomes ∧
      r.outcomes.length =
        if s.cursor.script.advances b then s.cursor.script.outcomes.length else 1 := by
  obtain ⟨outcomes, hsteps, hreports⟩ := exists_succeeds (forall₂_stepsOf htext hexec hsome)
    hregular hwritable hwarnings hsink
  obtain ⟨r, w, hrun, rfl⟩ := run_walk_of_succeeds hsteps j
  refine ⟨r, w, hrun, hreports, ?_⟩
  rw [← hreports.length_eq, CursorScript.walked]
  have hpos := List.length_pos_iff.mpr hsome
  split
  · rfl
  · rw [List.length_take]
    omega

end Session

open Dialect

def integerColumn : Column where
  position := 1
  label := "n"
  className := "builtins.int"
  typeName := some "INTEGER"
  typeCode := .typeRef "builtins" "int"

def integerEntry : Entry :=
  [.text "n", .typeRef "builtins" "int", .null, .null, .int 10, .int 0, .bool true]

theorem describeAll_integerEntry :
    Dialect.mssql.describeAll 1 [integerEntry] = .ok [integerColumn] := rfl

theorem conversionTarget?_integerColumn :
    Dialect.mssql.conversionTarget? integerColumn = some "INTEGER" := by decide

theorem toInt_powerOfTen (n : Nat) :
    (Decimal.finite false 1 n).toInt = .ok ((10 ^ n : Nat) : Int) := by
  have hneg : ¬ (n : Int) < -((toString 1).length : Int) := by omega
  rw [Decimal.toInt, if_neg hneg]
  simp [Decimal.truncate]

theorem readObject_powerOfTen (n : Nat) :
    Dialect.mssql.readObject (.decimal (.finite false 1 n)) integerColumn =
      .ok (.int ((10 ^ n : Nat) : Int)) := by
  have hread : (Value.decimal (.finite false 1 n)).toInteger = .ok ((10 ^ n : Nat) : Int) :=
    toInt_powerOfTen n
  unfold readObject
  rw [conversionTarget?_integerColumn]
  dsimp only
  rw [hread]

theorem normalForm_powerOfTen (n : Nat) :
    (Dialect.mssql.normalForm integerColumn (.ok (.decimal (.finite false 1 n)))).result =
      .ok (.int ((10 ^ n : Nat) : Int)) := by
  rw [normalForm, except_ok_bind, readObject_powerOfTen]
  exact corrected_int _ _ _ _

theorem takes_collecting (line : String) : Sink.collecting.Takes line := fun _ => ⟨_, rfl⟩

def tableAndCount : CursorScript where
  outcomes := [.rows [integerEntry] [.list [.decimal (.finite false 1 2)]] none, .count (.int 3)]

theorem regular_tableAndCount : ∀ o ∈ tableAndCount.walked (.ofDialect .mssql),
    o.Regular .mssql tableAndCount.countsRows := by
  intro o ho
  rcases List.mem_pair.mp ho with rfl | rfl
  · refine ⟨nofun, [integerColumn], describeAll_integerEntry, fun v hv => ?_⟩
    obtain rfl := List.mem_singleton.mp hv
    refine ⟨_, rfl, rfl, fun c hc => ?_⟩
    obtain rfl := List.mem_singleton.mp hc
    exact ⟨_, normalForm_powerOfTen 2⟩
  · exact fun _ => .inr ⟨3, rfl⟩

theorem writable_tableAndCount : ∀ o ∈ tableAndCount.walked (.ofDialect .mssql),
    o.Writable .mssql tableAndCount.countsRows := by
  intro o ho
  rcases List.mem_pair.mp ho with rfl | rfl
  · refine ⟨lt_digitBound (by decide), fun columns v raw c w hcolumns hv hraw hc hw => ?_⟩
    obtain rfl := Except.ok.inj (describeAll_integerEntry.symm.trans hcolumns)
    obtain rfl := List.mem_singleton.mp hv
    obtain rfl := List.mem_singleton.mp hc
    obtain rfl := Except.ok.inj hraw
    obtain rfl := Except.ok.inj ((normalForm_powerOfTen 2).symm.trans hw)
    intro n hn
    obtain rfl := Value.int.inj hn
    exact lt_digitBound (by decide)
  · exact lt_digitBound (by decide)

theorem walk_reports_table_and_count :
    ∃ r w, (walk .mssql Sink.collecting
        (Session.statement (.ofDialect .mssql) ScriptedCursor.cursor none) (some "select n")).run
          ⟨Session.fresh (.ofScript tableAndCount .null), {}⟩ = (.ok r, w) ∧
      List.Forall₂ (OutcomeScript.Reports .mssql true) tableAndCount.outcomes r.outcomes ∧
      r.outcomes.length = 2 :=
  Session.walk_reports_every_outcome (.ofDialect .mssql) Sink.collecting none (some "select n")
    (Session.fresh (.ofScript tableAndCount .null)) {} (.inr rfl) rfl (List.cons_ne_nil _ _)
    regular_tableAndCount writable_tableAndCount
    (fun step hstep => by
      rcases List.mem_pair.mp hstep with rfl | rfl
      · exact ⟨[], rfl, nofun⟩
      · exact ⟨[], rfl, nofun⟩)
    fun _ _ _ _ line _ => takes_collecting line

def longIntegerScript : CursorScript where
  outcomes := [.rows [integerEntry] [.list [.decimal (.finite false 1 digitLimit)]] none]

def longIntegerStep : Step where
  reached := .ok ()
  notices := .ok []
  outcome := (OutcomeScript.rows [integerEntry] [.list [.decimal (.finite false 1 digitLimit)]]
    none).form .mssql true

theorem form_longInteger : longIntegerStep.outcome.result =
      .error (.badValue (limitMessage ++ limitAdvice)) := by
  have hcell : (Dialect.mssql.normalForm integerColumn
      (cellOf [.decimal (.finite false 1 digitLimit)] 1)).result = .ok (.int digitBound) := by
    rw [digitBound_eq]
    exact normalForm_powerOfTen digitLimit
  have hrow : (Dialect.mssql.normalRow [.decimal (.finite false 1 digitLimit)]
      [integerColumn]).result = .ok [.int digitBound] := by
    refine Noted.result_bind_eq_ok.mpr ⟨_, hcell, Noted.result_bind_eq_ok.mpr ⟨[], rfl, rfl⟩⟩
  have hline : rowLine [.int digitBound] = .error (.badValue (limitMessage ++ limitAdvice)) := by
    have hlong : ¬ ((digitBound : Nat) : Int).natAbs < digitBound := by
      rw [Int.natAbs_natCast]
      exact Nat.lt_irrefl _
    rw [rowLine, List.mapM_cons, Value.cellText_int, intText_eq_error hlong]
    rfl
  rw [longIntegerStep, OutcomeScript.form, describeAll_integerEntry, Noted.ofExcept_ok_bind,
    tableForm_cons rfl rfl]
  simp only [Value.toRow, Noted.ofExcept_ok_bind, Noted.result_bind, hrow, except_ok_bind, hline,
    Noted.result_ofExcept, except_error_bind]

theorem run_settle_error (sink : Sink) {x : Noted Outcome} {f : Fault} (hx : x.result = .error f)
    (j : Journal) : (sink.settle x).run j = (.error f, j.addRecords x.notes) := by
  have hact := x.run_act j
  rw [hx] at hact
  exact Action.run_bind_error hact

/-- Nothing fails before the table is written out, and yet the walk fails: 10 ^ 4300 normalizes, and
has no text. -/
theorem walk_fails_on_long_integer :
    longIntegerScript.executeFault = none ∧ longIntegerScript.outcomes ≠ [] ∧
    (∀ o ∈ longIntegerScript.walked (.ofDialect .mssql),
      o.Regular .mssql longIntegerScript.countsRows) ∧
    (∀ step ∈ Session.stepsOf (.ofDialect .mssql) none (some "select n")
      (Session.fresh (.ofScript longIntegerScript .null)), step.notices = .ok []) ∧
    (∀ line, Sink.collecting.Takes line) ∧
    ((walk .mssql Sink.collecting
        (Session.statement (.ofDialect .mssql) ScriptedCursor.cursor none) (some "select n")).run
      ⟨Session.fresh (.ofScript longIntegerScript .null), {}⟩).1 =
        .error (.badValue (limitMessage ++ limitAdvice)) := by
  have hsteps : Session.stepsOf (.ofDialect .mssql) none (some "select n")
      (Session.fresh (.ofScript longIntegerScript .null)) = [longIntegerStep] := rfl
  refine ⟨rfl, List.cons_ne_nil _ _, ?_, ?_, takes_collecting, ?_⟩
  · intro o ho
    obtain rfl : o = .rows [integerEntry] [.list [.decimal (.finite false 1 digitLimit)]] none :=
      List.mem_singleton.mp ho
    refine ⟨nofun, [integerColumn], describeAll_integerEntry, fun v hv => ?_⟩
    obtain rfl : v = .list [.decimal (.finite false 1 digitLimit)] := List.mem_singleton.mp hv
    refine ⟨_, rfl, rfl, fun c hc => ?_⟩
    obtain rfl : c = integerColumn := List.mem_singleton.mp hc
    exact ⟨_, normalForm_powerOfTen digitLimit⟩
  · intro step hstep
    rw [hsteps] at hstep
    obtain rfl := List.mem_singleton.mp hstep
    rfl
  · refine (Session.follows_walk (b := .ofDialect .mssql) Sink.collecting none (some "select n")
      (Session.fresh (.ofScript longIntegerScript .null)) {}).1.trans ?_
    have hsettle := run_settle_error Sink.collecting form_longInteger {}
    have hreport : (reportNotices Sink.collecting []).run {} = (.ok [], {}) := rfl
    rw [hsteps, Session.walkOf_of_notices (p := longIntegerStep) _ rfl rfl,
      Action.run_bind_ok hreport, Action.run_bind_error hsettle]

end StatementWalk
