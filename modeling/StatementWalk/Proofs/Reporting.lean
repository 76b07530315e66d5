import StatementWalk.Proofs.Recording
import StatementWalk.Proofs.Transcript
import StatementWalk.Proofs.EveryOutcome

/-!
# Reporting a chain of warnings

A chain of `k` warnings makes `k` messages: each is offered to the sink once, in the order of the
chain, and a line that is refused does not keep the next one from being offered. Then the statement
is asked once to clear its warnings. A driver that fails to hand them out or to clear them stops
nothing. What does stop a report is a warning without a text, whose code has more digits than are
ever written: the lines before it have been offered, and nothing is cleared.
-/

namespace StatementWalk

open Number

namespace Sink

/-- The journal after a line was offered. A refusal is noted. -/
def offer (sink : Sink) (j : Journal) (line : String) : Journal :=
  match (sink line).run j with
  | (.ok _, k) => k
  | (.error f, k) => k.addRecord ⟨.debug, .warnings, "Warning sink failed: " ++ f.message⟩

def offers (sink : Sink) (lines : List String) (j : Journal) : Journal := lines.foldl sink.offer j

variable (sink : Sink)

@[simp] theorem offers_nil (j : Journal) : sink.offers [] j = j := rfl

@[simp] theorem offers_cons (line : String) (rest : List String) (j : Journal) :
    sink.offers (line :: rest) j = sink.offers rest (sink.offer j line) := rfl

variable {sink} in
theorem offer_of_ok {line : String} {j k : Journal} (h : (sink line).run j = (.ok (), k)) :
    sink.offer j line = k := by rw [offer, h]

variable {sink} in
theorem offer_of_error {line : String} {j k : Journal} {f : Fault}
    (h : (sink line).run j = (.error f, k)) :
    sink.offer j line = k.addRecord ⟨.debug, .warnings, "Warning sink failed: " ++ f.message⟩ := by
  rw [offer, h]

theorem run_emit (line : String) (j : Journal) :
    (emit sink line).run j = (.ok (), sink.offer j line) := by
  rw [emit, Action.run_bind_ok (Action.run_attempt (sink line) j)]
  cases hrun : (sink line).run j with
  | mk r k =>
      cases r with
      | ok u => rw [offer_of_ok hrun]; rfl
      | error f => rw [offer_of_error hrun]; rfl

/-- Keeps every line, and then refuses those of a kind. -/
def keeping (unwanted : String → Bool) (f : Fault) : Sink := fun line => do
  collecting line
  if unwanted line then Action.fail f

/-- No line is left out, offered again or offered out of turn, whichever lines are refused. -/
theorem lines_offers_keeping (unwanted : String → Bool) (f : Fault) (lines : List String)
    (j : Journal) : ((keeping unwanted f).offers lines j).lines = j.lines ++ lines := by
  induction lines generalizing j with
  | nil => simp
  | cons line rest ih =>
      have hoffer : ((keeping unwanted f).offer j line).lines = j.lines ++ [line] := by
        by_cases hline : unwanted line = true
        · have hrun : (keeping unwanted f line).run j = (.error f, j.addLine line) := by
            simp [keeping, hline, Action.run_bind, collecting]
          rw [offer_of_error hrun]
          rfl
        · have hrun : (keeping unwanted f line).run j = (.ok (), j.addLine line) := by
            simp [keeping, hline, collecting]
          rw [offer_of_ok hrun]
          rfl
      rw [offers_cons, ih, hoffer, List.append_assoc, List.singleton_append]

end Sink

theorem run_emitAll_append {ns : List Notice} {texts : List String} (h : Rendered ns texts)
    (sink : Sink) (more : List ClassifiedWarning) (j : Journal) :
    (emitAll sink (ns.map Notice.classify ++ more)).run j =
      (emitAll sink more).run (sink.offers texts j) := by
  induction h generalizing j with
  | nil => rfl
  | @cons n text ns texts hn hrest ih =>
      have htext : (Action.ofExcept n.classify.render : Action Journal String).run j =
          (.ok text, j) := by
        rw [hn]
        rfl
      rw [List.map_cons, List.cons_append, emitAll, Action.run_bind_ok htext,
        Action.run_bind_ok (sink.run_emit text j)]
      exact ih (sink.offer j text)

/-- A code that is too long to be written is no plain output, and has no text. -/
theorem Notice.render_eq_error {n : Notice} (h : ¬ n.code.natAbs < digitBound) :
    n.classify.render = .error (.badValue (limitMessage ++ limitAdvice)) := by
  have hcode : n.code ≠ 0 := by
    intro hzero
    rw [hzero] at h
    exact h zero_lt_digitBound
  rw [classify, if_neg fun hplain => hcode hplain.1]
  simp only [ClassifiedWarning.render, intText_eq_error h]
  rfl

theorem Rendered.unique {ns : List Notice} {texts texts' : List String} (h : Rendered ns texts)
    (h' : Rendered ns texts') : texts = texts' :=
  List.right_unique_forall₂' (fun _ _ _ hs ht => Except.ok.inj (hs.symm.trans ht)) h h'

theorem exists_rendered {ns : List Notice} (h : ∀ n ∈ ns, n.code.natAbs < digitBound) :
    ∃ texts, Rendered ns texts := by
  obtain ⟨texts, -, htexts⟩ := mapM_eq_ok (f := fun n : Notice => n.classify.render)
    fun n hn => Notice.render_eq_ok (h n hn)
  exact ⟨texts, htexts⟩

theorem written_or_first (records : List WarningRecord) :
    (∀ r ∈ records, r.notice.code.natAbs < digitBound) ∨
      ∃ before r rest, records = before ++ r :: rest ∧
        (∀ x ∈ before, x.notice.code.natAbs < digitBound) ∧
        ¬ r.notice.code.natAbs < digitBound := by
  induction records with
  | nil => exact .inl nofun
  | cons r rest ih =>
      by_cases hr : r.notice.code.natAbs < digitBound
      · rcases ih with hall | ⟨before, x, more, rfl, hbefore, hx⟩
        · exact .inl (List.forall_mem_cons.mpr ⟨hr, hall⟩)
        · exact .inr ⟨r :: before, x, more, rfl, List.forall_mem_cons.mpr ⟨hr, hbefore⟩, hx⟩
      · exact .inr ⟨[], r, rest, rfl, nofun, hr⟩

theorem run_reportNotices_written {ns : List Notice} {texts : List String} (h : Rendered ns texts)
    (sink : Sink) (j : Journal) :
    (reportNotices sink ns).run j = (.ok (ns.map Notice.classify), sink.offers texts j) := by
  have hall := run_emitAll_append h sink [] j
  rw [List.append_nil] at hall
  rw [reportNotices, Action.run_bind_ok hall]
  rfl

theorem run_reportNotices_cut {before : List Notice} {texts : List String} {n : Notice}
    (h : Rendered before texts) (hn : ¬ n.code.natAbs < digitBound) (rest : List Notice)
    (sink : Sink) (j : Journal) :
    (reportNotices sink (before ++ n :: rest)).run j =
      (.error (.badValue (limitMessage ++ limitAdvice)), sink.offers texts j) := by
  refine Action.run_bind_error ?_
  rw [List.map_append, run_emitAll_append h, List.map_cons, emitAll, Notice.render_eq_error hn]
  rfl

/-- The journal after the statement was asked to clear its warnings. A failure is noted. -/
def Journal.cleared (j : Journal) : Except Fault Unit → Journal
  | .ok _ => j
  | .error f => j.addRecord ⟨.debug, .warnings, "Could not clear statement warnings: " ++ f.message⟩

/-- What a report does with a statement that hands out a chain of these records, or fails to hand
out any. The calls that it makes are the last ones of the record. -/
structure ReportsEach {σ : Type} (sink : Sink) (st : Statement σ) (records : List WarningRecord)
    (w : World (Recorded σ Call)) : Prop where
  /-- Warnings that cannot be read are none. -/
  unread : ∀ f t, st.getWarnings.run w.driver.driver = (.error f, t) →
    (report sink st.recorded).run w =
      (.ok [], ⟨⟨t, w.driver.calls ++ [.warnings (.error f)]⟩,
        w.journal.addRecord ⟨.debug, .warnings,
          "Could not read statement warnings: " ++ f.message⟩⟩)
  /-- Where every code is written, each warning is classified and offered, and then they are
  cleared. -/
  reported : ∀ t, st.getWarnings.run w.driver.driver = (.ok (WarningRecord.chain records), t) →
    (∀ r ∈ records, r.notice.code.natAbs < digitBound) →
    ∃ texts, Rendered (records.map WarningRecord.notice) texts ∧
      (report sink st.recorded).run w =
        (.ok (records.map fun r => r.notice.classify),
          ⟨⟨(st.clearWarnings.run t).2, w.driver.calls ++
              [.warnings (.ok (WarningRecord.chain records)),
                .clearWarnings (st.clearWarnings.run t).1]⟩,
            (sink.offers texts w.journal).cleared (st.clearWarnings.run t).1⟩)
  /-- The first code that is too long ends the report, and nothing is cleared. -/
  cut : ∀ t before r rest, st.getWarnings.run w.driver.driver =
    (.ok (WarningRecord.chain records), t) →
    records = before ++ r :: rest → (∀ x ∈ before, x.notice.code.natAbs < digitBound) →
    ¬ r.notice.code.natAbs < digitBound →
    ∃ texts, Rendered (before.map WarningRecord.notice) texts ∧
      (report sink st.recorded).run w =
        (.error (.badValue (limitMessage ++ limitAdvice)),
          ⟨⟨t, w.driver.calls ++ [.warnings (.ok (WarningRecord.chain records))]⟩,
            sink.offers texts w.journal⟩)

section

variable {σ : Type} {sink : Sink} {st : Statement σ} {records : List WarningRecord}
  {w : World (Recorded σ Call)} {t : σ}

theorem run_getWarnings_recorded {answer : Except Fault (Option WarningRecord)}
    (h : st.getWarnings.run w.driver.driver = (answer, t)) :
    (World.onDriver st.recorded.getWarnings).attempt.run w =
      (.ok answer, ⟨⟨t, w.driver.calls ++ [.warnings answer]⟩, w.journal⟩) := by
  have hrun : st.recorded.getWarnings.run w.driver =
      (answer, ⟨t, w.driver.calls ++ [.warnings answer]⟩) := run_recording_eq h
  rw [Action.run_attempt, World.run_onDriver, hrun]

theorem run_report_unread {f : Fault} (h : st.getWarnings.run w.driver.driver = (.error f, t)) :
    (report sink st.recorded).run w =
      (.ok [], ⟨⟨t, w.driver.calls ++ [.warnings (.error f)]⟩,
        w.journal.addRecord ⟨.debug, .warnings,
          "Could not read statement warnings: " ++ f.message⟩⟩) := by
  rw [report, Action.run_bind_ok (run_getWarnings_recorded h)]
  rfl

theorem run_report_written {texts : List String}
    (h : st.getWarnings.run w.driver.driver = (.ok (WarningRecord.chain records), t))
    (htexts : Rendered (records.map WarningRecord.notice) texts) :
    (report sink st.recorded).run w =
      (.ok (records.map fun r => r.notice.classify),
        ⟨⟨(st.clearWarnings.run t).2, w.driver.calls ++
          [.warnings (.ok (WarningRecord.chain records)),
            .clearWarnings (st.clearWarnings.run t).1]⟩,
          (sink.offers texts w.journal).cleared (st.clearWarnings.run t).1⟩) := by
  have hchain (u : World (Recorded σ Call)) :
      (reportChain sink (WarningRecord.chain records)).run u =
        (.ok (records.map fun r => r.notice.classify),
          ⟨u.driver, sink.offers texts u.journal⟩) := by
    rw [reportChain, WarningRecord.noticesOf_chain, World.run_onJournal,
      run_reportNotices_written htexts, List.map_map]
    rfl
  have hclear (u : World (Recorded σ Call)) :
      (World.onDriver st.recorded.clearWarnings).attempt.run u =
      (.ok (st.clearWarnings.run u.driver.driver).1,
        ⟨⟨(st.clearWarnings.run u.driver.driver).2,
          u.driver.calls ++ [.clearWarnings (st.clearWarnings.run u.driver.driver).1]⟩,
          u.journal⟩) := rfl
  rw [report, Action.run_bind_ok (run_getWarnings_recorded h)]
  refine (Action.run_bind_ok (hchain _)).trans ((Action.run_bind_ok (hclear _)).trans ?_)
  rw [List.append_assoc, List.singleton_append]
  cases (st.clearWarnings.run t).1 with
  | ok u => rfl
  | error f => rfl

theorem run_report_cut {before rest : List WarningRecord} {r : WarningRecord} {texts : List String}
    (h : st.getWarnings.run w.driver.driver = (.ok (WarningRecord.chain (before ++ r :: rest)), t))
    (htexts : Rendered (before.map WarningRecord.notice) texts)
    (hr : ¬ r.notice.code.natAbs < digitBound) :
    (report sink st.recorded).run w =
      (.error (.badValue (limitMessage ++ limitAdvice)),
        ⟨⟨t, w.driver.calls ++ [.warnings (.ok (WarningRecord.chain (before ++ r :: rest)))]⟩,
          sink.offers texts w.journal⟩) := by
  rw [report, Action.run_bind_ok (run_getWarnings_recorded h)]
  refine Action.run_bind_error ?_
  rw [reportChain, WarningRecord.noticesOf_chain, List.map_append, List.map_cons,
    World.run_onJournal, run_reportNotices_cut htexts hr]

end

/-- What a report does is settled by what the statement hands out. -/
theorem reportsEach {σ : Type} (sink : Sink) (st : Statement σ) (records : List WarningRecord)
    (w : World (Recorded σ Call)) : ReportsEach sink st records w where
  unread f t h := run_report_unread h
  reported t h hcodes := by
    have hwritten : ∀ n ∈ records.map WarningRecord.notice, n.code.natAbs < digitBound :=
      List.forall_mem_map.mpr hcodes
    obtain ⟨texts, htexts⟩ := exists_rendered hwritten
    exact ⟨texts, htexts, run_report_written h htexts⟩
  cut t before r rest h hsplit hbefore hr := by
    subst hsplit
    have hwritten : ∀ n ∈ before.map WarningRecord.notice, n.code.natAbs < digitBound :=
      List.forall_mem_map.mpr hbefore
    obtain ⟨texts, htexts⟩ := exists_rendered hwritten
    exact ⟨texts, htexts, run_report_cut h htexts hr⟩

namespace ReportsEach

variable {σ : Type} {sink : Sink} {st : Statement σ} {records : List WarningRecord}
  {w : World (Recorded σ Call)} {t : σ}

theorem returns_iff (h : ReportsEach sink st records w)
    (hchain : st.getWarnings.run w.driver.driver = (.ok (WarningRecord.chain records), t)) :
    (∃ ws, ((report sink st.recorded).run w).1 = .ok ws) ↔
      ∀ r ∈ records, r.notice.code.natAbs < digitBound := by
  rcases written_or_first records with hall | ⟨before, r, rest, hsplit, hbefore, hr⟩
  · obtain ⟨texts, -, hrun⟩ := h.reported t hchain hall
    rw [hrun]
    exact ⟨fun _ => hall, fun _ => ⟨_, rfl⟩⟩
  · obtain ⟨texts, -, hrun⟩ := h.cut t before r rest hchain hsplit hbefore hr
    rw [hrun]
    refine ⟨nofun, fun hall => absurd (hall r ?_) hr⟩
    rw [hsplit]
    exact List.mem_append_right _ List.mem_cons_self

end ReportsEach

namespace Session

variable {κ : Type} {sink : Sink} {b : Backend} {c : Cursor κ} {own : Option Prepared}
  {s : Session κ} {j k : Journal} {ws : List ClassifiedWarning} {w : World (Session κ)}

theorem noticesOf_pending (s : Session κ) :
    WarningRecord.noticesOf (WarningRecord.chain (s.pending.map WarningRecord.single)) =
      s.pending := by
  rw [WarningRecord.noticesOf_chain, List.map_map]
  exact List.map_id s.pending

theorem run_getWarnings (b : Backend) (c : Cursor κ) (own : Option Prepared) (s : Session κ)
    (j : Journal) :
    (World.onDriver (statement b c own).getWarnings).attempt.run ⟨s, j⟩ =
      (.ok (.ok (WarningRecord.chain (s.pending.map WarningRecord.single))), ⟨s, j⟩) := rfl

theorem run_report_ok {ws : List ClassifiedWarning}
    (h : (reportNotices sink s.pending).run j = (.ok ws, k)) :
    (report sink (statement b c own)).run ⟨s, j⟩ = (.ok ws, ⟨{ s with pending := [] }, k⟩) := by
  have hchain : (reportChain sink (WarningRecord.chain (s.pending.map WarningRecord.single))).run
      ⟨s, j⟩ = (.ok ws, ⟨s, k⟩) := by
    rw [reportChain, noticesOf_pending, World.run_onJournal, h]
  rw [report, Action.run_bind_ok (run_getWarnings b c own s j)]
  exact Action.run_bind_ok hchain

/-- Warnings that could not be reported stay. -/
theorem run_report_error {f : Fault} (h : (reportNotices sink s.pending).run j = (.error f, k)) :
    (report sink (statement b c own)).run ⟨s, j⟩ = (.error f, ⟨s, k⟩) := by
  have hchain : (reportChain sink (WarningRecord.chain (s.pending.map WarningRecord.single))).run
      ⟨s, j⟩ = (.error f, ⟨s, k⟩) := by
    rw [reportChain, noticesOf_pending, World.run_onJournal, h]
  rw [report, Action.run_bind_ok (run_getWarnings b c own s j)]
  exact Action.run_bind_error hchain

theorem pending_of_run_report (h : (report sink (statement b c own)).run ⟨s, j⟩ = (.ok ws, w)) :
    w.driver.pending = [] := by
  cases hrun : (reportNotices sink s.pending).run j with
  | mk r k =>
      cases r with
      | ok vs =>
          rw [run_report_ok hrun] at h
          cases h
          rfl
      | error f =>
          rw [run_report_error hrun] at h
          cases h

/-- Where nothing is pending, nothing is offered, noted or changed. -/
theorem run_report_of_none_pending (sink : Sink) (b : Backend) (c : Cursor κ)
    (own : Option Prepared) (h : s.pending = []) (j : Journal) :
    (report sink (statement b c own)).run ⟨s, j⟩ = (.ok [], ⟨s, j⟩) := by
  have hnothing : (reportNotices sink s.pending).run j = (.ok [], j) := by
    rw [h]
    rfl
  rw [run_report_ok hnothing, ← h]

end Session

/-- Every warning of a chain is classified and offered to the sink once and in order, whichever
lines are refused, and then cleared once; a driver that fails to hand out its warnings or to clear
them stops nothing. This is so if and only if every code is written. After a report on a session
that returned, the next one finds nothing, whichever sink it has and whatever was written in
between. -/
theorem report_offers_each_warning_once {σ κ : Type} (sink : Sink) :
    (∀ (st : Statement σ) (records : List WarningRecord) (w : World (Recorded σ Call)),
      ReportsEach sink st records w ∧
      ∀ t, st.getWarnings.run w.driver.driver = (.ok (WarningRecord.chain records), t) →
        ((∃ ws, ((report sink st.recorded).run w).1 = .ok ws) ↔
          ∀ r ∈ records, r.notice.code.natAbs < digitBound)) ∧
    ∀ (b : Backend) (c : Cursor κ) (own : Option Session.Prepared) (s : Session κ) (j : Journal)
      (ws : List ClassifiedWarning) (w : World (Session κ)),
      (report sink (Session.statement b c own)).run ⟨s, j⟩ = (.ok ws, w) →
      ∀ (again : Sink) (k : Journal), (report again (Session.statement b c own)).run ⟨w.driver, k⟩ =
        (.ok [], ⟨w.driver, k⟩) := by
  refine ⟨fun st records w => ?_, fun b c own s j ws w h again k => ?_⟩
  · have heach := reportsEach sink st records w
    exact ⟨heach, fun t hchain => heach.returns_iff hchain⟩
  · exact Session.run_report_of_none_pending again b c own (Session.pending_of_run_report h) k

def twoNotices : List Notice := [⟨1, some "S1000", "a"⟩, ⟨0, none, "b"⟩]

def twoLines : List String :=
  ["***** Database Message *****\nCode:   1\nMessage:  a\nSQLState: S1000", "SQLOUT: b"]

def Session.onTwoNotices : Session ScriptedCursor :=
  { fresh (.ofScript {} .null) with pending := twoNotices }

def scriptedStatement : Statement (Session ScriptedCursor) :=
  Session.statement (.ofDialect .oracle) ScriptedCursor.cursor none

def Sink.full : Sink := Sink.keeping (fun _ => true) { kind := .system, message := "full" }

/-- A sink that refuses every line is offered both, and the next report finds nothing. -/
theorem refused_lines_offered_once :
    (∃ w, (report Sink.full scriptedStatement.recorded).run ⟨⟨Session.onTwoNotices, []⟩, {}⟩ =
        (.ok (twoNotices.map Notice.classify), w) ∧
      w.journal.lines = twoLines ∧
      w.driver.calls = [.warnings (.ok (WarningRecord.chain (twoNotices.map WarningRecord.single))),
        .clearWarnings (.ok ())]) ∧
    ∃ w, (report Sink.full scriptedStatement).run ⟨Session.onTwoNotices, {}⟩ =
        (.ok (twoNotices.map Notice.classify), w) ∧
      (report Sink.full scriptedStatement).run ⟨w.driver, {}⟩ = (.ok [], ⟨w.driver, {}⟩) := by
  obtain ⟨heach, hafter⟩ := report_offers_each_warning_once (σ := Session ScriptedCursor)
    (κ := ScriptedCursor) Sink.full
  have hcodes : ∀ r ∈ twoNotices.map WarningRecord.single, r.notice.code.natAbs < digitBound := by
    decide +kernel
  have hlines : Rendered twoNotices twoLines :=
    .cons (by decide +kernel) (.cons (by decide +kernel) .nil)
  constructor
  · obtain ⟨texts, htexts, hrun⟩ := (heach scriptedStatement (twoNotices.map WarningRecord.single)
      ⟨⟨Session.onTwoNotices, []⟩, {}⟩).1.reported Session.onTwoNotices rfl hcodes
    refine ⟨_, hrun, ?_, rfl⟩
    obtain rfl := htexts.unique hlines
    exact Sink.lines_offers_keeping (fun _ => true) _ twoLines {}
  · have hrun : (report Sink.full scriptedStatement).run ⟨Session.onTwoNotices, {}⟩ =
        (.ok (twoNotices.map Notice.classify), _) :=
      Session.run_report_ok (run_reportNotices_written hlines Sink.full {})
    exact ⟨_, hrun, hafter _ _ _ _ _ _ _ hrun Sink.full {}⟩

/-- A warning of a cursor whose code is a decimal number with so many zeros. -/
def warningOfPower (zeros : Nat) : Value :=
  .object "drv" "W" "<obj>" false
    [("code", .attribute (.decimal (.finite false 1 zeros))), ("message", .attribute (.text "m"))]

theorem readInt_powerOfTen (zeros : Nat) :
    Record.readInt (.decimal (.finite false 1 zeros)) = .ok ((10 ^ zeros : Nat) : Int) := by
  have hwhole : (Decimal.finite false 1 zeros).isWhole = true := by
    simp [Decimal.isWhole]
  rw [Record.readInt, toInt_powerOfTen, hwhole]
  rfl

theorem noticeOfWarning_warningOfPower (zeros : Nat) :
    Dialect.noticeOfWarning (warningOfPower zeros) =
      .ok ⟨((10 ^ zeros : Nat) : Int), none, "m"⟩ := by
  have hcode : Record.Fields.withDefault [("error_code", .decimal (.finite false 1 zeros)),
      ("sql_state", .null), ("message", .text "m")] "error_code" 0 Record.readInt =
        .ok ((10 ^ zeros : Nat) : Int) := by
    show (Record.readInt _).within "error_code" = _
    rw [readInt_powerOfTen]
    rfl
  have hrecord : WarningRecord.ofFields [("error_code", .decimal (.finite false 1 zeros)),
      ("sql_state", .null), ("message", .text "m")] =
        .ok (.single ⟨((10 ^ zeros : Nat) : Int), none, "m"⟩) := by
    unfold WarningRecord.ofFields WarningRecord.ofFieldsWithin
    rw [hcode]
    rfl
  have hread : Dialect.noticeOfWarning (warningOfPower zeros) = do
      let record ← (WarningRecord.ofFields [("error_code", .decimal (.finite false 1 zeros)),
        ("sql_state", .null), ("message", .text "m")]).orFault "WarningRecord"
      return record.notice := rfl
  rw [hread, hrecord]
  rfl

def scriptOfPower (zeros : Nat) : CursorScript where
  outcomes := [.count (.int 0)]
  warning := some (warningOfPower zeros)

theorem run_execute_scriptOfPower (zeros : Nat) :
    ∃ s, ((Session.statement (.ofDialect .oracle) ScriptedCursor.cursor none).execute "q").run
        (Session.fresh (.ofScript (scriptOfPower zeros) .null)) = (.ok false, s) ∧
      s.pending = [⟨((10 ^ zeros : Nat) : Int), none, "m"⟩] := by
  obtain ⟨s, hrun, hreached⟩ := Session.run_execute (b := .ofDialect .oracle)
    (s := Session.fresh (.ofScript (scriptOfPower zeros) .null)) rfl "q" none rfl rfl rfl
  have hnotices : ((scriptOfPower zeros).stepAt (.ofDialect .oracle) .null
      (scriptOfPower zeros).firstPlace).notices =
        .ok [⟨((10 ^ zeros : Nat) : Int), none, "m"⟩] := by
    have hcollect : (scriptOfPower zeros).collected (.ofDialect .oracle) .null
        (scriptOfPower zeros).firstPlace = do
          return ([← Dialect.noticeOfWarning (warningOfPower zeros)], _) := rfl
    rw [CursorScript.stepAt, hcollect, noticeOfWarning_warningOfPower]
    rfl
  refine ⟨s, ?_, (hreached _ rfl hnotices).pending_eq⟩
  exact hrun.trans (congrArg (·, s) (Step.arrive_of_notices rfl hnotices))

/-- The driver hands out its one warning, and yet the report fails: 10 ^ 4300 has no text. -/
theorem report_fails_on_long_code :
    ∃ s, ((Session.statement (.ofDialect .oracle) ScriptedCursor.cursor none).execute "q").run
        (Session.fresh (.ofScript (scriptOfPower digitLimit) .null)) = (.ok false, s) ∧
      ((Session.statement (.ofDialect .oracle) ScriptedCursor.cursor none).getWarnings.run s).1 =
        .ok (WarningRecord.chain [.single ⟨((10 ^ digitLimit : Nat) : Int), none, "m"⟩]) ∧
      ((report Sink.collecting (Session.statement (.ofDialect .oracle)
        ScriptedCursor.cursor none)).run ⟨s, {}⟩).1 =
          .error (.badValue (limitMessage ++ limitAdvice)) := by
  obtain ⟨s, hrun, hpending⟩ := run_execute_scriptOfPower digitLimit
  have hlong : ¬ (((10 ^ digitLimit : Nat) : Int)).natAbs < digitBound := by
    rw [Int.natAbs_natCast, digitBound_eq]
    exact Nat.lt_irrefl _
  have hnone : Rendered [] [] := .nil
  have hcut := run_reportNotices_cut (n := ⟨((10 ^ digitLimit : Nat) : Int), none, "m"⟩)
    hnone hlong [] Sink.collecting {}
  refine ⟨s, hrun, ?_, ?_⟩
  · show Except.ok (WarningRecord.chain (s.pending.map WarningRecord.single)) = _
    rw [hpending]
    rfl
  · rw [List.nil_append, ← hpending] at hcut
    rw [Session.run_report_error hcut]

end StatementWalk
