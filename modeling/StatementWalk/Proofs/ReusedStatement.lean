import StatementWalk.Proofs.CursorCalls
import StatementWalk.Proofs.Reporting

/-!
# Statements that are used again

A walk leaves next to nothing behind in its statement that a later walk could see. Whether there is
an outcome is set anew when the statement is executed, result sets that were given out before are
not asked again, and warnings are forgotten as soon as they are reported. A warning whose code is
too long to be written is the exception: it is not reported, and executing the statement does not
forget it. It stays the first one that is pending, and every later walk that starts fails on it.
-/

namespace StatementWalk

open Number

variable {κ μ : Type} {c : Cursor κ} {q : Cursor μ} {b : Backend} {own : Option Session.Prepared}

/-- Only one dialect hands out warnings with codes that are too long. -/
theorem Dialect.code_lt_of_collect {d : Dialect} {board left : NoticeBoard} {ns : List Notice}
    (hd : d ≠ .oracle) (h : d.collect board = .ok (ns, left)) :
    ∀ n ∈ ns, n.code.natAbs < digitBound := by
  intro n hn
  cases d with
  | oracle => exact absurd rfl hd
  | postgresql =>
      rw [code_of_collect_postgresql h hn]
      exact zero_lt_digitBound
  | mssql =>
      obtain ⟨found, hfound, h⟩ := except_bind_eq_ok.mp h
      cases h
      exact forall_of_mapM_ok hfound (fun _ _ hparts => noticeOfParts_lt hparts) n hn
  | _ =>
      cases h
      cases hn

/-- The first pending warning is one of the cursor's, and its code is too long to be written. -/
def Cursor.Stuck (c : Cursor κ) (b : Backend) (p : List Notice) : Prop :=
  ∃ n rest, p = n :: rest ∧ ¬ n.code.natAbs < digitBound ∧
    ∃ k ns board, b.dialect.collect (c.notices k) = .ok (ns, board) ∧ n ∈ ns

namespace Cursor.Stuck

variable {p : List Notice}

theorem append (h : c.Stuck b p) (more : List Notice) : c.Stuck b (p ++ more) := by
  obtain ⟨n, rest, rfl, hlong⟩ := h
  exact ⟨n, rest ++ more, rfl, hlong⟩

theorem dialect_eq (h : c.Stuck b p) : b.dialect = .oracle := by
  obtain ⟨n, rest, -, hlong, k, ns, board, hcollect, hn⟩ := h
  by_contra hd
  exact hlong (Dialect.code_lt_of_collect hd hcollect n hn)

theorem of_recorded {γ : Type} {form : CursorCall → γ} (h : (c.recorded form).Stuck b p) :
    c.Stuck b p := by
  obtain ⟨n, rest, hp, hlong, s, hcollect⟩ := h
  exact ⟨n, rest, hp, hlong, s.driver, hcollect⟩

theorem run_reportNotices (h : c.Stuck b p) (sink : Sink) (j : Journal) :
    (reportNotices sink p).run j = (.error (.badValue (limitMessage ++ limitAdvice)), j) := by
  obtain ⟨n, rest, rfl, hlong, -⟩ := h
  exact run_reportNotices_cut (.nil : Rendered [] []) hlong rest sink j

end Cursor.Stuck

namespace Session

/-- Between walks the same is pending: nothing, or a first warning that cannot be written. -/
def Leftover (c : Cursor κ) (b : Backend) (p p' : List Notice) : Prop :=
  p = p' ∧ (p = [] ∨ c.Stuck b p)

/-- Where a step was made the same is pending: all of it can be written, or the first cannot. -/
def Gathered (c : Cursor κ) (b : Backend) (p p' : List Notice) : Prop :=
  p = p' ∧ ((∀ n ∈ p, n.code.natAbs < digitBound) ∨ c.Stuck b p)

def NonePending (p p' : List Notice) : Prop := p = [] ∧ p' = []

theorem NonePending.leftover {p p' : List Notice} (h : NonePending p p') : Leftover c b p p' := by
  obtain ⟨rfl, rfl⟩ := h
  exact ⟨rfl, .inl rfl⟩

theorem Leftover.gathered {p p' : List Notice} (h : Leftover c b p p') : Gathered c b p p' := by
  obtain ⟨rfl, rfl | hstuck⟩ := h
  · exact ⟨rfl, .inl fun _ hn => absurd hn List.not_mem_nil⟩
  · exact ⟨rfl, .inr hstuck⟩

/-- There is at most one warning that cannot be written where one is collected, so it comes
first. -/
theorem gathers_leftover (c : Cursor κ) (b : Backend) :
    Gathers b c Eq (Leftover c b) (Gathered c b) := by
  refine ⟨fun _ h => h.gathered, fun {p p' ns board k m} _ _ hcollect h => ?_⟩
  obtain ⟨rfl, rfl | hstuck⟩ := h
  · refine ⟨rfl, ?_⟩
    rcases Dialect.collect_tidy hcollect with hshort | hlength
    · exact .inl hshort
    · cases ns with
      | nil => exact .inl fun _ hn => absurd hn List.not_mem_nil
      | cons n rest =>
          obtain rfl : rest = [] := List.length_eq_zero_iff.mp (Nat.le_zero.mp
            (Nat.le_of_succ_le_succ hlength))
          by_cases hn : n.code.natAbs < digitBound
          · exact .inl (List.forall_mem_singleton.mpr hn)
          · exact .inr ⟨n, [], rfl, hn, k, [n], board, hcollect, List.mem_singleton_self n⟩
  · exact ⟨rfl, .inr (hstuck.append ns)⟩

theorem matches_leftover (c : Cursor κ) (b : Backend) (own : Option Prepared) :
    (statement b c own).Matches (Unstarted Eq (Leftover c b)) (Alike Eq (Gathered c b) AnyHandles)
      (Alike Eq NonePending AnyHandles) (Unstarted Eq (Leftover c b)) (statement b c own) := by
  have hstart := gathers_leftover c b
  have hmove : Gathers b c Eq NonePending (Gathered c b) :=
    ⟨fun off h => hstart.silent off h.leftover,
      fun on hkm hcollect h => hstart.heard on hkm hcollect h.leftover⟩
  refine matches_statement c.matches_refl hstart hmove (fun _ _ h => h.leftover.gathered)
    (fun _ _ h => h.leftover) fun sink => ?_
  rintro ⟨s, j⟩ ⟨t, j'⟩ ⟨hst, rfl⟩
  obtain ⟨hsame, hshort | hstuck⟩ := hst.pending
  · obtain ⟨texts, htexts⟩ := exists_rendered hshort
    have hs := run_reportNotices_written htexts sink j
    have ht : (reportNotices sink t.pending).run j =
        (.ok (s.pending.map Notice.classify), sink.offers texts j) := by
      rw [← hsame]
      exact hs
    exact ⟨_, _, ⟨{ t with pending := [] }, _⟩, run_report_ok hs, run_report_ok ht,
      ⟨hst.cursor, ⟨rfl, rfl⟩, hst.exhausted_eq, trivial⟩, rfl⟩
  · have hs := hstuck.run_reportNotices sink j
    have ht : (reportNotices sink t.pending).run j =
        (.error (.badValue (limitMessage ++ limitAdvice)), j) := by
      rw [← hsame]
      exact hs
    exact ⟨_, _, ⟨t, j⟩, run_report_error hs, run_report_error ht,
      ⟨hst.cursor, hsame, .inr hstuck⟩, rfl⟩

/-- Statements of matching cursors start alike, whatever is pending. -/
theorem relates_start {R : κ → μ → Prop} {N L : List Notice → List Notice → Prop}
    (h : c.Matches R q) (hgathers : Gathers b c R N L) (own : Option Prepared)
    (sql : Option String) :
    Relates (Alongside (Unstarted R N)) (Alongside (Alike R L AnyHandles))
      (Alongside (Unstarted R N)) (start (statement b c own) sql)
      (start (statement b q own) sql) := by
  cases own with
  | some p => exact .start rfl rfl (relates_execute h hgathers p.sql p.params)
  | none =>
      cases sql with
      | some text => exact .start rfl rfl (relates_execute h hgathers text none)
      | none => exact .start_nothing rfl rfl fun _ _ => id

end Session

/-- A walk that is made on a statement: the dialect and the sink of the walker, and the text. -/
structure Round where
  dialect : Dialect
  sink : Sink
  sql : Option String

def Round.walk {σ : Type} (r : Round) (st : Statement σ) : Action (World σ) WalkResult :=
  StatementWalk.walk r.dialect r.sink st r.sql

/-- What walks leave that are made one after the other, each of which may fail. -/
def afterRounds {σ : Type} (st : Statement σ) (rounds : List Round) (w : World σ) : World σ :=
  rounds.foldl (fun w r => ((r.walk st).run w).2) w

/-- A new statement takes the place of the one that was used, on the same cursor. -/
def World.renewed (w : World (Session κ)) : World (Session κ) :=
  ⟨Session.fresh w.driver.cursor, w.journal⟩

/-- What can be seen of a walk: how it ends, what is written and what becomes of the cursor. -/
def Round.shown (r : Round) (st : Statement (Session κ)) (w : World (Session κ)) :
    Except Fault WalkResult × Journal × κ :=
  let out := (r.walk st).run w
  (out.1, out.2.journal, out.2.driver.cursor)

/-- What can be seen of a walk that fails for a code that is too long, as soon as it has started. -/
def halted (started : World (Session κ)) : Except Fault WalkResult × Journal × κ :=
  (.error (.badValue (limitMessage ++ limitAdvice)), started.journal, started.driver.cursor)

namespace Session

variable {w : World (Session κ)} {next : Round}

theorem unstarted_afterRounds (rounds : List Round)
    (hw : w.driver.pending = [] ∨ c.Stuck b w.driver.pending) :
    (afterRounds (statement b c own) rounds w).driver.pending = [] ∨
      c.Stuck b (afterRounds (statement b c own) rounds w).driver.pending := by
  induction rounds generalizing w with
  | nil => exact hw
  | cons r rest ih =>
      obtain ⟨result, s, t, k, hs, -, hst⟩ := (matches_leftover c b own).run_walk r.dialect r.sink
        r.sql (⟨rfl, rfl, hw⟩ : Unstarted Eq (Leftover c b) w.driver w.driver) w.journal
      have hwalk : ((r.walk (statement b c own)).run w).2 = ⟨s, k⟩ := congrArg Prod.snd hs
      refine ih (w := ((r.walk (statement b c own)).run w).2) ?_
      rw [hwalk]
      exact hst.pending.2

theorem shown_of_none_pending (own : Option Prepared) (hw : w.driver.pending = []) :
    next.shown (statement b c own) w = next.shown (statement b c own) w.renewed := by
  have hnew : Unstarted Eq (Leftover c b) w.driver w.renewed.driver :=
    ⟨rfl, NonePending.leftover ⟨hw, rfl⟩⟩
  obtain ⟨r, s, t, k, hs, ht, hst⟩ :=
    (matches_leftover c b own).run_walk next.dialect next.sink next.sql hnew w.journal
  have hagain : (next.walk (statement b c own)).run w = (r, ⟨s, k⟩) := hs
  have hafresh : (next.walk (statement b c own)).run w.renewed = (r, ⟨t, k⟩) := ht
  rw [Round.shown, Round.shown, hagain, hafresh]
  exact congrArg (fun cursor => (r, k, cursor)) hst.cursor

/-- Where a warning that cannot be written is pending, the walk starts as one on a new statement. -/
theorem start_of_stuck (own : Option Prepared) (hw : c.Stuck b w.driver.pending)
    (sql : Option String) :
    ∃ r u v, (start (statement b c own) sql).run w = (r, u) ∧
      (start (statement b c own) sql).run w.renewed = (r, v) ∧ u.journal = v.journal ∧
      u.driver.cursor = v.driver.cursor ∧ c.Stuck b u.driver.pending := by
  have hgathers : Gathers b c Eq (fun p _ => c.Stuck b p) (fun p _ => c.Stuck b p) :=
    ⟨fun _ h => h, fun _ _ _ h => h.append _⟩
  obtain ⟨r, u, v, hu, hv, huv⟩ := relates_start c.matches_refl hgathers own sql w w.renewed
    ⟨⟨rfl, hw⟩, rfl⟩
  refine ⟨r, u, v, hu, hv, ?_⟩
  cases r with
  | ok first => exact ⟨huv.2, huv.1.cursor, huv.1.pending⟩
  | error f => exact ⟨huv.2, huv.1.cursor, huv.1.pending⟩

end Session

/-- How the next walk on a statement compares with the same walk on a new one, where the warnings
are those of a cursor. -/
structure Reuse (c : Cursor μ) (b : Backend) (st : Statement (Session κ)) (used : World (Session κ))
    (next : Round) : Prop where
  left : used.driver.pending = [] ∨ c.Stuck b used.driver.pending
  /-- A walk that starts goes no further where a warning was left. -/
  halts : used.driver.pending ≠ [] → ∀ first started,
    (start st next.sql).run used.renewed = (.ok first, started) →
      next.shown st used = halted started
  /-- The two agree unless a warning was left and the walk on a new statement does go further. -/
  afresh_iff : next.shown st used = next.shown st used.renewed ↔
    used.driver.pending = [] ∨ ∀ first started,
      (start st next.sql).run used.renewed = (.ok first, started) →
        next.shown st used.renewed = halted started

namespace Session

variable {used : World (Session κ)} {next : Round}

theorem shown_of_start_error {f : Fault} {u : World (Session κ)}
    (h : (start (statement b c own) next.sql).run used = (.error f, u)) :
    next.shown (statement b c own) used = (.error f, u.journal, u.driver.cursor) := by
  have hwalk : (next.walk (statement b c own)).run used = (.error f, u) := Action.run_bind_error h
  rw [Round.shown, hwalk]

theorem shown_of_start_stuck {first : Bool} {u : World (Session κ)}
    (h : (start (statement b c own) next.sql).run used = (.ok first, u))
    (hstuck : c.Stuck b u.driver.pending) : next.shown (statement b c own) used = halted u := by
  have hreport : (report next.sink (statement b c own)).run u =
      (.error (.badValue (limitMessage ++ limitAdvice)), u) :=
    run_report_error (hstuck.run_reportNotices next.sink u.journal)
  have hwalk : (next.walk (statement b c own)).run used =
      (.error (.badValue (limitMessage ++ limitAdvice)), u) :=
    (Action.run_bind_ok h).trans (Action.run_bind_error hreport)
  rw [Round.shown, hwalk, halted]

theorem reuse (own : Option Prepared) (next : Round)
    (hused : used.driver.pending = [] ∨ c.Stuck b used.driver.pending) :
    Reuse c b (statement b c own) used next := by
  have hstep (hstuck : c.Stuck b used.driver.pending) :=
    start_of_stuck own hstuck next.sql
  have hhalts : used.driver.pending ≠ [] → ∀ first started,
      (start (statement b c own) next.sql).run used.renewed = (.ok first, started) →
        next.shown (statement b c own) used = halted started := by
    intro hsome first started hstarted
    obtain ⟨r, u, v, hu, hv, hjournal, hcursor, hstuck⟩ := hstep (hused.resolve_left hsome)
    obtain ⟨rfl, rfl⟩ := Prod.mk.inj (hv.symm.trans hstarted)
    rw [shown_of_start_stuck hu hstuck, halted, halted, hjournal, hcursor]
  refine ⟨hused, hhalts, fun hsame => ?_, fun h => ?_⟩
  · refine or_iff_not_imp_left.mpr fun hsome first started hstarted => ?_
    rw [← hsame]
    exact hhalts hsome first started hstarted
  · by_cases hnone : used.driver.pending = []
    · exact shown_of_none_pending own hnone
    · have hnew := h.resolve_left hnone
      obtain ⟨r, u, v, hu, hv, hjournal, hcursor, -⟩ := hstep (hused.resolve_left hnone)
      cases r with
      | ok first =>
          rw [hnew first v hv]
          exact hhalts hnone first v hv
      | error f =>
          rw [shown_of_start_error hu, shown_of_start_error hv, hjournal, hcursor]

end Session

/-- A walk ends, writes and calls the cursor as on a new statement, whatever the walks before it
did, unless one of them left a warning that cannot be written: then every walk that starts fails on
it, with no other call, which is what a new statement shows only where it fails so by itself. -/
theorem reused_statement_walks_afresh_iff (b : Backend) (c : Cursor κ)
    (own : Option Session.Prepared) (k : κ) (earlier : List Round) (next : Round) (j : Journal) :
    let st := Session.statement b (c.recorded id) own
    let used := afterRounds st earlier ⟨Session.fresh ⟨k, []⟩, j⟩
    Reuse c b st used next ∧ (b.dialect ≠ .oracle → used.driver.pending = []) := by
  intro st used
  have hused : used.driver.pending = [] ∨ (c.recorded id).Stuck b used.driver.pending :=
    Session.unstarted_afterRounds earlier (.inl rfl)
  have hreuse := Session.reuse own next hused
  have hleft := hused.imp_right Cursor.Stuck.of_recorded
  exact ⟨⟨hleft, hreuse.halts, hreuse.afresh_iff⟩,
    fun hd => hleft.resolve_right fun hstuck => hd hstuck.dialect_eq⟩

/-- A cursor that leaves a warning when it is executed first, and none from then on. The code of the
warning has so many zeros. -/
def warnsAtFirst (zeros : Nat) : Cursor Nat where
  execute _ _ := Action.modify (· + 1)
  fetch := pure none
  canAdvance _ := false
  advance := pure false
  close := pure ()
  description _ := none
  rowCount _ := some (.int 0)
  notices executed := { warning := some (if executed = 1 then warningOfPower zeros else .null) }
  setNotices _ executed := executed
  stamp executed := executed
  outcomesLeft _ := 0
  rowsLeft _ := 0

/-- The second walk on the statement fails on the warning of the first one; on a new statement it
succeeds. -/
theorem second_walk_fails_on_first_warning :
    let st := Session.statement (.ofDialect .oracle) ((warnsAtFirst digitLimit).recorded id) none
    let used := afterRounds st [⟨.oracle, Sink.collecting, some "a"⟩] ⟨Session.fresh ⟨0, []⟩, {}⟩
    let next : Round := ⟨.oracle, Sink.collecting, some "b"⟩
    let texts := fun result : WalkResult => result.outcomes.map Outcome.text
    (next.shown st used).1.map texts = .error (.badValue (limitMessage ++ limitAdvice)) ∧
      (next.shown st used.renewed).1.map texts = .ok ["0 row(s) affected"] := by
  decide +kernel

end StatementWalk
