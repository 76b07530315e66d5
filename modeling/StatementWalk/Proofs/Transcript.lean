import Mathlib.Data.List.Forall2
import StatementWalk.Proofs.Course
import StatementWalk.Proofs.NoticeCodes

/-!
# Transcripts

What a walk does to the journal is a sequence of events: it offers lines to the sink and notes
records in the log. With a sink that takes every line, a step that succeeds offers its warnings and
then the lines of its outcome. A step that fails offers nothing, or its warnings alone: a table is
offered only once it is complete, and then nothing is left that could fail.
-/

namespace StatementWalk

open Number

/-- What a walk does to the journal. -/
inductive Event where
  | offered (line : String)
  | noted (r : LogRecord)

def offeredLines (events : List Event) : List String :=
  events.filterMap fun
    | .offered line => some line
    | .noted _ => none

@[simp] theorem offeredLines_append (xs ys : List Event) :
    offeredLines (xs ++ ys) = offeredLines xs ++ offeredLines ys := List.filterMap_append ..

@[simp] theorem offeredLines_offered (lines : List String) :
    offeredLines (lines.map .offered) = lines := by
  induction lines with
  | nil => rfl
  | cons line rest ih =>
      show line :: offeredLines (rest.map .offered) = _
      rw [ih]

@[simp] theorem offeredLines_noted (rs : List LogRecord) : offeredLines (rs.map .noted) = [] := by
  induction rs with
  | nil => rfl
  | cons r rest ih => exact ih

namespace Sink

/-- Never refuses a line. -/
def Accepting (sink : Sink) : Prop := ∀ line, sink.Takes line

def see (sink : Sink) (j : Journal) : Event → Journal
  | .offered line => ((sink line).run j).2
  | .noted r => j.addRecord r

def after (sink : Sink) (events : List Event) (j : Journal) : Journal := events.foldl sink.see j

variable {sink : Sink}

@[simp] theorem after_append (xs ys : List Event) (j : Journal) :
    sink.after (xs ++ ys) j = sink.after ys (sink.after xs j) := List.foldl_append ..

theorem after_noted (rs : List LogRecord) (j : Journal) :
    sink.after (rs.map .noted) j = j.addRecords rs := by
  induction rs generalizing j with
  | nil => exact (Journal.addRecords_nil j).symm
  | cons r rest ih =>
      show sink.after (rest.map .noted) (j.addRecord r) = _
      rw [ih, Journal.addRecord_eq, Journal.addRecords_addRecords]
      rfl

/-- Collected lines are the lines that were offered. -/
theorem lines_after_collecting (events : List Event) (j : Journal) :
    (collecting.after events j).lines = j.lines ++ offeredLines events := by
  induction events generalizing j with
  | nil => exact (List.append_nil _).symm
  | cons e rest ih =>
      show (collecting.after rest (collecting.see j e)).lines = _
      rw [ih]
      cases e with
      | noted r => rfl
      | offered line =>
          show j.lines ++ [line] ++ offeredLines rest = j.lines ++ line :: offeredLines rest
          rw [List.append_assoc]
          rfl

theorem Accepting.run (h : sink.Accepting) (line : String) (j : Journal) :
    (sink line).run j = (.ok (), sink.after [.offered line] j) := by
  obtain ⟨k, hk⟩ := h line j
  show (sink line).run j = (.ok (), ((sink line).run j).2)
  rw [hk]

theorem Accepting.run_emit (h : sink.Accepting) (line : String) (j : Journal) :
    (emit sink line).run j = (.ok (), sink.after [.offered line] j) := by
  have hattempt := Action.run_attempt (sink line) j
  rw [h.run line j] at hattempt
  rw [emit, Action.run_bind_ok hattempt]
  rfl

theorem Accepting.run_offerAll (h : sink.Accepting) (lines : List String) (j : Journal) :
    (sink.offerAll lines).run j = (.ok (), sink.after (lines.map .offered) j) := by
  induction lines generalizing j with
  | nil => rfl
  | cons line rest ih =>
      rw [offerAll, Action.run_bind_ok (h.run line j), ih]
      rfl

end Sink

/-- The lines are the texts of the warnings. -/
def Rendered (ns : List Notice) (texts : List String) : Prop :=
  List.Forall₂ (fun n text => n.classify.render = .ok text) ns texts

theorem run_emitAll {sink : Sink} (h : sink.Accepting) (ns : List Notice) (j : Journal) :
    (∃ texts, Rendered ns texts ∧ (emitAll sink (ns.map Notice.classify)).run j =
        (.ok (), sink.after (texts.map .offered) j)) ∨
      ∃ before n rest texts f, ns = before ++ n :: rest ∧ Rendered before texts ∧
        n.classify.render = .error f ∧ (emitAll sink (ns.map Notice.classify)).run j =
          (.error f, sink.after (texts.map .offered) j) := by
  induction ns generalizing j with
  | nil => exact .inl ⟨[], .nil, rfl⟩
  | cons n rest ih =>
      rw [List.map_cons, emitAll]
      cases hn : n.classify.render with
      | error f =>
          refine .inr ⟨[], n, rest, [], f, rfl, .nil, hn, ?_⟩
          exact Action.run_bind_error (Action.run_ofExcept (.error f) j)
      | ok text =>
          rw [Action.run_bind_ok (Action.run_ofExcept (.ok text) j),
            Action.run_bind_ok (h.run_emit text j)]
          rcases ih (sink.after [.offered text] j) with
            ⟨texts, hall, hrun⟩ | ⟨before, m, more, texts, f, rfl, hall, hm, hrun⟩
          · exact .inl ⟨text :: texts, .cons hn hall, hrun⟩
          · exact .inr ⟨n :: before, m, more, text :: texts, f, rfl, .cons hn hall, hm, hrun⟩

theorem run_settle {sink : Sink} (h : sink.Accepting) (x : Noted Outcome) (j : Journal) :
    (∃ o, x.result = .ok o ∧ (sink.settle x).run j =
        (.ok o, sink.after (x.notes.map .noted ++ o.written.map .offered) j)) ∨
      ∃ f, (sink.settle x).run j = (.error f, sink.after (x.notes.map .noted) j) := by
  have hact := x.run_act j
  cases hx : x.result with
  | error f =>
      rw [hx] at hact
      refine .inr ⟨f, ?_⟩
      rw [Sink.settle, Action.run_bind_error hact, Sink.after_noted]
  | ok o =>
      rw [hx] at hact
      refine .inl ⟨o, rfl, ?_⟩
      rw [Sink.settle, Action.run_bind_ok hact, Action.run_bind_ok (h.run_offerAll _ _),
        Sink.after_append, Sink.after_noted]
      rfl

/-- What a step that succeeds says and makes. -/
structure StepReport where
  notices : List Notice
  /-- The texts of the warnings. -/
  said : List String
  outcome : Outcome

namespace StepReport

def warnings (r : StepReport) : List ClassifiedWarning := r.notices.map Notice.classify

def lines (r : StepReport) : List String := r.said ++ r.outcome.written

end StepReport

namespace Step

structure Gives (p : Step) (r : StepReport) : Prop where
  reached : p.reached = .ok ()
  notices : p.notices = .ok r.notices
  said : Rendered r.notices r.said
  outcome : p.outcome.result = .ok r.outcome

/-- What a step that fails may have written: nothing, or all its warnings. -/
def Leaves (p : Step) (tail : List String) : Prop :=
  tail = [] ∨ ∃ ns, p.reached = .ok () ∧ p.notices = .ok ns ∧ Rendered ns tail

/-- The warnings of the step can all be written, or there is at most one. -/
def Tidy (p : Step) : Prop :=
  ∀ ns, p.notices = .ok ns → (∀ n ∈ ns, n.code.natAbs < digitBound) ∨ ns.length ≤ 1

/-- A warning that has no text is the first one of its step. -/
theorem Tidy.before_eq_nil {p : Step} {ns before rest : List Notice} {n : Notice} {f : Fault}
    (h : p.Tidy) (hn : p.notices = .ok ns) (hns : ns = before ++ n :: rest)
    (hf : n.classify.render = .error f) : before = [] := by
  rcases h ns hn with hcodes | hlength
  · obtain ⟨line, hline⟩ := Notice.render_eq_ok (hcodes n (by rw [hns]; simp))
    rw [hf] at hline
    cases hline
  · rw [hns, List.length_append, List.length_cons] at hlength
    exact List.length_eq_zero_iff.mp (by omega)

/-- A step succeeds and writes all of its lines, or it fails and leaves nothing or its warnings. -/
theorem run_perform {sink : Sink} {p : Step} (h : sink.Accepting) (htidy : p.Tidy) (j : Journal) :
    (∃ r events, p.Gives r ∧ (p.perform sink).run j =
        (.ok (r.warnings, r.outcome), sink.after events j) ∧ offeredLines events = r.lines) ∨
      ∃ f events, (p.perform sink).run j = (.error f, sink.after events j) ∧
        p.Leaves (offeredLines events) := by
  cases harrive : p.arrive true with
  | error f =>
      refine .inr ⟨f, [], ?_, .inl rfl⟩
      rw [perform_of_arrive_error harrive]
      rfl
  | ok v =>
      obtain ⟨hreached, ⟨ns, hns⟩, -⟩ := arrive_eq_ok harrive
      rw [perform_of_notices hreached hns]
      rcases run_emitAll h ns j with
        ⟨texts, hall, hrun⟩ | ⟨before, n, rest, texts, f, hsplit, hall, hn, hrun⟩
      · have hreport : (reportNotices sink ns).run j =
            (.ok (ns.map Notice.classify), sink.after (texts.map .offered) j) := by
          rw [reportNotices, Action.run_bind_ok hrun]
          rfl
        rw [Action.run_bind_ok hreport]
        rcases run_settle h p.outcome (sink.after (texts.map .offered) j) with
          ⟨o, ho, hsettle⟩ | ⟨f, hsettle⟩
        · refine .inl ⟨⟨ns, texts, o⟩,
            texts.map .offered ++ (p.outcome.notes.map .noted ++ o.written.map .offered),
            ⟨hreached, hns, hall, ho⟩, ?_, by simp [StepReport.lines]⟩
          rw [Action.run_bind_ok hsettle, Sink.after_append (texts.map .offered)]
          rfl
        · refine .inr ⟨f, texts.map .offered ++ p.outcome.notes.map .noted, ?_,
            .inr ⟨ns, hreached, hns, by simpa using hall⟩⟩
          rw [Action.run_bind_error hsettle, Sink.after_append]
      · obtain rfl := htidy.before_eq_nil hns hsplit hn
        obtain rfl : texts = [] := by
          cases hall
          rfl
        refine .inr ⟨f, [], ?_, .inl rfl⟩
        exact Action.run_bind_error (Action.run_bind_error hrun)

end Step

/-- All steps succeed, or the course ends within one of them. -/
theorem run_course {sink : Sink} {steps : List Step} (h : sink.Accepting)
    (htidy : ∀ p ∈ steps, p.Tidy) (j : Journal) :
    (∃ rs events, List.Forall₂ Step.Gives steps rs ∧ (course sink steps).run j =
        (.ok (rs.map fun r => (r.warnings, r.outcome)), sink.after events j) ∧
        offeredLines events = rs.flatMap StepReport.lines) ∨
      ∃ f rs p tail events, List.Forall₂ Step.Gives (steps.take rs.length) rs ∧
        steps[rs.length]? = some p ∧ p.Leaves tail ∧
        (course sink steps).run j = (.error f, sink.after events j) ∧
        offeredLines events = rs.flatMap StepReport.lines ++ tail := by
  induction steps generalizing j with
  | nil => exact .inl ⟨[], [], .nil, rfl, rfl⟩
  | cons p rest ih =>
      rw [course]
      rcases p.run_perform h (htidy p (List.mem_cons_self ..)) j with
        ⟨r, events, hgives, hrun, hlines⟩ | ⟨f, events, hrun, hleaves⟩
      · rw [Action.run_bind_ok hrun]
        rcases ih (fun q hq => htidy q (List.mem_cons_of_mem _ hq)) (sink.after events j) with
          ⟨rs, more, hall, hrest, hmore⟩ | ⟨f, rs, q, tail, more, hall, hq, hleaves, hrest, hmore⟩
        · refine .inl ⟨r :: rs, events ++ more, .cons hgives hall, ?_, ?_⟩
          · rw [Action.run_bind_ok hrest, Sink.after_append]
            rfl
          · rw [offeredLines_append, hlines, hmore, List.flatMap_cons]
        · refine .inr ⟨f, r :: rs, q, tail, events ++ more, .cons hgives hall, hq, hleaves, ?_, ?_⟩
          · rw [Action.run_bind_error hrest, Sink.after_append]
          · rw [offeredLines_append, hlines, hmore, List.flatMap_cons, List.append_assoc]
      · refine .inr ⟨f, [], p, offeredLines events, events, .nil, rfl, hleaves, ?_, rfl⟩
        exact Action.run_bind_error hrun

end StatementWalk
