import StatementWalk.Proofs.OutcomeForm

/-!
# The course of a walk

A script is walked place by place. Each place makes one step: the driver reaches it, what the server
said there is collected and written, then its outcome is made and written. The notices of a
connection pass from step to step; everything else of a step comes from the script at its place. The
course ends with the first fault, and what was written up to then stays.
-/

namespace StatementWalk

structure Place where
  outcome : OutcomeScript
  messages : List (List Value)
  notices : List Value

namespace CursorScript

def placeAt (script : CursorScript) (k : Nat) (o : OutcomeScript) : Place :=
  ⟨o, script.messages.getD k [], script.notices.getD k []⟩

/-- Whether a walk goes on to the next outcome. -/
def advances (b : Backend) (script : CursorScript) : Bool :=
  b.capabilities.multipleResults && script.canAdvance

/-- The places from the position `k` on. -/
def placesFrom (script : CursorScript) : Nat → List OutcomeScript → List Place
  | _, [] => []
  | k, o :: rest => script.placeAt k o :: script.placesFrom (k + 1) rest

/-- The places that a walk visits after the one at the position `k`. -/
def placesAfter (b : Backend) (script : CursorScript) (k : Nat) : List Place :=
  if script.advances b then script.placesFrom (k + 1) (script.outcomes.drop (k + 1)) else []

/-- The first place. A script without outcomes has a place without a count. -/
def firstPlace (script : CursorScript) : Place :=
  match script.outcomes with
  | [] => ⟨.count (.int (-1)), [], []⟩
  | o :: _ => script.placeAt 0 o

/-- The notices of the connection at a place that is reached with the notices `p`. -/
def announced (script : CursorScript) (p : Value) (q : Place) : Value :=
  if script.connected then ScriptedCursor.addNotices p q.notices else p

def board (script : CursorScript) (p : Value) (q : Place) : NoticeBoard where
  messages := q.messages
  warning := script.warning
  pending := if script.connected then some (script.announced p q) else none

/-- What is collected at a place, and what is left on the board. -/
def collected (b : Backend) (script : CursorScript) (p : Value) (q : Place) :
    Except Fault (List Notice × NoticeBoard) :=
  if b.capabilities.warnings then b.dialect.collect (script.board p q)
  else .ok ([], script.board p q)

/-- The notices that the connection keeps when the place is left. -/
def kept (b : Backend) (script : CursorScript) (p : Value) (q : Place) : Value :=
  match script.collected b p q with
  | .ok (_, board) => board.pending.getD (script.announced p q)
  | .error _ => script.announced p q

end CursorScript

structure Step where
  /-- Whether the driver reaches the outcome. -/
  reached : Except Fault Unit
  notices : Except Fault (List Notice)
  outcome : Noted Outcome

namespace OutcomeScript

def reached : OutcomeScript → Except Fault Unit
  | .failing f => .error f
  | _ => .ok ()

end OutcomeScript

namespace CursorScript

/-- The step that a place makes. -/
def stepAt (b : Backend) (script : CursorScript) (p : Value) (q : Place) : Step where
  reached := q.outcome.reached
  notices := (script.collected b p q).map Prod.fst
  outcome := q.outcome.form b.dialect script.countsRows

/-- The steps that places make, where the first one is reached with the notices `p`. -/
def stepsAt (b : Backend) (script : CursorScript) : Value → List Place → List Step
  | _, [] => []
  | p, q :: rest => script.stepAt b p q :: script.stepsAt b (script.kept b p q) rest

def failedStep (f : Fault) : Step := ⟨.error f, .ok [], .ofExcept (.error f)⟩

/-- The steps of a walk over a script, on a connection with the notices `p`. -/
def steps (b : Backend) (script : CursorScript) (p : Value) : List Step :=
  match script.executeFault with
  | some f => [failedStep f]
  | none => script.stepsAt b p (script.firstPlace :: script.placesAfter b 0)

end CursorScript

namespace Step

/-- A first step: faults of the driver mean that the execution failed, and the notices come after
those that were not handed out yet. -/
def asFirst (sql : Option String) (held : List Notice) (p : Step) : Step where
  reached := p.reached.mapError (executionFault sql)
  notices := (p.notices.mapError (executionFault sql)).map (held ++ ·)
  outcome := p.outcome

def opening (sql : Option String) (held : List Notice) : List Step → List Step
  | [] => []
  | p :: rest => p.asFirst sql held :: rest

def perform (sink : Sink) (p : Step) : Action Journal (List ClassifiedWarning × Outcome) := do
  Action.ofExcept p.reached
  let warnings ← reportNotices sink (← Action.ofExcept p.notices)
  let outcome ← sink.settle p.outcome
  return (warnings, outcome)

end Step

namespace Step

variable {p : Step} {isTable : Bool} {sink : Sink}

/-- How the driver ends when it is asked for a step. -/
def arrive (p : Step) (isTable : Bool) : Except Fault Bool := do
  p.reached
  let _ ← p.notices
  return isTable

theorem arrive_of_notices {ns : List Notice} (hr : p.reached = .ok ()) (hn : p.notices = .ok ns) :
    p.arrive isTable = .ok isTable := by
  rw [arrive, hr, hn]
  rfl

theorem arrive_eq_ok {v : Bool} (h : p.arrive isTable = .ok v) :
    p.reached = .ok () ∧ (∃ ns, p.notices = .ok ns) ∧ v = isTable := by
  unfold arrive at h
  cases hr : p.reached with
  | error f =>
      rw [hr] at h
      cases h
  | ok u =>
      rw [hr] at h
      cases hn : p.notices with
      | error f =>
          rw [hn] at h
          cases h
      | ok ns =>
          rw [hn] at h
          exact ⟨rfl, ⟨ns, rfl⟩, (Except.ok.inj h).symm⟩

theorem arrive_asFirst (p : Step) (sql : Option String) (held : List Notice) (isTable : Bool) :
    (p.asFirst sql held).arrive isTable = (p.arrive isTable).mapError (executionFault sql) := by
  unfold arrive asFirst
  cases p.reached with
  | error f => rfl
  | ok u => cases p.notices <;> rfl

theorem perform_of_unreached {f : Fault} (h : p.reached = .error f) :
    p.perform sink = Action.fail f := by
  rw [perform, h]
  rfl

theorem perform_of_uncollected {f : Fault} (hr : p.reached = .ok ()) (hn : p.notices = .error f) :
    p.perform sink = Action.fail f := by
  rw [perform, hr, hn]
  rfl

theorem perform_of_arrive_error {f : Fault} (h : p.arrive isTable = .error f) :
    p.perform sink = Action.fail f := by
  unfold arrive at h
  cases hr : p.reached with
  | error e =>
      rw [hr] at h
      cases h
      exact perform_of_unreached hr
  | ok u =>
      rw [hr] at h
      cases hn : p.notices with
      | error e =>
          rw [hn] at h
          cases h
          exact perform_of_uncollected hr hn
      | ok ns =>
          rw [hn] at h
          cases h

theorem perform_of_notices {ns : List Notice} (hr : p.reached = .ok ()) (hn : p.notices = .ok ns) :
    p.perform sink = do
      let warnings ← reportNotices sink ns
      let outcome ← sink.settle p.outcome
      return (warnings, outcome) := by
  rw [perform, hr, hn]
  rfl

end Step

def course (sink : Sink) : List Step → Action Journal (List (List ClassifiedWarning × Outcome))
  | [] => return []
  | p :: rest => do
    let done ← p.perform sink
    return done :: (← course sink rest)

def WalkResult.ofDone (sql : Option String) (done : List (List ClassifiedWarning × Outcome)) :
    WalkResult :=
  { sql, outcomes := done.map Prod.snd, warnings := (done.map Prod.fst).flatten }

def walkOf (sink : Sink) (sql : Option String) (steps : List Step) : Action Journal WalkResult := do
  let done ← course sink steps
  Journal.note .debug .walking ("Walked " ++ toString done.length ++ " outcome(s)")
  return .ofDone sql done

namespace CursorScript

variable {b : Backend} {script : CursorScript} {k : Nat}

theorem placesAfter_eq_nil (h : script.placesAfter b k = []) :
    script.advances b = false ∨ script.outcomes[k + 1]? = none := by
  unfold placesAfter at h
  split at h
  · cases hd : script.outcomes.drop (k + 1) with
    | nil => exact .inr (List.getElem?_eq_none (List.drop_eq_nil_iff.mp hd))
    | cons o rest =>
        rw [hd] at h
        cases h
  · rename_i hadv
    exact .inl (by simpa using hadv)

theorem placesAfter_eq_cons {q : Place} {rest : List Place}
    (h : script.placesAfter b k = q :: rest) :
    script.advances b = true ∧ ∃ o, script.outcomes[k + 1]? = some o ∧
      q = script.placeAt (k + 1) o ∧ rest = script.placesAfter b (k + 1) := by
  unfold placesAfter at h
  split at h
  · rename_i hadv
    cases hd : script.outcomes.drop (k + 1) with
    | nil =>
        rw [hd] at h
        cases h
    | cons o os =>
        rw [hd] at h
        obtain ⟨rfl, rfl⟩ := List.cons.inj h
        have hlt : k + 1 < script.outcomes.length := by
          have := congrArg List.length hd
          rw [List.length_drop, List.length_cons] at this
          omega
        rw [List.drop_eq_getElem_cons hlt] at hd
        obtain ⟨rfl, rfl⟩ := List.cons.inj hd
        refine ⟨hadv, _, List.getElem?_eq_getElem hlt, rfl, ?_⟩
        rw [placesAfter, if_pos hadv]
  · cases h

theorem length_placesFrom (script : CursorScript) (k : Nat) (os : List OutcomeScript) :
    (script.placesFrom k os).length = os.length := by
  induction os generalizing k with
  | nil => rfl
  | cons o rest ih => rw [placesFrom, List.length_cons, List.length_cons, ih]

theorem length_placesAfter_le (b : Backend) (script : CursorScript) (k : Nat) :
    (script.placesAfter b k).length ≤ script.outcomes.length - (k + 1) := by
  unfold placesAfter
  split
  · exact Nat.le_of_eq (by rw [length_placesFrom, List.length_drop])
  · exact Nat.zero_le _

theorem map_outcome_placesFrom (script : CursorScript) (k : Nat) (os : List OutcomeScript) :
    (script.placesFrom k os).map Place.outcome = os := by
  induction os generalizing k with
  | nil => rfl
  | cons o rest ih => rw [placesFrom, List.map_cons, ih]; rfl

end CursorScript

end StatementWalk
