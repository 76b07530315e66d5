import StatementWalk.Proofs.RunCalls

/-!
# Runs of a connection

A run takes a connection from its engine, and a cursor from the connection. It gives both back
whatever becomes of the walk in between, and commits the work if the walk ended well and the engine
does not commit by itself.
-/

namespace StatementWalk

variable {ε κ σ γ α β : Type}

/-- A fault of the cleanup hides how the action ended. -/
theorem run_thenAlways_eq {x : Action σ α} {cleanup : Action σ Unit} {r : Except Fault α}
    {q : Except Fault Unit} {s t u : σ} (h : x.run s = (r, t)) (hcleanup : cleanup.run t = (q, u)) :
    (x.thenAlways cleanup).run s = (q.bind fun _ => r, u) := by
  rw [Action.run_thenAlways h, hcleanup]
  cases q <;> rfl

theorem run_quietlyClosing {c : Closable σ} {x : Action (World σ) α} {r : Except Fault α}
    {w v : World σ} (h : x.run w = (r, v)) :
    ∃ j, (quietlyClosing (some c) x).run w = (r, ⟨(c.close.run v.driver).2, j⟩) := by
  obtain ⟨⟨failure, hclosed⟩, hdriver⟩ := run_closeQuietly c v
  have hclose : (do let _ ← closeIfPresent (some c)).run v = (.ok (), ((closeQuietly c).run v).2) :=
    Action.run_bind_ok (Prod.ext hclosed rfl)
  refine ⟨((closeQuietly c).run v).2.journal, ?_⟩
  rw [quietlyClosing, run_thenAlways_eq h hclose, ← hdriver]
  rfl

namespace Connection

theorem run_onEngine_eq {x : Action ε α} {r : Except Fault α} {s t : ε} {live : Bool} {j : Journal}
    (h : x.run s = (r, t)) : (onEngine x).run ⟨⟨s, live⟩, j⟩ = (r, ⟨⟨t, live⟩, j⟩) := by
  rw [run_onEngine, h]

def entering (c : Connection) (e : Engine ε) : Action ε Nat := do
  match timeoutText? c.config with
  | some text => e.run text
  | none => pure ()
  e.openCursor

def opening (c : Connection) (e : Engine ε) : Action ε Nat := do
  e.connect
  c.entering e

def walkOf (c : Connection) (e : Engine ε) (own : Option Session.Prepared) (sink : Sink)
    (text : Option String) (number : Nat) : Action (World (Session ε)) WalkResult :=
  walk c.backend.dialect sink (Session.statement c.backend (e.cursor number) own) text

variable (c : Connection) (e : Engine ε) (own : Option Session.Prepared) (sink : Sink)
  (text : Option String)

def walkedFrom (j : Journal) : Except Fault Nat × ε → Option (Except Fault WalkResult)
  | (.ok number, s) => some ((c.walkOf e own sink text number).run ⟨.fresh s, j⟩).1
  | (.error _, _) => none

def preparedBy (sql : String) (params : Option Value) : Option Session.Prepared :=
  params.map fun p => ⟨sql, some p⟩

def givenBy (sql : String) (params : Option Value) : Option String :=
  if params.isSome then none else some sql

def refuses (c : Connection) (params : Option Value) : Bool :=
  params.isSome && !c.backend.capabilities.preparedStatements

theorem run_eq (sql : String) (params : Option Value) :
    c.run e sink sql params =
      if c.refuses params then Action.fail (c.noParameters sql)
      else c.withStatement e (preparedBy sql params) fun st =>
        walk c.backend.dialect sink st (givenBy sql params) := by
  cases params with
  | none => rfl
  | some p =>
      unfold run refuses
      cases c.backend.capabilities.preparedStatements <;> rfl

def walked? (sql : String) (params : Option Value) (w : World (Hosted ε)) :
    Option (Except Fault WalkResult) :=
  c.walkedFrom e (preparedBy sql params) sink (givenBy sql params) w.journal
    ((c.opening e).run w.driver.engine)

end Connection

end StatementWalk
