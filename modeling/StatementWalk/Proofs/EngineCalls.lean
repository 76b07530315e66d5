import StatementWalk.Connection.Connection
import StatementWalk.Proofs.CursorCalls

/-!
# Recorded calls of an engine

What a run asks of an engine is made visible by an engine that keeps a record of every call, those
of its cursors with them. Engines that answer alike give runs that end in the same way and write the
same, so a run does not notice the record.
-/

namespace StatementWalk

variable {ε φ α : Type}

/-- A call of an engine, or of one of the cursors that it has given out, with how it ended. -/
inductive EngineCall where
  | create (url : String) (settings : EngineSettings) (answer : Except Fault Unit)
  | connect (answer : Except Fault Unit)
  | run (text : String) (answer : Except Fault Unit)
  | openCursor (answer : Except Fault Nat)
  | onCursor (number : Nat) (call : CursorCall)
  | commit (answer : Except Fault Unit)
  | release (answer : Except Fault Unit)
  | dispose (answer : Except Fault Unit)

def Engine.recorded (e : Engine ε) : Engine (Recorded ε EngineCall) where
  create url settings := recording (.create url settings) (e.create url settings)
  connect := recording .connect e.connect
  run text := recording (.run text) (e.run text)
  openCursor := recording .openCursor e.openCursor
  cursor number := (e.cursor number).recorded (.onCursor number)
  commit := recording .commit e.commit
  release := recording .release e.release
  dispose := recording .dispose e.dispose

/-- Engines in related states answer alike, and so do the cursors that they give out. -/
structure Engine.Matches (R : ε → φ → Prop) (e : Engine ε) (g : Engine φ) : Prop where
  connect : Same R e.connect g.connect
  run (text : String) : Same R (e.run text) (g.run text)
  openCursor : Same R e.openCursor g.openCursor
  cursor (number : Nat) : (e.cursor number).Matches R (g.cursor number)
  close (number : Nat) : Same R (e.cursor number).close (g.cursor number).close
  commit : Same R e.commit g.commit
  release : Same R e.release g.release

theorem Engine.matches_recorded (e : Engine ε) : e.recorded.Matches Unrecorded e where
  connect := same_recording _ _
  run _ := same_recording _ _
  openCursor := same_recording _ _
  cursor number := (e.cursor number).matches_recorded _
  close _ := same_recording _ _
  commit := same_recording _ _
  release := same_recording _ _

/-- The engines are related, and the connection refers to both or to none. -/
structure Hosted.Alike (R : ε → φ → Prop) (h : Hosted ε) (g : Hosted φ) : Prop where
  engine : R h.engine g.engine
  live_eq : h.live = g.live

namespace Session

variable {κ μ : Type} {R : κ → μ → Prop} {c : Cursor κ} {q : Cursor μ}

end Session

namespace Connection

variable {R : ε → φ → Prop} {e : Engine ε} {g : Engine φ}

theorem run_onEngine (x : Action ε α) (s : ε) (live : Bool) (j : Journal) :
    (onEngine x).run ⟨⟨s, live⟩, j⟩ = ((x.run s).1, ⟨⟨(x.run s).2, live⟩, j⟩) := rfl

end Connection

end StatementWalk
