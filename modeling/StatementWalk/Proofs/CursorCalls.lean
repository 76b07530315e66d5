import StatementWalk.Proofs.Recording
import StatementWalk.Proofs.SessionAgreement

/-!
# Recorded calls of a cursor

A cursor that keeps a record of the calls that a session makes of it shows the same as the cursor
itself, so a session does not notice the record.
-/

namespace StatementWalk

variable {κ γ : Type}

inductive CursorCall where
  | execute (sql : String) (params : Option Value) (answer : Except Fault Unit)
  | fetch (answer : Except Fault (Option Value))
  | advance (answer : Except Fault Bool)
  | close (answer : Except Fault Unit)

def CursorCall.closes : CursorCall → Bool
  | .close _ => true
  | _ => false

/-- The cursor with a record of its calls, each of which is put down in a form of the record's. -/
def Cursor.recorded (c : Cursor κ) (form : CursorCall → γ) : Cursor (Recorded κ γ) where
  execute sql params := recording (form ∘ .execute sql params) (c.execute sql params)
  fetch := recording (form ∘ .fetch) c.fetch
  canAdvance s := c.canAdvance s.driver
  advance := recording (form ∘ .advance) c.advance
  close := recording (form ∘ .close) c.close
  description s := c.description s.driver
  rowCount s := c.rowCount s.driver
  notices s := c.notices s.driver
  setNotices board s := { s with driver := c.setNotices board s.driver }
  stamp s := c.stamp s.driver
  outcomesLeft s := c.outcomesLeft s.driver
  rowsLeft s := c.rowsLeft s.driver

theorem Cursor.matches_recorded (c : Cursor κ) (form : CursorCall → γ) :
    (c.recorded form).Matches Unrecorded c where
  execute _ _ := same_recording _ _
  fetch := same_recording _ _
  advance := same_recording _ _
  canAdvance_eq h := congrArg c.canAdvance h
  description_eq h := congrArg c.description h
  rowCount_eq h := congrArg c.rowCount h
  notices_eq h := congrArg c.notices h
  setNotices board _ _ h := congrArg (c.setNotices board) h
  stamp_eq h := congrArg c.stamp h
  outcomesLeft_eq h := congrArg c.outcomesLeft h
  rowsLeft_eq h := congrArg c.rowsLeft h

/-- The state of a cursor, and the same with a record to which calls were added that do not close
it. -/
def Asked (form : CursorCall → γ) (calls : List γ) (s : Recorded κ γ) (k : κ) : Prop :=
  s.driver = k ∧ ∃ asked : List CursorCall,
    s.calls = calls ++ asked.map form ∧ ∀ call ∈ asked, call.closes = false

theorem Asked.refl (form : CursorCall → γ) (s : Recorded κ γ) : Asked form s.calls s s.driver :=
  ⟨rfl, [], (List.append_nil s.calls).symm, fun _ h => absurd h List.not_mem_nil⟩

theorem same_asked {α : Type} {form : CursorCall → γ} {calls : List γ}
    {call : Except Fault α → CursorCall} (h : ∀ r, (call r).closes = false) (x : Action κ α) :
    Same (Asked form calls) (recording (form ∘ call) x) x := by
  rintro s _ ⟨rfl, asked, hcalls, hasked⟩
  refine ⟨_, _, _, rfl, rfl, rfl, asked ++ [call (x.run s.driver).1], ?_, fun made hmade => ?_⟩
  · rw [hcalls, List.map_append, List.append_assoc]
    rfl
  · rcases List.mem_append.mp hmade with hmade | hmade
    · exact hasked made hmade
    · rw [List.mem_singleton.mp hmade]
      exact h _

theorem Cursor.matches_asked (c : Cursor κ) (form : CursorCall → γ) (calls : List γ) :
    (c.recorded form).Matches (Asked form calls) c where
  execute _ _ := same_asked (fun _ => rfl) _
  fetch := same_asked (fun _ => rfl) _
  advance := same_asked (fun _ => rfl) _
  canAdvance_eq h := congrArg c.canAdvance h.1
  description_eq h := congrArg c.description h.1
  rowCount_eq h := congrArg c.rowCount h.1
  notices_eq h := congrArg c.notices h.1
  setNotices board _ _ h := ⟨congrArg (c.setNotices board) h.1, h.2⟩
  stamp_eq h := congrArg c.stamp h.1
  outcomesLeft_eq h := congrArg c.outcomesLeft h.1
  rowsLeft_eq h := congrArg c.rowsLeft h.1

theorem Same.refl {σ α : Type} (x : Action σ α) : Same Eq x x := by
  rintro s _ rfl
  exact ⟨_, _, _, rfl, rfl, rfl⟩

theorem Cursor.matches_refl (c : Cursor κ) : c.Matches Eq c where
  execute _ _ := .refl _
  fetch := .refl _
  advance := .refl _
  canAdvance_eq h := congrArg c.canAdvance h
  description_eq h := congrArg c.description h
  rowCount_eq h := congrArg c.rowCount h
  notices_eq h := congrArg c.notices h
  setNotices board _ _ h := congrArg (c.setNotices board) h
  stamp_eq h := congrArg c.stamp h
  outcomesLeft_eq h := congrArg c.outcomesLeft h
  rowsLeft_eq h := congrArg c.rowsLeft h

end StatementWalk
