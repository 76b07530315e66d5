import StatementWalk.Proofs.Moving
import StatementWalk.Proofs.OutcomeView

/-!
# Rows delivered to handles

The result sets that a session gives out share its cursor. A row is taken from the outcome whose
rows the cursor holds when the row is asked for, whichever handle asks. So the rows come in the
order of the script and none comes twice. But a handle keeps to the outcome that it was obtained on
only until the cursor moves: from then on it takes the rows of the later outcome.
-/

namespace StatementWalk

/-- The rows of a result set. Any other outcome has none. -/
def OutcomeScript.items : OutcomeScript → List Value
  | .rows _ items _ => items
  | _ => []

namespace CursorScript

variable {script : CursorScript} {k n : Nat} {o : OutcomeScript}

def itemsAt (script : CursorScript) (k : Nat) : List Value :=
  match script.outcomes[k]? with
  | some o => o.items
  | none => []

/-- The outcome whose rows a cursor holds at a place. An outcome that the driver does not reach
leaves the rows that were there before it, and past the last outcome there are none. -/
def held (script : CursorScript) : Nat → Option Nat
  | 0 =>
    match script.outcomes[(0 : Nat)]? with
    | some (.failing _) => none
    | some _ => some 0
    | none => none
  | k + 1 =>
    match script.outcomes[k + 1]? with
    | some (.failing _) => held script k
    | some _ => some (k + 1)
    | none => none

theorem held_of_reached (ho : script.outcomes[k]? = some o) (hr : o.reached = .ok ()) :
    script.held k = some k := by
  cases o with
  | failing f => cases hr
  | rows entries items fault => cases k <;> rw [held, ho]
  | count v => cases k <;> rw [held, ho]

theorem held_of_none (h : script.outcomes[k]? = none) : script.held k = none := by
  cases k <;> rw [held, h]

theorem held_succ_of_failing {f : Fault} (h : script.outcomes[k + 1]? = some (.failing f)) :
    script.held (k + 1) = script.held k := by
  rw [held, h]

theorem held_le (script : CursorScript) {k m : Nat} (h : script.held k = some m) : m ≤ k := by
  induction k with
  | zero =>
      unfold held at h
      split at h
      · cases h
      · cases h
        exact Nat.le_refl 0
      · cases h
  | succ k ih =>
      unfold held at h
      split at h
      · exact Nat.le_succ_of_le (ih h)
      · cases h
        exact Nat.le_refl _
      · cases h

/-- The rows that a cursor at a place held when it came there. -/
def heldItems (script : CursorScript) (k : Nat) : List Value :=
  match script.held k with
  | some o => script.itemsAt o
  | none => []

end CursorScript

namespace ScriptedCursor

variable {c k : ScriptedCursor} {n : Nat}

def current (c : ScriptedCursor) : Option Nat := c.script.held c.position

/-- The cursor holds the rows of its outcome that were not fetched yet. -/
structure Holds (c : ScriptedCursor) : Prop where
  rows_eq : c.rows = (c.script.heldItems c.position).drop c.fetched
  described (h : c.description.isSome = true) : ∃ o, c.current = some o

/-- The cursor stayed where it was, and that many rows were fetched from it. -/
structure Taken (n : Nat) (c k : ScriptedCursor) : Prop where
  script_eq : k.script = c.script
  position_eq : k.position = c.position
  description_eq : k.description = c.description
  rows_eq : k.rows = c.rows.drop n
  fetched_eq : k.fetched = c.fetched + n

theorem Taken.refl (c : ScriptedCursor) : c.Taken 0 c := ⟨rfl, rfl, rfl, rfl, rfl⟩

theorem taken_touch (c : ScriptedCursor) : Taken 0 c c.touch := ⟨rfl, rfl, rfl, rfl, rfl⟩

theorem Taken.current_eq (h : Taken n c k) : k.current = c.current := by
  rw [current, current, h.script_eq, h.position_eq]

theorem Holds.taken (h : c.Holds) (ht : Taken n c k) : k.Holds where
  rows_eq := by
    rw [ht.rows_eq, ht.script_eq, ht.position_eq, ht.fetched_eq, h.rows_eq, List.drop_drop]
  described hk := by
    rw [ht.current_eq]
    exact h.described (by rwa [← ht.description_eq])

theorem Holds.next (h : c.Holds) {v : Value} {rest : List Value} (hrows : c.rows = v :: rest) :
    ∃ o, c.current = some o ∧ (c.script.itemsAt o)[c.fetched]? = some v := by
  have hdrop : (c.script.heldItems c.position).drop c.fetched = v :: rest :=
    h.rows_eq.symm.trans hrows
  unfold CursorScript.heldItems at hdrop
  split at hdrop
  · rename_i o ho
    refine ⟨o, ho, ?_⟩
    have hhead := congrArg List.head? hdrop
    rwa [List.head?_drop] at hhead
  · rw [List.drop_nil] at hdrop
    cases hdrop

theorem taken_setNotices (board : NoticeBoard) (c : ScriptedCursor) :
    Taken 0 c (setNotices board c) := ⟨rfl, rfl, rfl, rfl, rfl⟩

/-- Arriving at a place, the cursor holds what the script says is held there. -/
theorem run_arrive_reached {o : OutcomeScript} (ho : c.script.outcomes[c.position]? = some o)
    (hr : o.reached = .ok ()) :
    ∃ k, arrive.run c = (.ok true, k) ∧ k.Holds ∧ k.script = c.script ∧
      k.position = c.position := by
  have hheld := CursorScript.held_of_reached ho hr
  have hitems : c.script.heldItems c.position = o.items := by
    simp only [CursorScript.heldItems, hheld, CursorScript.itemsAt, ho]
  rw [run_arrive_some ho]
  cases o with
  | failing f => cases hr
  | rows entries items fault => exact ⟨_, rfl, ⟨hitems.symm, fun _ => ⟨_, hheld⟩⟩, rfl, rfl⟩
  | count v => exact ⟨_, rfl, ⟨hitems.symm, fun _ => ⟨_, hheld⟩⟩, rfl, rfl⟩

theorem holds_pastEnd (h : c.script.outcomes[c.position]? = none) : c.pastEnd.Holds where
  rows_eq := by
    have hnone : c.pastEnd.script.heldItems c.pastEnd.position = [] := by
      show c.script.heldItems c.position = []
      rw [CursorScript.heldItems, CursorScript.held_of_none h]
    rw [hnone, List.drop_nil]
    rfl
  described hd := by cases hd

theorem run_execute_holds (c : ScriptedCursor) (sql : String) (params : Option Value) :
    ∃ r k, (execute sql params).run c = (r, k) ∧ k.script = c.script ∧ (r = .ok () → k.Holds) := by
  rw [execute, Action.run_bind_ok (Action.run_state c)]
  cases c.script.executeFault with
  | some f => exact ⟨_, _, rfl, rfl, fun h => by cases h⟩
  | none =>
      have hrun : (do
          Action.modify fun c : ScriptedCursor =>
            { c with executed := c.executed ++ [(sql, params)], position := 0 }
          let _ ← arrive).run c = (arrive >>= fun _ => pure ()).run (begun sql params c) := rfl
      dsimp only
      rw [hrun]
      cases ho : c.script.outcomes[(0 : Nat)]? with
      | none =>
          rw [Action.run_bind_ok (run_arrive_none (c := begun sql params c) ho)]
          exact ⟨_, _, rfl, rfl, fun _ => holds_pastEnd (c := begun sql params c) ho⟩
      | some o =>
          cases hr : o.reached with
          | ok u =>
              obtain ⟨k, hk, hholds, hscript, -⟩ :=
                run_arrive_reached (c := begun sql params c) ho hr
              rw [Action.run_bind_ok hk]
              exact ⟨_, _, rfl, hscript, fun _ => hholds⟩
          | error f =>
              cases o with
              | failing g =>
                  have harrive := run_arrive_some (c := begun sql params c) ho
                  exact ⟨_, _, Action.run_bind_error harrive, rfl, fun h => by cases h⟩
              | rows entries items fault => cases hr
              | count v => cases hr

structure MovedOn (c k : ScriptedCursor) : Prop where
  script_eq : k.script = c.script
  position_eq : k.position = c.position + 1
  holds : k.Holds
  current_eq : k.current = none ∨ k.current = some k.position ∨
    (k.current = c.current ∧ k.fetched = c.fetched)

theorem movedOn_advance (h : c.Holds) : c.MovedOn (cursor.advance.run c).2 := by
  rw [Session.run_cursor_advance]
  cases ho : c.script.outcomes[c.position + 1]? with
  | none =>
      have harrive := run_arrive_none (c := { c.touch with position := c.position + 1 }) ho
      rw [harrive]
      exact ⟨rfl, rfl, holds_pastEnd ho, .inl (CursorScript.held_of_none ho)⟩
  | some o =>
      cases hr : o.reached with
      | ok u =>
          obtain ⟨k, hk, hholds, hscript, hposition⟩ :=
            run_arrive_reached (c := { c.touch with position := c.position + 1 }) ho hr
          have hcurrent : k.current = some k.position := by
            rw [current, hscript, hposition]
            exact CursorScript.held_of_reached ho hr
          rw [hk]
          exact ⟨hscript, hposition, hholds, .inr (.inl hcurrent)⟩
      | error f =>
          cases o with
          | failing g =>
              have hheld := CursorScript.held_succ_of_failing ho
              rw [run_arrive_some (c := { c.touch with position := c.position + 1 }) ho]
              refine ⟨rfl, rfl, ⟨?_, fun hd => ?_⟩, .inr (.inr ⟨hheld, rfl⟩)⟩
              · show c.rows = (c.script.heldItems (c.position + 1)).drop c.fetched
                rw [CursorScript.heldItems, hheld]
                exact h.rows_eq
              · obtain ⟨o, ho⟩ := h.described hd
                exact ⟨o, hheld.trans ho⟩
          | rows entries items fault => cases hr
          | count v => cases hr

theorem MovedOn.taken {k' : ScriptedCursor} (h : c.MovedOn k) (ht : Taken 0 k k') :
    c.MovedOn k' where
  script_eq := ht.script_eq.trans h.script_eq
  position_eq := ht.position_eq.trans h.position_eq
  holds := h.holds.taken ht
  current_eq := by
    rw [ht.current_eq, ht.position_eq, ht.fetched_eq]
    exact h.current_eq

/-- The cursor had rows fetched from it, or it went on to the next place. -/
def Onward (c k : ScriptedCursor) : Prop := (∃ n, c.Taken n k) ∨ c.MovedOn k

/-- The cursor holds the rows of the outcome, or of a later one. -/
def UpTo (c : ScriptedCursor) (m : Nat) : Prop := m ≤ c.position ∧ ∀ o, c.current = some o → m ≤ o

namespace Onward

theorem script_eq (h : c.Onward k) : k.script = c.script := by
  rcases h with ⟨n, h⟩ | h
  · exact h.script_eq
  · exact h.script_eq

theorem holds (h : c.Onward k) (hc : c.Holds) : k.Holds := by
  rcases h with ⟨n, h⟩ | h
  · exact hc.taken h
  · exact h.holds

theorem upTo (h : c.Onward k) {m : Nat} (hm : c.UpTo m) : k.UpTo m := by
  obtain ⟨hposition, hcurrent⟩ := hm
  rcases h with ⟨n, h⟩ | h
  · rw [UpTo, h.position_eq, h.current_eq]
    exact ⟨hposition, hcurrent⟩
  · have hnext := h.position_eq
    refine ⟨by omega, fun o ho => ?_⟩
    rcases h.current_eq with hnone | hhere | ⟨hsame, -⟩
    · rw [hnone] at ho
      cases ho
    · rw [hhere] at ho
      cases ho
      omega
    · exact hcurrent o (hsame.symm.trans ho)

/-- What was fetched from an outcome stays fetched as long as the cursor holds its rows. -/
theorem fetched_le (h : c.Onward k) {m : Nat} (hm : m ≤ c.position) (hk : k.current = some m) :
    c.current = some m ∧ c.fetched ≤ k.fetched := by
  rcases h with ⟨n, h⟩ | h
  · rw [h.current_eq] at hk
    exact ⟨hk, by rw [h.fetched_eq]; omega⟩
  · rcases h.current_eq with hnone | hhere | ⟨hsame, hfetched⟩
    · rw [hnone] at hk
      cases hk
    · rw [hhere, h.position_eq] at hk
      cases hk
      omega
    · exact ⟨hsame.symm.trans hk, Nat.le_of_eq hfetched.symm⟩

end Onward

theorem current_le (c : ScriptedCursor) {m : Nat} (h : c.current = some m) : m ≤ c.position :=
  c.script.held_le h

end ScriptedCursor

namespace Session

variable {b : Backend} {s : Session ScriptedCursor} {i : Nat}

theorem run_collectWarnings_cursor (b : Backend) (s : Session ScriptedCursor) :
    let t := ((collectWarnings b ScriptedCursor.cursor).run s).2
    s.cursor.Taken 0 t.cursor ∧ t.handles = s.handles := by
  unfold collectWarnings
  split
  · rw [Action.run_bind_ok (Action.run_state s)]
    cases hcollect : b.dialect.collect (ScriptedCursor.cursor.notices s.cursor) with
    | error f =>
        rw [Action.run_bind_error (Action.run_ofExcept _ s)]
        exact ⟨.refl _, rfl⟩
    | ok found =>
        rw [Action.run_bind_ok (Action.run_ofExcept _ s)]
        exact ⟨ScriptedCursor.taken_setNotices found.2 s.cursor, rfl⟩
  · exact ⟨.refl _, rfl⟩

theorem run_advance_cursor (b : Backend) (hs : s.exhausted = false) :
    let t := ((advance b ScriptedCursor.cursor).run s).2
    t.handles = s.handles ∧ (s.cursor.Holds →
      s.cursor.Taken 0 t.cursor ∨ s.cursor.MovedOn t.cursor) := by
  cases hadv : s.cursor.script.advances b with
  | false =>
      rw [run_advance_of_not hadv]
      exact ⟨rfl, fun _ => .inl (.refl _)⟩
  | true =>
      have hmoved := ScriptedCursor.movedOn_advance (c := s.cursor)
      rw [run_advance hadv hs]
      cases hcursor : ScriptedCursor.cursor.advance.run s.cursor with
      | mk r k =>
      rw [hcursor] at hmoved
      cases r with
      | error f =>
          rw [Action.run_bind_error (run_onCursor hcursor)]
          exact ⟨rfl, fun h => .inr (hmoved h)⟩
      | ok more =>
          rw [Action.run_bind_ok (run_onCursor hcursor)]
          cases more with
          | false => exact ⟨rfl, fun h => .inr (hmoved h)⟩
          | true =>
              obtain ⟨htaken, hhandles⟩ := run_collectWarnings_cursor b { s with cursor := k }
              simp only [if_true]
              rw [Action.snd_run_bind fun _ _ => rfl]
              exact ⟨hhandles, fun h => .inr ((hmoved h).taken htaken)⟩

theorem run_moreResults_advance (b : Backend) (c : Cursor ScriptedCursor)
    (s : Session ScriptedCursor) :
    ((moreResults b c).run s).2.cursor = ((advance b c).run s).2.cursor ∧
      ((moreResults b c).run s).2.handles = ((advance b c).run s).2.handles := by
  cases hadvance : (advance b c).run s with
  | mk r t =>
  cases r with
  | error f =>
      rw [moreResults, Action.run_bind_error hadvance]
      exact ⟨rfl, rfl⟩
  | ok more =>
      cases more with
      | false =>
          rw [run_moreResults_of_not_advanced hadvance]
          exact ⟨rfl, rfl⟩
      | true =>
          rw [run_moreResults_of_advanced hadvance]
          exact ⟨rfl, rfl⟩

/-- A move leaves an exhausted session alone. -/
theorem run_moreResults_cursor (b : Backend) (s : Session ScriptedCursor) :
    let t := ((moreResults b ScriptedCursor.cursor).run s).2
    t.handles = s.handles ∧ (s.exhausted = true → t = s) ∧
      (s.cursor.Holds → s.cursor.Taken 0 t.cursor ∨ s.cursor.MovedOn t.cursor) := by
  cases hs : s.exhausted with
  | true =>
      rw [run_moreResults_of_exhausted hs]
      exact ⟨rfl, fun _ => rfl, fun _ => .inl (.refl _)⟩
  | false =>
      obtain ⟨hcursor, hhandles⟩ := run_moreResults_advance b ScriptedCursor.cursor s
      obtain ⟨hkept, hmoves⟩ := run_advance_cursor b hs
      refine ⟨hhandles.trans hkept, nofun, fun h => ?_⟩
      rw [hcursor]
      exact hmoves h

/-- Either a result set is given out, with a new handle, or nothing happens. -/
theorem run_currentResultSet_cases (b : Backend) (s : Session ScriptedCursor) :
    (∃ rs columns, (currentResultSet b ScriptedCursor.cursor).run s =
        (.ok (some rs), { s with handles := s.handles ++ [{ columns }] }) ∧
      s.exhausted = false ∧ s.cursor.description.isSome = true) ∨
    ∃ r, (currentResultSet b ScriptedCursor.cursor).run s = (r, s) ∧ ∀ rs, r ≠ .ok (some rs) := by
  rw [currentResultSet, Action.run_bind_ok (Action.run_state s)]
  cases hkind : onResultSet ScriptedCursor.cursor s with
  | false => exact .inr ⟨.ok none, rfl, fun _ h => by cases h⟩
  | true =>
      simp only [onResultSet, Bool.and_eq_true, Bool.not_eq_true'] at hkind
      simp only [if_true, Action.run_map, openResultSet]
      cases hcolumns : b.dialect.describeAll 1
        ((ScriptedCursor.cursor.description s.cursor).getD []) with
      | error f =>
          rw [Action.run_bind_error (Action.run_ofExcept _ s)]
          exact .inr ⟨_, rfl, fun _ h => by cases h⟩
      | ok columns =>
          rw [Action.run_bind_ok (Action.run_ofExcept _ s)]
          exact .inl ⟨_, columns, rfl, hkind⟩

theorem lt_of_open (h : (handle i s).closed = false) : i < s.handles.length := by
  refine Nat.lt_of_not_le fun hi => ?_
  rw [handle, List.getD_eq_getElem?_getD, List.getElem?_eq_none hi] at h
  cases h

theorem length_handles_moved (c : Cursor ScriptedCursor) (i : Nat) (row : Option (List Value))
    (k : ScriptedCursor) (s : Session ScriptedCursor) :
    (moved c i row k s).handles.length = s.handles.length := by
  simp [moved, setHandle]

/-- An open handle is given the next row of the cursor, or it has none. It says so and leaves the
cursor its rows only where the cursor has no row left and raises no fault. -/
theorem run_nextRow_cases (h : (handle i s).closed = false) :
    (∃ v rest row, s.cursor.rows = v :: rest ∧ v.toRow = .ok row ∧
      (nextRow ScriptedCursor.cursor i).run s =
        (.ok true, moved ScriptedCursor.cursor i (some row)
          { s.cursor.touch with rows := rest, fetched := s.cursor.fetched + 1 } s)) ∨
    ∃ r t n, (nextRow ScriptedCursor.cursor i).run s = (r, t) ∧ r ≠ .ok true ∧
      s.cursor.Taken n t.cursor ∧ t.handles.length = s.handles.length ∧ t.exhausted = s.exhausted ∧
      (r = .ok false ∧ t.cursor.rows = s.cursor.rows ↔
        fetchFaultAt s.cursor.fetchFault s.cursor.fetched = none ∧ s.cursor.rows = []) := by
  cases hfault : fetchFaultAt s.cursor.fetchFault s.cursor.fetched with
  | some f =>
      exact .inr ⟨_, _, 0, run_nextRow_error h (ScriptedCursor.run_fetch_error hfault), nofun,
        ScriptedCursor.taken_touch s.cursor, rfl, rfl, by simp⟩
  | none =>
      have hfetch := ScriptedCursor.run_fetch_ok hfault
      cases hrows : s.cursor.rows with
      | nil =>
          rw [ScriptedCursor.run_takeRow_nil (c := s.cursor.touch) hrows] at hfetch
          exact .inr ⟨_, _, 0, run_nextRow_none h hfetch, nofun,
            ScriptedCursor.taken_touch s.cursor, length_handles_moved .., rfl,
            fun _ => ⟨rfl, rfl⟩, fun _ => ⟨rfl, hrows⟩⟩
      | cons v rest =>
          rw [ScriptedCursor.run_takeRow_cons (c := s.cursor.touch) hrows] at hfetch
          have htaken : s.cursor.Taken 1
              { s.cursor.touch with rows := rest, fetched := s.cursor.fetched + 1 } :=
            ⟨rfl, rfl, rfl, by rw [hrows]; rfl, rfl⟩
          have hfewer : rest ≠ v :: rest := (List.cons_ne_self v rest).symm
          cases hnull : v.isNull with
          | true =>
              rw [hnull] at hfetch
              exact .inr ⟨_, _, 1, run_nextRow_none h hfetch, nofun, htaken,
                length_handles_moved .., rfl, fun hr => absurd hr.2 hfewer, nofun⟩
          | false =>
              rw [hnull] at hfetch
              cases hrow : v.toRow with
              | error f =>
                  exact .inr ⟨_, _, 1, run_nextRow_notARow h hfetch hrow, nofun, htaken, rfl, rfl,
                    by simp⟩
              | ok row => exact .inl ⟨v, rest, row, rfl, hrow, run_nextRow_some h hfetch hrow⟩

end Session

/-- A call of a statement that was executed, or of one of the result sets that it gave out. -/
inductive DrainCall where
  | moreResults
  | resultSet
  | nextRow (handle : Nat)
  | close (handle : Nat)
deriving DecidableEq, Repr

structure Delivery where
  handle : Nat
  /-- The outcome whose rows the cursor held. -/
  outcome : Option Nat
  /-- The number of rows that were fetched from the outcome before. -/
  place : Nat
  row : List Value

structure Draining where
  session : Session ScriptedCursor
  /-- For each handle the outcome on which it was obtained. -/
  origins : List (Option Nat) := []
  delivered : List Delivery := []

namespace Draining

open Session

variable {b : Backend} {d : Draining}

def begin (b : Backend) (script : CursorScript) (pending : Value) (sql : String)
    (params : Option Value) : Draining where
  session := ((execute b ScriptedCursor.cursor sql params).run
    (fresh (.ofScript script pending))).2

def step (b : Backend) (d : Draining) : DrainCall → Draining
  | .moreResults => { d with session := ((moreResults b ScriptedCursor.cursor).run d.session).2 }
  | .resultSet =>
    match (currentResultSet b ScriptedCursor.cursor).run d.session with
    | (.ok (some _), s) =>
        { d with session := s, origins := d.origins ++ [d.session.cursor.current] }
    | (_, s) => { d with session := s }
  | .nextRow i =>
    match (nextRow ScriptedCursor.cursor i).run d.session with
    | (.ok true, s) =>
      { d with
        session := s
        delivered := d.delivered ++
          [⟨i, d.session.cursor.current, d.session.cursor.fetched,
            ((Session.handle i s).row).getD []⟩] }
    | (_, s) => { d with session := s }
  | .close i => { d with session := ((closeHandle i).run d.session).2 }

def run (b : Backend) (d : Draining) (calls : List DrainCall) : Draining := calls.foldl (step b) d

def origin (d : Draining) (i : Nat) : Option Nat := d.origins[i]?.join

end Draining

namespace Delivery

/-- The delivery is of an earlier row in the order of the script. -/
def Before (x y : Delivery) : Prop :=
  x.outcome < y.outcome ∨ x.outcome = y.outcome ∧ x.place < y.place

/-- The row stands in the script, in the outcome on which the handle was obtained or in a later
one. -/
def FromScript (x : Delivery) (script : CursorScript) (origin : Option Nat) : Prop :=
  ∃ n m v, origin = some n ∧ x.outcome = some m ∧ n ≤ m ∧
    (script.itemsAt m)[x.place]? = some v ∧ v.toRow = .ok x.row

/-- The cursor is past the row. -/
def Passed (x : Delivery) (c : ScriptedCursor) : Prop :=
  ∃ m, x.outcome = some m ∧ c.UpTo m ∧ (c.current = some m → x.place < c.fetched)

theorem Passed.onward {x : Delivery} {c k : ScriptedCursor} (h : x.Passed c) (hk : c.Onward k) :
    x.Passed k := by
  obtain ⟨m, hm, hupTo, hplace⟩ := h
  refine ⟨m, hm, hk.upTo hupTo, fun hcurrent => ?_⟩
  obtain ⟨hc, hfetched⟩ := hk.fetched_le hupTo.1 hcurrent
  exact Nat.lt_of_lt_of_le (hplace hc) hfetched

end Delivery

namespace Draining

open Session

variable {b : Backend} {script : CursorScript} {d : Draining} {t : Session ScriptedCursor}

/-- What was obtained so far is accounted for by the script. -/
structure Orderly (script : CursorScript) (d : Draining) : Prop where
  script_eq : d.session.cursor.script = script
  standing : (d.session.handles = [] ∧ d.session.exhausted = true) ∨ d.session.cursor.Holds
  origins_length : d.origins.length = d.session.handles.length
  origins_upTo : ∀ o ∈ d.origins, ∃ m, o = some m ∧ d.session.cursor.UpTo m
  delivered_from : ∀ x ∈ d.delivered, x.FromScript script (d.origin x.handle)
  delivered_passed : ∀ x ∈ d.delivered, x.Passed d.session.cursor
  ordered : d.delivered.Pairwise Delivery.Before

namespace Orderly

theorem exists_origin (h : Orderly script d) {i : Nat} (hi : i < d.session.handles.length) :
    ∃ n, d.origin i = some n ∧ d.session.cursor.UpTo n := by
  have hlt : i < d.origins.length := by rwa [h.origins_length]
  obtain ⟨n, hn, hupTo⟩ := h.origins_upTo _ (List.getElem_mem hlt)
  exact ⟨n, Option.join_eq_some_iff.mpr (List.getElem?_eq_some_iff.mpr ⟨hlt, hn⟩), hupTo⟩

/-- A call that gives out nothing keeps the account. -/
theorem onward (h : Orderly script d) (hcursor : d.session.cursor.Onward t.cursor)
    (hlength : t.handles.length = d.session.handles.length)
    (hexhausted : d.session.exhausted = true → d.session.handles = [] → t.exhausted = true) :
    Orderly script { d with session := t } where
  script_eq := hcursor.script_eq.trans h.script_eq
  standing := by
    rcases h.standing with ⟨hhandles, hs⟩ | hholds
    · rw [hhandles] at hlength
      exact .inl ⟨List.length_eq_zero_iff.mp hlength, hexhausted hs hhandles⟩
    · exact .inr (hcursor.holds hholds)
  origins_length := h.origins_length.trans hlength.symm
  origins_upTo o ho := by
    obtain ⟨m, rfl, hm⟩ := h.origins_upTo o ho
    exact ⟨m, rfl, hcursor.upTo hm⟩
  delivered_from := h.delivered_from
  delivered_passed x hx := (h.delivered_passed x hx).onward hcursor
  ordered := h.ordered

/-- A new handle was obtained on the outcome whose rows the cursor holds. -/
theorem opened (h : Orderly script d) (hdescribed : d.session.cursor.description.isSome = true)
    (hexhausted : d.session.exhausted = false) (columns : List Column) :
    Orderly script
      { d with
        session := { d.session with handles := d.session.handles ++ [{ columns }] }
        origins := d.origins ++ [d.session.cursor.current] } := by
  have hholds : d.session.cursor.Holds := by
    rcases h.standing with ⟨-, hs⟩ | hholds
    · rw [hexhausted] at hs
      cases hs
    · exact hholds
  obtain ⟨o, ho⟩ := hholds.described hdescribed
  exact {
    script_eq := h.script_eq
    standing := .inr hholds
    origins_length := by simp [h.origins_length]
    origins_upTo := by
      intro x hx
      rcases List.mem_append.mp hx with hx | hx
      · exact h.origins_upTo x hx
      · obtain rfl := List.mem_singleton.mp hx
        exact ⟨o, ho, d.session.cursor.current_le ho, fun m hm => by
          rw [ho] at hm
          exact Nat.le_of_eq (Option.some.inj hm)⟩
    delivered_from := by
      intro x hx
      obtain ⟨n, m, v, hn, hrest⟩ := h.delivered_from x hx
      have hlt : x.handle < d.origins.length :=
        (List.getElem?_eq_some_iff.mp (Option.join_eq_some_iff.mp hn)).choose
      exact ⟨n, m, v, by rwa [Draining.origin, List.getElem?_append_left hlt], hrest⟩
    delivered_passed := h.delivered_passed
    ordered := h.ordered }

/-- A delivered row is the next one of the outcome whose rows the cursor holds. -/
theorem delivering (h : Orderly script d) {i : Nat} {v : Value} {rest : List Value}
    {row : List Value}
    (hopen : (handle i d.session).closed = false) (hrows : d.session.cursor.rows = v :: rest)
    (hrow : v.toRow = .ok row) (hcursor : d.session.cursor.Taken 1 t.cursor)
    (hlength : t.handles.length = d.session.handles.length) :
    Orderly script
      { d with
        session := t
        delivered := d.delivered ++
          [⟨i, d.session.cursor.current, d.session.cursor.fetched, row⟩] } := by
  have hi := lt_of_open hopen
  have hholds : d.session.cursor.Holds := by
    rcases h.standing with ⟨hhandles, -⟩ | hholds
    · rw [hhandles] at hi
      cases hi
    · exact hholds
  have hon : d.session.cursor.Onward t.cursor := .inl ⟨1, hcursor⟩
  have hkept := h.onward hon hlength fun _ hhandles => by
    rw [hhandles] at hi
    cases hi
  obtain ⟨m, hm, hitem⟩ := hholds.next hrows
  exact {
    script_eq := hkept.script_eq
    standing := hkept.standing
    origins_length := hkept.origins_length
    origins_upTo := hkept.origins_upTo
    delivered_from := by
      intro x hx
      rcases List.mem_append.mp hx with hx | hx
      · exact h.delivered_from x hx
      · obtain rfl := List.mem_singleton.mp hx
        obtain ⟨n, hn, hupTo⟩ := h.exists_origin hi
        exact ⟨n, m, v, hn, hm, hupTo.2 m hm, by rwa [← h.script_eq], hrow⟩
    delivered_passed := by
      intro x hx
      rcases List.mem_append.mp hx with hx | hx
      · exact hkept.delivered_passed x hx
      · obtain rfl := List.mem_singleton.mp hx
        have hupTo : d.session.cursor.UpTo m := by
          refine ⟨d.session.cursor.current_le hm, fun o ho => ?_⟩
          rw [hm] at ho
          exact Nat.le_of_eq (Option.some.inj ho)
        refine ⟨m, hm, hon.upTo hupTo, fun _ => ?_⟩
        show d.session.cursor.fetched < t.cursor.fetched
        rw [hcursor.fetched_eq]
        exact Nat.lt_succ_self _
    ordered := by
      refine List.pairwise_append.mpr ⟨h.ordered, List.pairwise_singleton _ _, fun x hx y hy => ?_⟩
      obtain rfl := List.mem_singleton.mp hy
      obtain ⟨o, ho, hupTo, hplace⟩ := h.delivered_passed x hx
      unfold Delivery.Before
      rcases Nat.lt_or_eq_of_le (hupTo.2 m hm) with hlt | rfl
      · rw [ho, hm]
        exact .inl (Option.some_lt_some.mpr hlt)
      · exact .inr ⟨ho.trans hm.symm, hplace hm⟩ }

theorem step (h : Orderly script d) (call : DrainCall) : Orderly script (d.step b call) := by
  cases call with
  | moreResults =>
      obtain ⟨hhandles, hsame, hmove⟩ := run_moreResults_cursor b d.session
      refine h.onward ?_ (congrArg List.length hhandles) fun hs _ => ?_
      · rcases h.standing with ⟨-, hs⟩ | hholds
        · rw [hsame hs]
          exact .inl ⟨0, .refl _⟩
        · rcases hmove hholds with hstay | hmoved
          · exact .inl ⟨0, hstay⟩
          · exact .inr hmoved
      · rw [hsame hs]
        exact hs
  | resultSet =>
      unfold Draining.step
      rcases run_currentResultSet_cases b d.session with
        ⟨rs, columns, hrun, hs, hdescribed⟩ | ⟨r, hrun, hr⟩
      · simp only [hrun]
        exact h.opened hdescribed hs columns
      · simp only [hrun]
        exact h
  | nextRow i =>
      unfold Draining.step
      cases hopen : (handle i d.session).closed with
      | true =>
          simp only [run_nextRow_closed hopen]
          exact h
      | false =>
          rcases run_nextRow_cases hopen with
            ⟨v, rest, row, hrows, hrow, hrun⟩ | ⟨r, t, n, hrun, hr, htaken, hlength, hs, -⟩
          · simp only [hrun, handle_moved (lt_of_open hopen), Option.getD_some]
            exact h.delivering hopen hrows hrow ⟨rfl, rfl, rfl, by rw [hrows]; rfl, rfl⟩
              (length_handles_moved ..)
          · simp only [hrun]
            exact h.onward (.inl ⟨n, htaken⟩) hlength fun hd _ => hs.trans hd
  | close i =>
      have hlength : (setHandle i { handle i d.session with row := none, closed := true }
          d.session).handles.length = d.session.handles.length := by simp [setHandle]
      exact h.onward (.inl ⟨0, .refl _⟩) hlength fun hs _ => hs

theorem run (h : Orderly script d) (calls : List DrainCall) : Orderly script (d.run b calls) := by
  induction calls generalizing d with
  | nil => exact h
  | cons call calls ih => exact ih (h.step call)

theorem begin (b : Backend) (script : CursorScript) (pending : Value) (sql : String)
    (params : Option Value) : Orderly script (begin b script pending sql params) := by
  have hstart (t : Session ScriptedCursor)
      (ht : t = ((execute b ScriptedCursor.cursor sql params).run
        (fresh (.ofScript script pending))).2) :
      t.cursor.script = script ∧ t.handles = [] ∧ (t.exhausted = true ∨ t.cursor.Holds) := by
    obtain ⟨r, k, hrun, hscript, hholds⟩ :=
      ScriptedCursor.run_execute_holds (.ofScript script pending) sql params
    cases r with
    | error f =>
        rw [run_execute_error (c := ScriptedCursor.cursor)
          (s := fresh (ScriptedCursor.ofScript script pending)) hrun] at ht
        subst ht
        exact ⟨hscript, rfl, .inl rfl⟩
    | ok u =>
        rw [run_execute_ok (c := ScriptedCursor.cursor)
          (s := fresh (ScriptedCursor.ofScript script pending)) hrun, snd_run_arriving] at ht
        obtain ⟨htaken, hhandles⟩ := run_collectWarnings_cursor b
          { fresh (ScriptedCursor.ofScript script pending) with cursor := k, exhausted := false }
        rw [← ht] at htaken hhandles
        exact ⟨htaken.script_eq.trans hscript, hhandles, .inr ((hholds rfl).taken htaken)⟩
  obtain ⟨hscript, hhandles, hstanding⟩ := hstart _ rfl
  exact {
    script_eq := hscript
    standing := hstanding.imp (⟨hhandles, ·⟩) id
    origins_length := (congrArg List.length hhandles).symm
    origins_upTo := by simp [Draining.begin]
    delivered_from := by simp [Draining.begin]
    delivered_passed := by simp [Draining.begin]
    ordered := .nil }

end Orderly

/-- Where the cursor holds the rows of another outcome than the handle was obtained on, the handle
has no row and takes none. -/
def KeepsToOrigin (d : Draining) (i : Nat) : Prop :=
  d.session.cursor.current ≠ d.origin i →
    ((nextRow ScriptedCursor.cursor i).run d.session).1 = .ok false ∧
      ((nextRow ScriptedCursor.cursor i).run d.session).2.cursor.rows = d.session.cursor.rows

theorem keepsToOrigin_iff (d : Draining) (i : Nat) :
    d.KeepsToOrigin i ↔ (handle i d.session).closed = true ∨ d.session.cursor.current = d.origin i ∨
      (fetchFaultAt d.session.cursor.fetchFault d.session.cursor.fetched = none ∧
        d.session.cursor.rows = []) := by
  unfold KeepsToOrigin
  cases hopen : (handle i d.session).closed with
  | true => simp [run_nextRow_closed hopen]
  | false =>
      simp only [Bool.false_eq_true, false_or]
      rw [← Classical.or_iff_not_imp_left]
      refine or_congr_right ?_
      rcases run_nextRow_cases hopen with
        ⟨v, rest, row, hrows, -, hrun⟩ | ⟨r, t, n, hrun, -, -, -, -, hiff⟩
      · simp [hrun, hrows]
      · rw [hrun]
        exact hiff

/-- However the calls are interleaved, the rows come in the order of the script and none comes
twice. Each is a row of the outcome on which its handle was obtained, or of a later one. At any time
a handle keeps to its outcome if and only if it is closed, or the cursor still holds the rows of
that outcome, or the cursor has nothing left to give. -/
theorem handles_share_rows (b : Backend) (script : CursorScript) (pending : Value) (sql : String)
    (params : Option Value) (calls : List DrainCall) :
    let d := (begin b script pending sql params).run b calls
    d.delivered.Pairwise Delivery.Before ∧
      (∀ x ∈ d.delivered, x.FromScript script (d.origin x.handle)) ∧
      (∀ i < d.session.handles.length, ∃ n, d.origin i = some n) ∧
      ∀ i, d.KeepsToOrigin i ↔
        (handle i d.session).closed = true ∨ d.session.cursor.current = d.origin i ∨
          (fetchFaultAt d.session.cursor.fetchFault d.session.cursor.fetched = none ∧
            d.session.cursor.rows = []) := by
  intro d
  have h : Orderly script d := (Orderly.begin b script pending sql params).run calls
  refine ⟨h.ordered, h.delivered_from, fun i hi => ?_, d.keepsToOrigin_iff⟩
  obtain ⟨n, hn, -⟩ := h.exists_origin hi
  exact ⟨n, hn⟩

def twoTables : CursorScript where
  outcomes :=
    [.rows [[.text "a"]] [.list [.int 1], .list [.int 2]] none,
     .rows [[.text "b"]] [.list [.int 10], .list [.int 20]] none]

/-- The handle of the first table takes a row of the second. -/
theorem passed_handle_takes_row :
    let d := (begin (.ofDialect .mssql) twoTables .null "batch" none).run (.ofDialect .mssql)
      [.resultSet, .moreResults]
    d.origin 0 = some 0 ∧ ¬d.KeepsToOrigin 0 ∧
      ∃ x ∈ (d.step (.ofDialect .mssql) (.nextRow 0)).delivered, x.handle = 0 ∧
        x.outcome = some 1 := by
  intro d
  have hcurrent : d.session.cursor.current = some 1 := rfl
  have horigin : d.origin 0 = some 0 := rfl
  refine ⟨horigin, fun h => ?_, ⟨0, some 1, 0, [.int 10]⟩, List.mem_singleton.mpr rfl, rfl, rfl⟩
  have hmoved : d.session.cursor.current ≠ d.origin 0 := by
    rw [hcurrent, horigin]
    decide
  have hanswer : ((nextRow ScriptedCursor.cursor 0).run d.session).1 = .ok true := rfl
  rw [(h hmoved).1] at hanswer
  cases hanswer

end Draining

end StatementWalk
