import StatementWalk.Proofs.PlainCells
import StatementWalk.Proofs.WalkProtocol

/-!
# Bound handles

A bound handle can be read only while the cursor stands on its row. A walk reads a cell only between
the move to its row and the next move, so it never meets a handle that has expired, and it ends and
writes as it does where no handle is bound. What it gives out holds no handle at all.
-/

namespace StatementWalk

namespace Value

variable (v : Value)

@[simp] theorem isNull_unbound : v.unbound.isNull = v.isNull := by cases v <;> rfl

@[simp] theorem isCanonical_unbound : v.unbound.isCanonical = v.isCanonical := by cases v <;> rfl

@[simp] theorem implementationName_unbound :
    v.unbound.implementationName = v.implementationName := by
  cases v <;> rfl

@[simp] theorem largeObjectKind_unbound : v.unbound.largeObjectKind = v.largeObjectKind := by
  cases v <;> rfl

@[simp] theorem readLargeObject_unbound : v.unbound.readLargeObject = v.readLargeObject := by
  cases v <;> rfl

/-- What is made of the content does not show whether a value that has none was bound. -/
theorem materialized_unbound {α : Type} {f : Value → Except Fault α} (h : f v.unbound = f v) :
    v.unbound.materialized >>= f = v.materialized >>= f := by
  rw [materialized, materialized, largeObjectKind_unbound, readLargeObject_unbound]
  cases v.largeObjectKind with
  | error e => rfl
  | ok kind =>
      cases kind with
      | none => exact h
      | some k => rfl

theorem toText_unbound : v.unbound.toText = v.toText := by
  cases v with
  | object module name shown bound members =>
      exact materialized_unbound (.object module name shown bound members) rfl
  | _ => rfl

theorem toBytes_unbound : v.unbound.toBytes = v.toBytes := by
  cases v with
  | object module name shown bound members =>
      exact materialized_unbound (.object module name shown bound members) rfl
  | _ => rfl

theorem toTimestamp_unbound : v.unbound.toTimestamp = v.toTimestamp := by
  cases v with
  | object module name shown bound members =>
      rw [unbound, toTimestamp, toTimestamp]
      rfl
  | _ => rfl

theorem toDate_unbound : v.unbound.toDate = v.toDate := by
  cases v with
  | object module name shown bound members =>
      rw [unbound, toDate, toDate]
      rfl
  | _ => rfl

/-- Only an object can be bound. -/
theorem unbound_of_isCanonical (h : v.isCanonical = true) : v.unbound = v := by
  cases v with
  | object module name shown bound members => cases h
  | _ => rfl

end Value

@[simp] theorem Reading.convert_unbound (reading : Reading) (v : Value) :
    reading.convert v.unbound = reading.convert v := by
  cases reading with
  | text => rw [convert, convert, v.toText_unbound]
  | bytes => rw [convert, convert, v.toBytes_unbound]
  | timestamp => rw [convert, convert, v.toTimestamp_unbound]
  | date => rw [convert, convert, v.toDate_unbound]

namespace Dialect

variable (d : Dialect) (c : Column) (v : Value)

theorem firstApplying_unbound {table : List Correction}
    (h : ∀ q ∈ table, q.applies v.unbound c = q.applies v c) :
    firstApplying v.unbound c table = firstApplying v c table := by
  induction table with
  | nil => rfl
  | cons q rest ih =>
      have hrest := ih fun p hp => h p (List.mem_cons_of_mem q hp)
      rw [firstApplying, firstApplying, h q List.mem_cons_self, hrest]

theorem isKind_unbound (kind : LargeObjectKind) : isKind kind v.unbound = isKind kind v := by
  rw [isKind, isKind, v.largeObjectKind_unbound]

theorem isOfClass_unbound (name : String) : isOfClass name v.unbound = isOfClass name v := by
  rw [isOfClass, isOfClass, v.implementationName_unbound]

theorem isBareDate_unbound : isBareDate v.unbound = isBareDate v := by cases v <;> rfl

theorem applies_unbound {q : Correction} (hq : q ∈ d.corrections) :
    q.applies v.unbound c = q.applies v c := by
  simp only [corrections, List.mem_append, List.mem_cons, List.not_mem_nil, or_false] at hq
  rcases hq with ((rfl | rfl) | hq) | (rfl | rfl)
  · exact isKind_unbound v .binary
  · exact isKind_unbound v .character
  · cases d with
    | oracle =>
        simp only [vendorCorrections, List.mem_cons, List.not_mem_nil, or_false] at hq
        rcases hq with rfl | rfl
        · exact isOfClass_unbound v _
        · exact isOfClass_unbound v _
    | _ => cases hq
  · simp only [isBareDate_unbound]
  · simp only [Value.isCanonical_unbound]

theorem correctionOf_unbound : d.correctionOf v.unbound c = d.correctionOf v c :=
  firstApplying_unbound c v fun _ hq => applies_unbound d c v hq

/-- The generic read leaves a value as it is or makes a number of it. -/
theorem readObject_unbound : d.readObject v.unbound c = (d.readObject v c).map Value.unbound := by
  unfold readObject
  cases d.conversionTarget? c with
  | none => rfl
  | some target =>
      cases v with
      | object module name shown bound members => rfl
      | null => rfl
      | _ =>
          dsimp only [Value.unbound]
          split <;> rfl

theorem readingOf_unbound (reading : Reading) (raw : Except Fault Value) :
    readingOf c reading (raw.map Value.unbound) = readingOf c reading raw := by
  cases raw with
  | error f => rfl
  | ok u =>
      show (reading.convert u.unbound).mapError _ = (reading.convert u).mapError _
      rw [Reading.convert_unbound]

theorem corrected_unbound (raw : Except Fault Value) :
    d.corrected c (raw.map Value.unbound) v.unbound = d.corrected c raw v := by
  rw [corrected, corrected, Value.isNull_unbound, correctionOf_unbound]
  split
  · rfl
  · cases hq : d.correctionOf v c with
    | error f => rfl
    | ok q? =>
        cases q? with
        | some q => exact readingOf_unbound c (q.reading c) raw
        | none =>
            have hcanonical : v.isCanonical = true := isCanonical_of_correctionOf hq
            show Except.ok v.unbound = Except.ok v
            rw [v.unbound_of_isCanonical hcanonical]

/-- A cell has the same normal form without its tie to a cursor. -/
theorem normalForm_unbound (raw : Except Fault Value) :
    d.normalForm c (raw.map Value.unbound) = d.normalForm c raw := by
  have hread : (raw.map Value.unbound >>= fun u => d.readObject u c) =
      (raw >>= fun u => d.readObject u c).map Value.unbound := by
    cases raw with
    | error f => rfl
    | ok u => exact readObject_unbound d c u
  rw [normalForm, normalForm, hread, readingOf_unbound]
  cases raw >>= fun u => d.readObject u c with
  | error f => rfl
  | ok u => exact congrArg Noted.ofExcept (corrected_unbound d c u raw)

end Dialect

/-- The row with its cells made unbound. The cells of a dictionary are its keys. -/
def Value.unboundRow : Value → Value
  | .list items => .list (items.map Value.unbound)
  | .tuple items => .tuple (items.map Value.unbound)
  | .dict entries => .dict (entries.map fun entry => (entry.1.unbound, entry.2))
  | v => v

def OutcomeScript.unbound : OutcomeScript → OutcomeScript
  | .rows entries items fault => .rows entries (items.map Value.unboundRow) fault
  | o => o

def CursorScript.unbound (script : CursorScript) : CursorScript :=
  { script with outcomes := script.outcomes.map OutcomeScript.unbound }

def ScriptedCursor.unbound (c : ScriptedCursor) : ScriptedCursor :=
  { c with script := c.script.unbound }

namespace Value

@[simp] theorem isNull_unboundRow (v : Value) : v.unboundRow.isNull = v.isNull := by cases v <;> rfl

theorem toRow_unboundRow (v : Value) : v.unboundRow.toRow = v.toRow.map (List.map unbound) := by
  cases v <;> simp [unboundRow, toRow, Except.map, Function.comp_def, unbound]

end Value

namespace Dialect

variable (d : Dialect) (columns : List Column)

theorem cellOf_unbound (row : List Value) (index : Int) :
    cellOf (row.map Value.unbound) index = (cellOf row index).map Value.unbound := by
  unfold cellOf
  rw [List.length_map]
  split
  · rw [List.getD_eq_getElem?_getD, List.getD_eq_getElem?_getD, List.getElem?_map]
    cases row[(index - 1).toNat]? <;> rfl
  · rfl

theorem normalRow_unbound (row : List Value) :
    d.normalRow (row.map Value.unbound) columns = d.normalRow row columns := by
  induction columns with
  | nil => rfl
  | cons c rest ih => rw [normalRow, normalRow, cellOf_unbound, normalForm_unbound, ih]

theorem tableForm_unbound (fault : Option (Nat × Fault)) (fetched : Nat) (items : List Value) :
    d.tableForm columns fault fetched (items.map Value.unboundRow) =
      d.tableForm columns fault fetched items := by
  induction items generalizing fetched with
  | nil => rfl
  | cons v rest ih =>
      rw [List.map_cons, tableForm, tableForm, Value.isNull_unboundRow, Value.toRow_unboundRow, ih]
      cases v.toRow with
      | error f => rfl
      | ok raw =>
          have hrow := d.normalRow_unbound columns raw
          simp only [Except.map, Noted.ofExcept_ok_bind, hrow]

theorem form_unbound (counted : Bool) (o : OutcomeScript) :
    o.unbound.form d counted = o.form d counted := by
  cases o with
  | failing f => rfl
  | rows entries items fault =>
      simp only [OutcomeScript.unbound, OutcomeScript.form, tableForm_unbound]
  | count v => rfl

end Dialect

def Place.unbound (q : Place) : Place := { q with outcome := q.outcome.unbound }

namespace CursorScript

variable {b : Backend} {script : CursorScript}

theorem placesFrom_unbound (k : Nat) (os : List OutcomeScript) :
    script.unbound.placesFrom k (os.map OutcomeScript.unbound) =
      (script.placesFrom k os).map Place.unbound := by
  induction os generalizing k with
  | nil => rfl
  | cons o rest ih =>
      rw [List.map_cons, placesFrom, placesFrom, List.map_cons, ih]
      rfl

theorem places_unbound :
    script.unbound.firstPlace :: script.unbound.placesAfter b 0 =
      (script.firstPlace :: script.placesAfter b 0).map Place.unbound := by
  have houtcomes : script.unbound.outcomes = script.outcomes.map OutcomeScript.unbound := rfl
  have hfirst : script.unbound.firstPlace = script.firstPlace.unbound := by
    unfold firstPlace
    rw [houtcomes]
    cases script.outcomes <;> rfl
  have hafter : script.unbound.placesAfter b 0 = (script.placesAfter b 0).map Place.unbound := by
    show (if script.advances b then _ else _) = _
    unfold placesAfter
    split
    · rw [houtcomes, ← List.map_drop, placesFrom_unbound]
    · rfl
  rw [List.map_cons, hfirst, hafter]

theorem stepAt_unbound (p : Value) (q : Place) :
    script.unbound.stepAt b p q.unbound = script.stepAt b p q := by
  have hreached : q.unbound.outcome.reached = q.outcome.reached := by
    show q.outcome.unbound.reached = q.outcome.reached
    cases q.outcome <;> rfl
  have hform : q.unbound.outcome.form b.dialect script.countsRows =
      q.outcome.form b.dialect script.countsRows := Dialect.form_unbound _ _ _
  have hcollected : script.unbound.collected b p q.unbound = script.collected b p q := rfl
  rw [stepAt, stepAt, hreached, hcollected]
  exact congrArg _ hform

theorem stepsAt_unbound (p : Value) (places : List Place) :
    script.unbound.stepsAt b p (places.map Place.unbound) = script.stepsAt b p places := by
  induction places generalizing p with
  | nil => rfl
  | cons q rest ih =>
      have hkept : script.unbound.kept b p q.unbound = script.kept b p q := rfl
      rw [List.map_cons, stepsAt, stepsAt, stepAt_unbound, hkept, ih]

theorem steps_unbound (p : Value) : script.unbound.steps b p = script.steps b p := by
  have hexec : script.unbound.executeFault = script.executeFault := rfl
  unfold steps
  rw [hexec]
  cases script.executeFault with
  | some f => rfl
  | none =>
      dsimp only
      rw [places_unbound, stepsAt_unbound]

end CursorScript

def Call.readsRow : Call → Bool
  | .ofRows _ call => call.reads
  | _ => false

theorem exists_readsRow (calls : List Call) (h : calls.any Call.readsRow = true) :
    ∃ before number read after, calls = before ++ .ofRows number read :: after ∧
      read.reads = true := by
  obtain ⟨call, hmem, hread⟩ := List.any_eq_true.mp h
  obtain ⟨before, after, hcalls⟩ := List.append_of_mem hmem
  cases call with
  | ofRows number read => exact ⟨before, number, read, after, hcalls, hread⟩
  | _ => cases hread

/-- The reads of a row come one after the other, right after the move to the row. -/
def FollowsRow (number : Nat) (calls : List Call) (reads : List RowCall) : Prop :=
  ∃ earlier, calls = earlier ++ .ofRows number (.next (.ok true)) :: reads.map (.ofRows number) ∧
    ∀ read ∈ reads, read.reads = true

theorem FollowsRow.read {number : Nat} {calls : List Call} {reads : List RowCall} {read : RowCall}
    (h : FollowsRow number calls reads) (hread : read.reads = true) :
    FollowsRow number (calls ++ [.ofRows number read]) (reads ++ [read]) := by
  obtain ⟨earlier, hcalls, hreads⟩ := h
  refine ⟨earlier, by simp [hcalls], ?_⟩
  intro c hc
  rcases List.mem_append.mp hc with hc | hc
  · exact hreads c hc
  · rwa [List.mem_singleton.mp hc]

/-- A handle comes to stand on a row by the move to it, or by one more read of it. -/
theorem Phase.nextOnRows_eq_onRow {d : Dialect} {p : Phase} {call : RowCall} {h : Handle}
    {reads : List RowCall} (hp : p.nextOnRows d call = some (.onRow h reads)) :
    p.handle? = some h ∧ (call = .next (.ok true) ∧ reads = [] ∨
      ∃ before, p = .onRow h before ∧ call.reads = true ∧ reads = before ++ [call]) := by
  have hmove {h' : Handle} {answer : Except Fault Bool} (hm : ofMove h' answer = .onRow h reads) :
      h' = h ∧ answer = .ok true ∧ reads = [] := by
    cases answer with
    | error f => cases hm
    | ok more =>
        cases more with
        | false => cases hm
        | true =>
            cases hm
            exact ⟨rfl, rfl, rfl⟩
  unfold nextOnRows at hp
  split at hp
  · obtain ⟨rfl, rfl, rfl⟩ := hmove (Option.some.inj hp)
    exact ⟨rfl, .inl ⟨rfl, rfl⟩⟩
  · split at hp
    · obtain ⟨rfl, rfl, rfl⟩ := hmove (Option.some.inj hp)
      exact ⟨rfl, .inl ⟨rfl, rfl⟩⟩
    · cases hp
  · cases hp
    exact ⟨rfl, .inr ⟨_, rfl, rfl, rfl⟩⟩
  · cases hp
    exact ⟨rfl, .inr ⟨_, rfl, rfl, rfl⟩⟩
  · cases hp
  · cases hp
  · cases hp
  · cases hp

/-- Reads are made only of a row. -/
theorem Phase.eq_onRow_of_read {d : Dialect} {p q : Phase} {call : RowCall}
    (hp : p.nextOnRows d call = some q) (hread : call.reads = true) :
    ∃ h reads, p = .onRow h reads := by
  cases p with
  | onRow h reads => exact ⟨h, reads, rfl⟩
  | _ => cases call <;> simp [nextOnRows, RowCall.reads] at hp hread

/-- A handle that stands on a row was moved to it, and only read since. -/
def Stage.OnRowMoved (s : Stage) (calls : List Call) : Prop :=
  ∀ h reads, s.phase = .onRow h reads → FollowsRow h.number calls reads

theorem Stage.OnRowMoved.next {d : Dialect} {s t : Stage} {calls : List Call} {call : Call}
    (h : s.OnRowMoved calls) (hnext : s.next d call = some t) : t.OnRowMoved (calls ++ [call]) := by
  intro handle reads hphase
  rcases Stage.next_eq_some hnext with
    ⟨c, p, opened, rfl, hopen, hp, rfl⟩ | ⟨given, -, -, -, rfl⟩ | ⟨p, -, -, hp, rfl⟩
  · obtain rfl : p = .onRow handle reads := hphase
    obtain ⟨hsame, hmoved | ⟨before, hbefore, hread, rfl⟩⟩ := Phase.nextOnRows_eq_onRow hp
    · obtain ⟨rfl, rfl⟩ := hmoved
      obtain rfl : opened = handle := Option.some.inj (hopen.symm.trans hsame)
      exact ⟨calls, rfl, fun c hc => absurd hc List.not_mem_nil⟩
    · obtain rfl : opened = handle := Option.some.inj (hopen.symm.trans hsame)
      exact (h opened before hbefore).read hread
  · cases hphase
  · obtain rfl : p = .onRow handle reads := hphase
    have hnone := (Phase.next_eq_some hp).2.1
    cases hnone

/-- Each read that the protocol allows follows the move to its row, with only reads of the row in
between. -/
theorem followsRow_of_read {d : Dialect} {s : Stage} {before after : List Call} {number : Nat}
    {read : RowCall} (h : stageOf d (before ++ .ofRows number read :: after) = some s)
    (hread : read.reads = true) : ∃ reads, FollowsRow number before reads := by
  unfold stageOf at h
  rw [List.foldlM_append] at h
  obtain ⟨t, ht, hrest⟩ := Option.bind_eq_some_iff.mp h
  rw [List.foldlM_cons] at hrest
  obtain ⟨u, hu, -⟩ := Option.bind_eq_some_iff.mp hrest
  have hmoved : t.OnRowMoved before :=
    invariant_of_stageOf (J := Stage.OnRowMoved) nofun (fun _ _ _ _ hs hnext => hs.next hnext) ht
  simp only [Stage.next] at hu
  cases hopen : t.phase.handle? with
  | none =>
      rw [hopen] at hu
      cases hu
  | some handle =>
      rw [hopen] at hu
      dsimp only at hu
      split at hu
      · rename_i hnumber
        obtain ⟨p, hp, -⟩ := Option.map_eq_some_iff.mp hu
        obtain ⟨h', reads, hphase⟩ := Phase.eq_onRow_of_read hp hread
        rw [hphase] at hopen
        obtain rfl : h' = handle := Option.some.inj hopen
        have hfollows := hmoved h' reads hphase
        rw [hnumber] at hfollows
        exact ⟨reads, hfollows⟩
      · cases hu

theorem stageOf_walk {σ : Type} (st : Statement σ) (d : Dialect) (sink : Sink) (sql : Option String)
    (v : σ) (j : Journal) :
    ∃ stage, stageOf d ((walk d sink st.recorded sql).run ⟨⟨v, []⟩, j⟩).2.driver.calls =
      some stage := by
  cases hcall : st.beginning sql with
  | none =>
      rw [run_walk_of_no_beginning d sink hcall v j]
      exact ⟨{}, rfl⟩
  | some call =>
      obtain ⟨r, w, _, _, stage, hrun, -, hstage, -⟩ := run_walk_of_beginning d sink hcall v j
      rw [hrun]
      exact ⟨stage, hstage⟩

namespace Session

def unbound (s : Session ScriptedCursor) : Session ScriptedCursor :=
  { s with cursor := s.cursor.unbound }

theorem stepsOf_unbound (b : Backend) (own : Option Prepared) (sql : Option String)
    (s : Session ScriptedCursor) : stepsOf b own sql s.unbound = stepsOf b own sql s := by
  have hsteps : s.unbound.cursor.script.steps b s.unbound.cursor.pending =
      s.cursor.script.steps b s.cursor.pending := CursorScript.steps_unbound s.cursor.pending
  rw [stepsOf, stepsOf, hsteps]
  rfl

/-- A walk ends and writes as the walk over the same script with all handles made unbound. Each read
of a cell follows the move to its row with only reads of that row in between, and the rows that the
walk gives out hold nothing that a later move of the cursor could change. -/
theorem walk_reads_live_handles (b : Backend) (sink : Sink) (own : Option Prepared)
    (sql : Option String) (s : Session ScriptedCursor) (j : Journal) :
    let st := statement b ScriptedCursor.cursor own
    let bound := (walk b.dialect sink st sql).run ⟨s, j⟩
    let unbound := (walk b.dialect sink st sql).run ⟨s.unbound, j⟩
    let calls := ((walk b.dialect sink st.recorded sql).run ⟨⟨s, []⟩, j⟩).2.driver.calls
    (bound.1 = unbound.1 ∧ bound.2.journal = unbound.2.journal) ∧
      (∀ before number read after, calls = before ++ .ofRows number read :: after →
        read.reads = true → ∃ reads, FollowsRow number before reads) ∧
      ∀ r, bound.1 = .ok r → ∀ o ∈ r.outcomes, ∀ row ∈ o.rows, ∀ v ∈ row, v.Plain ∧
        v.expired = v := by
  intro st bound unbound calls
  refine ⟨?_, ?_, ?_⟩
  · have hbound := follows_walk (b := b) sink own sql s j
    have hunbound := follows_walk (b := b) sink own sql s.unbound j
    rw [stepsOf_unbound] at hunbound
    exact ⟨hbound.1.trans hunbound.1.symm, hbound.2.1.trans hunbound.2.1.symm⟩
  · intro before number read after hcalls hread
    obtain ⟨stage, hstage⟩ := stageOf_walk st b.dialect sink sql s j
    have hall : stageOf b.dialect (before ++ .ofRows number read :: after) = some stage := by
      rw [← hcalls]
      exact hstage
    exact followsRow_of_read hall hread
  · intro r hr o ho row hrow v hv
    have hplain : v.Plain :=
      yields_walk (givesPlain_statement b ScriptedCursor.cursor own) sql ⟨s, j⟩ r bound.2
        (Prod.ext hr rfl) o ho row hrow v hv
    refine ⟨hplain, ?_⟩
    cases hplain <;> rfl

theorem exists_of_toBool {α : Type} (x : Except Fault α) (h : x.toBool = true) :
    ∃ a, x = .ok a := by
  cases x with
  | error f => cases h
  | ok a => exact ⟨a, rfl⟩

def boundText : Value :=
  .object "oracledb" "LOB" "LOB" true
    [("read", .method (.ok (.text "a"))), ("type", .attribute (.text "CLOB"))]

/-- The walk over a bound object succeeds as it does without the tie, gives out nothing that
expires, and reads the object while the cursor stands on its row. -/
theorem walk_reads_bound_text :
    let b := Backend.ofDialect .oracle
    let s := fresh (.ofScript (cellScript "doc" boundText) .null)
    (∃ r, ((walk b.dialect Sink.collecting (statement b ScriptedCursor.cursor none)
          (some "select")).run ⟨s, {}⟩).1 = .ok r ∧
        ((walk b.dialect Sink.collecting (statement b ScriptedCursor.cursor none)
          (some "select")).run ⟨s.unbound, {}⟩).1 = .ok r ∧
        ∀ o ∈ r.outcomes, ∀ row ∈ o.rows, ∀ v ∈ row, v.expired = v) ∧
      ∃ before number read after reads,
        ((walk b.dialect Sink.collecting (statement b ScriptedCursor.cursor none).recorded
          (some "select")).run ⟨⟨s, []⟩, {}⟩).2.driver.calls =
            before ++ .ofRows number read :: after ∧
        read.reads = true ∧ FollowsRow number before reads := by
  intro b s
  obtain ⟨⟨hsame, -⟩, hfollows, hplain⟩ :=
    walk_reads_live_handles b Sink.collecting none (some "select") s {}
  constructor
  · obtain ⟨r, hrun⟩ := exists_of_toBool ((walk b.dialect Sink.collecting
      (statement b ScriptedCursor.cursor none) (some "select")).run ⟨s, {}⟩).1 (by decide +kernel)
    refine ⟨r, hrun, hsame.symm.trans hrun, fun o ho row hrow v hv => ?_⟩
    exact (hplain r hrun o ho row hrow v hv).2
  · obtain ⟨before, number, read, after, hcalls, hread⟩ := exists_readsRow
      ((walk b.dialect Sink.collecting (statement b ScriptedCursor.cursor none).recorded
        (some "select")).run ⟨⟨s, []⟩, {}⟩).2.driver.calls (by decide +kernel)
    obtain ⟨reads, hrow⟩ := hfollows before number read after hcalls hread
    exact ⟨before, number, read, after, reads, hcalls, hread, hrow⟩

end Session

end StatementWalk
