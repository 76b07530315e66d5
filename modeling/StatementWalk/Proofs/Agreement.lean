import StatementWalk.Proofs.WalkParts

/-!
# Runs that agree

Two drivers whose states differ in something that a walk cannot see answer every call alike. A walk
of the one then ends as a walk of the other, writes the same and leaves states that differ in
nothing more. A result set may come with a closer relation of its own, which holds while it is being
read.
-/

namespace StatementWalk

variable {σ τ α β : Type} {R S : σ → τ → Prop}

/-- From related states, both actions end in the same way and leave related states. -/
def Same (R : σ → τ → Prop) (x : Action σ α) (y : Action τ α) : Prop :=
  ∀ s t, R s t → ∃ r s' t', x.run s = (r, s') ∧ y.run t = (r, t') ∧ R s' t'

namespace Same

variable {x : Action σ α} {y : Action τ α} {f : α → Action σ β} {g : α → Action τ β}

theorem ofExcept (r : Except Fault α) : Same R (Action.ofExcept r) (Action.ofExcept r) :=
  fun s t h => ⟨r, s, t, rfl, rfl, h⟩

theorem pure (a : α) : Same R (Pure.pure a) (Pure.pure a) := ofExcept (.ok a)

theorem fail (e : Fault) :
    Same R (Action.fail e : Action σ α) (Action.fail e : Action τ α) := ofExcept (.error e)

theorem modify {f : σ → σ} {g : τ → τ} (h : ∀ s t, R s t → R (f s) (g t)) :
    Same R (Action.modify f) (Action.modify g) :=
  fun s t hst => ⟨.ok (), f s, g t, rfl, rfl, h s t hst⟩

theorem bind (hx : Same R x y) (hf : ∀ a, Same R (f a) (g a)) : Same R (x >>= f) (y >>= g) := by
  intro s t hst
  obtain ⟨r, s', t', hxrun, hyrun, hst'⟩ := hx s t hst
  cases r with
  | error e =>
      exact ⟨.error e, s', t', Action.run_bind_error hxrun, Action.run_bind_error hyrun, hst'⟩
  | ok a =>
      rw [Action.run_bind_ok hxrun, Action.run_bind_ok hyrun]
      exact hf a s' t' hst'

theorem map (hx : Same R x y) (f : α → β) : Same R (f <$> x) (f <$> y) := by
  rw [map_eq_pure_bind, map_eq_pure_bind]
  exact hx.bind fun a => .pure (f a)

/-- Either action may look at its state before it goes on. -/
theorem state {f : σ → Action σ α} {g : τ → Action τ α} (h : ∀ s t, R s t → Same R (f s) (g t)) :
    Same R (Action.state >>= f) (Action.state >>= g) := by
  intro s t hst
  rw [Action.run_bind_ok (Action.run_state _), Action.run_bind_ok (Action.run_state _)]
  exact h s t hst s t hst

theorem attempt (hx : Same R x y) : Same R x.attempt y.attempt := by
  intro s t hst
  obtain ⟨r, s', t', hxrun, hyrun, hst'⟩ := hx s t hst
  refine ⟨.ok r, s', t', ?_, ?_, hst'⟩
  · rw [Action.run_attempt, hxrun]
  · rw [Action.run_attempt, hyrun]

theorem thenAlways {c : Action σ Unit} {d : Action τ Unit} (hx : Same R x y) (hc : Same R c d) :
    Same R (x.thenAlways c) (y.thenAlways d) := by
  intro s t hst
  obtain ⟨r, s', t', hxrun, hyrun, hst'⟩ := hx s t hst
  obtain ⟨q, s'', t'', hcrun, hdrun, hst''⟩ := hc s' t' hst'
  rw [Action.run_thenAlways hxrun, Action.run_thenAlways hyrun, hcrun, hdrun]
  cases q with
  | ok u => exact ⟨r, s'', t'', rfl, rfl, hst''⟩
  | error e => exact ⟨.error e, s'', t'', rfl, rfl, hst''⟩

end Same

/-- The drivers are related, and the same was written. -/
def Alongside (R : σ → τ → Prop) (w : World σ) (v : World τ) : Prop :=
  R w.driver v.driver ∧ w.journal = v.journal

/-- From related drivers and the same journal, both actions end in the same way, write the same and
leave related drivers. -/
abbrev Agree (R : σ → τ → Prop) (x : Action (World σ) α) (y : Action (World τ) α) : Prop :=
  Same (Alongside R) x y

namespace Agree

theorem onDriver {x : Action σ α} {y : Action τ α} (h : Same R x y) :
    Agree R (World.onDriver x) (World.onDriver y) := by
  rintro ⟨s, j⟩ ⟨t, k⟩ ⟨hst, rfl⟩
  obtain ⟨r, s', t', hx, hy, hst'⟩ := h s t hst
  refine ⟨r, ⟨s', j⟩, ⟨t', j⟩, ?_, ?_, hst', rfl⟩
  · rw [World.run_onDriver, hx]
  · rw [World.run_onDriver, hy]

theorem onJournal (x : Action Journal α) :
    Agree R (World.onJournal x : Action (World σ) α) (World.onJournal x : Action (World τ) α) := by
  rintro ⟨s, j⟩ ⟨t, k⟩ ⟨hst, rfl⟩
  exact ⟨(x.run j).1, ⟨s, (x.run j).2⟩, ⟨t, (x.run j).2⟩, rfl, rfl, hst, rfl⟩

theorem log (level : Level) (source : Source) (text : String) :
    Agree R (World.log level source text : Action (World σ) Unit)
      (World.log level source text : Action (World τ) Unit) := by
  rintro ⟨s, j⟩ ⟨t, k⟩ ⟨hst, rfl⟩
  exact ⟨.ok (), ⟨s, _⟩, ⟨t, _⟩, rfl, rfl, hst, rfl⟩

end Agree

structure ResultSet.Matches (R : σ → τ → Prop) (rs : ResultSet σ) (qs : ResultSet τ) : Prop where
  className_eq : rs.className = qs.className
  columns_eq : rs.columns = qs.columns
  nextRow : Same R rs.nextRow qs.nextRow
  getObject (index : Int) : Same R (rs.getObject index) (qs.getObject index)
  get (reading : Reading) (index : Int) : Same R (rs.get reading index) (qs.get reading index)
  close : Same R rs.close qs.close
  reach {s : σ} {t : τ} (h : R s t) : rs.reach s = qs.reach t

/-- A relation of actions that is kept when both do the same on their own and go on in the same
way. -/
structure Lockstep (Rel : ∀ ⦃α : Type⦄, Action (World σ) α → Action (World τ) α → Prop) : Prop where
  ofExcept {α : Type} (r : Except Fault α) : Rel (Action.ofExcept r) (Action.ofExcept r)
  log (level : Level) (source : Source) (text : String) :
    Rel (World.log level source text) (World.log level source text)
  attempt {α : Type} {x : Action (World σ) α} {y : Action (World τ) α} (h : Rel x y) :
    Rel x.attempt y.attempt
  bind {α β : Type} {x : Action (World σ) α} {y : Action (World τ) α}
    {f : α → Action (World σ) β} {g : α → Action (World τ) β} (h : Rel x y)
    (hf : ∀ a, Rel (f a) (g a)) : Rel (x >>= f) (y >>= g)

theorem Agree.lockstep (R : σ → τ → Prop) : Lockstep fun _ => Agree R :=
  ⟨Same.ofExcept, Agree.log, Same.attempt, Same.bind⟩

namespace Lockstep

variable {Rel : ∀ ⦃α : Type⦄, Action (World σ) α → Action (World τ) α → Prop} {rs : ResultSet σ}
  {qs : ResultSet τ} {d : Dialect}

theorem pure (h : Lockstep Rel) (a : α) : Rel (Pure.pure a) (Pure.pure a) := h.ofExcept (.ok a)

theorem fail (h : Lockstep Rel) (e : Fault) :
    Rel (Action.fail e : Action (World σ) α) (Action.fail e) := h.ofExcept (.error e)

theorem readAgain (h : Lockstep Rel)
    (hget : ∀ reading index, Rel (World.onDriver (rs.get reading index))
      (World.onDriver (qs.get reading index))) (reading : Reading) (index : Int) :
    Rel (readAgain rs reading index) (readAgain qs reading index) := by
  refine h.bind (h.attempt (hget reading index)) fun r => ?_
  cases r with
  | ok v => exact h.pure v
  | error f => exact h.fail (cellFault f index)

theorem readGeneric (h : Lockstep Rel)
    (hobject : ∀ index, Rel (World.onDriver (rs.getObject index))
      (World.onDriver (qs.getObject index)))
    (hget : ∀ reading index, Rel (World.onDriver (rs.get reading index))
      (World.onDriver (qs.get reading index))) (index : Int) :
    Rel (readGeneric rs index) (readGeneric qs index) := by
  refine h.bind (h.attempt (hobject index)) fun r => ?_
  cases r with
  | ok v => exact h.pure v
  | error f =>
      dsimp only
      split
      · exact h.bind (h.log _ _ _) fun _ => h.readAgain hget .text index
      · exact h.fail (cellFault f index)

theorem correct (h : Lockstep Rel) (hcolumns : rs.columns = qs.columns)
    (hget : ∀ reading index, Rel (World.onDriver (rs.get reading index))
      (World.onDriver (qs.get reading index))) (index : Int) (v : Value) :
    Rel (correct d rs index v) (correct d qs index v) := by
  unfold StatementWalk.correct
  rw [hcolumns]
  split
  · exact h.pure Value.null
  · split
    · exact h.fail _
    · rename_i column _
      refine h.bind (h.ofExcept (d.correctionOf v column)) fun correction => ?_
      cases correction with
      | none => exact h.pure v
      | some q => exact h.readAgain hget (q.reading column) index

theorem normalize (h : Lockstep Rel) (hcolumns : rs.columns = qs.columns)
    (hobject : ∀ index, Rel (World.onDriver (rs.getObject index))
      (World.onDriver (qs.getObject index)))
    (hget : ∀ reading index, Rel (World.onDriver (rs.get reading index))
      (World.onDriver (qs.get reading index))) (index : Int) :
    Rel (normalize d rs index) (normalize d qs index) :=
  h.bind (h.readGeneric hobject hget index) fun v => h.correct hcolumns hget index v

theorem normalizeRow (h : Lockstep Rel) (hcolumns : rs.columns = qs.columns)
    (hobject : ∀ index, Rel (World.onDriver (rs.getObject index))
      (World.onDriver (qs.getObject index)))
    (hget : ∀ reading index, Rel (World.onDriver (rs.get reading index))
      (World.onDriver (qs.get reading index))) :
    Rel (normalizeRow d rs) (normalizeRow d qs) := by
  unfold StatementWalk.normalizeRow
  rw [hcolumns]
  induction qs.columns with
  | nil => exact h.pure []
  | cons c rest ih =>
      exact h.bind (h.normalize hcolumns hobject hget c.position) fun v =>
        h.bind ih fun vs => h.pure (v :: vs)

end Lockstep

namespace ResultSet.Matches

variable {rs : ResultSet σ} {qs : ResultSet τ} {d : Dialect}

theorem agree_normalize (h : rs.Matches R qs) (index : Int) :
    Agree R (normalize d rs index) (normalize d qs index) :=
  (Agree.lockstep R).normalize h.columns_eq (fun index => .onDriver (h.getObject index))
    (fun reading index => .onDriver (h.get reading index)) index

theorem agree_normalizeRow (h : rs.Matches R qs) :
    Agree R (normalizeRow d rs) (normalizeRow d qs) :=
  (Agree.lockstep R).normalizeRow h.columns_eq (fun index => .onDriver (h.getObject index))
    fun reading index => .onDriver (h.get reading index)

theorem agree_drain (h : rs.Matches R qs) (fuel : Nat) :
    Agree R (drain d rs fuel) (drain d qs fuel) := by
  induction fuel with
  | zero => exact .fail endlessRows
  | succ fuel ih =>
      refine (Agree.onDriver h.nextRow).bind fun more => ?_
      cases more with
      | false => exact .pure ({} : Table)
      | true =>
          refine h.agree_normalizeRow.bind fun row => ?_
          refine (Same.ofExcept (rowLine row)).bind fun line => ?_
          exact ih.bind fun rest => .pure (⟨row :: rest.rows, line :: rest.lines⟩ : Table)

end ResultSet.Matches

theorem agree_closeQuietly {c : Closable σ} {d : Closable τ} (hname : c.className = d.className)
    (hclose : Same R c.close d.close) : Agree R (closeQuietly c) (closeQuietly d) := by
  unfold closeQuietly
  rw [hname]
  refine (Agree.onDriver hclose).attempt.bind fun r => ?_
  cases r with
  | ok u => exact .pure none
  | error f => exact (Agree.log _ _ _).bind fun _ => .pure _

theorem agree_quietlyClosing {c : Closable σ} {d : Closable τ} {x : Action (World σ) α}
    {y : Action (World τ) α} (hname : c.className = d.className)
    (hclose : Same R c.close d.close) (hx : Agree R x y) :
    Agree R (quietlyClosing (some c) x) (quietlyClosing (some d) y) :=
  hx.thenAlways ((agree_closeQuietly hname hclose).bind fun _ => .pure ())

theorem ResultSet.Matches.agree_consumeRows {rs : ResultSet σ} {qs : ResultSet τ} {d : Dialect}
    (h : rs.Matches R qs) : Agree R (consumeRows d rs) (consumeRows d qs) := by
  refine agree_quietlyClosing h.className_eq h.close ?_
  refine Same.state fun w v hwv => ?_
  rw [h.reach hwv.1]
  exact h.agree_drain _

/-- How two statements may give out their result sets: both fail alike, both have none, or the
result sets match as long as the states stand in a relation that is closer than `R`. -/
inductive Handout (R : σ → τ → Prop) :
    Except Fault (Option (ResultSet σ)) × σ → Except Fault (Option (ResultSet τ)) × τ → Prop where
  | failed (f : Fault) {s : σ} {t : τ} (h : R s t) : Handout R (.error f, s) (.error f, t)
  | absent {s : σ} {t : τ} (h : R s t) : Handout R (.ok none, s) (.ok none, t)
  | given (S : σ → τ → Prop) (weaken : ∀ s t, S s t → R s t) {rs : ResultSet σ} {qs : ResultSet τ}
      (same : rs.Matches S qs) {s : σ} {t : τ} (h : S s t) :
      Handout R (.ok (some rs), s) (.ok (some qs), t)

/-- What holds of the states that an action and its counterpart leave, by how they end. -/
def Left (Q E : σ → τ → Prop) : Except Fault α → σ → τ → Prop
  | .ok _ => Q
  | .error _ => E

/-- From states related by `P`, both actions end in the same way. They leave states related by `Q`
where they succeed, and by `E` where they fail. -/
def Relates (P Q E : σ → τ → Prop) (x : Action σ α) (y : Action τ α) : Prop :=
  ∀ s t, P s t → ∃ r s' t', x.run s = (r, s') ∧ y.run t = (r, t') ∧ Left Q E r s' t'

theorem Same.relates {E : σ → τ → Prop} {x : Action σ α} {y : Action τ α} (h : Same R x y)
    (hE : ∀ s t, R s t → E s t) : Relates R R E x y := by
  intro s t hst
  obtain ⟨r, s', t', hx, hy, hst'⟩ := h s t hst
  cases r with
  | ok a => exact ⟨.ok a, s', t', hx, hy, hst'⟩
  | error e => exact ⟨.error e, s', t', hx, hy, hE s' t' hst'⟩

namespace Relates

variable {P Q S' E : σ → τ → Prop} {x : Action σ α} {y : Action τ α} {f : α → Action σ β}
  {g : α → Action τ β}

theorem bind (hx : Relates P Q E x y) (hf : ∀ a, Relates Q S' E (f a) (g a)) :
    Relates P S' E (x >>= f) (y >>= g) := by
  intro s t hst
  obtain ⟨r, s', t', hxrun, hyrun, hst'⟩ := hx s t hst
  cases r with
  | error e =>
      exact ⟨.error e, s', t', Action.run_bind_error hxrun, Action.run_bind_error hyrun, hst'⟩
  | ok a =>
      rw [Action.run_bind_ok hxrun, Action.run_bind_ok hyrun]
      exact hf a s' t' hst'

theorem onDriver (h : Relates P Q E x y) : Relates (Alongside P) (Alongside Q) (Alongside E)
    (World.onDriver x) (World.onDriver y) := by
  rintro ⟨s, j⟩ ⟨t, k⟩ ⟨hst, rfl⟩
  obtain ⟨r, s', t', hx, hy, hst'⟩ := h s t hst
  refine ⟨r, ⟨s', j⟩, ⟨t', j⟩, ?_, ?_, ?_⟩
  · rw [World.run_onDriver, hx]
  · rw [World.run_onDriver, hy]
  · cases r with
    | ok a => exact ⟨hst', rfl⟩
    | error e => exact ⟨hst', rfl⟩

theorem start {st : Statement σ} {rt : Statement τ} {sql : Option String} {x : Action σ Bool}
    {y : Action τ Bool} (hx : begin? st sql = .ok x) (hy : begin? rt sql = .ok y)
    (h : Relates P Q E x y) :
    Relates (Alongside P) (Alongside Q) (Alongside E) (StatementWalk.start st sql)
      (StatementWalk.start rt sql) := by
  rintro ⟨s, j⟩ ⟨t, k⟩ ⟨hst, rfl⟩
  obtain ⟨r, s', t', hxrun, hyrun, hst'⟩ := h s t hst
  refine ⟨r.mapError (executionFault sql), ⟨s', j⟩, ⟨t', j⟩, ?_, ?_, ?_⟩
  · rw [run_start hx, hxrun]
  · rw [run_start hy, hyrun]
  · cases r with
    | ok first => exact ⟨hst', rfl⟩
    | error f => exact ⟨hst', rfl⟩

theorem start_nothing {st : Statement σ} {rt : Statement τ} {sql : Option String}
    (hx : begin? st sql = .error nothingToRun) (hy : begin? rt sql = .error nothingToRun)
    (h : ∀ s t, P s t → E s t) :
    Relates (Alongside P) (Alongside Q) (Alongside E) (StatementWalk.start st sql)
      (StatementWalk.start rt sql) :=
  fun w v hwv => ⟨.error nothingToRun, w, v, run_start_nothing hx w, run_start_nothing hy v,
    h _ _ hwv.1, hwv.2⟩

end Relates

/-- The statements start alike from states related by `P`. An outcome that they have reached leaves
states related by `L`, and once its warnings were reported, by `R`; then they answer alike. What has
failed leaves states related by `E`. -/
structure Statement.Matches (P L R E : σ → τ → Prop) (st : Statement σ) (rt : Statement τ) :
    Prop where
  prepared_eq : st.prepared = rt.prepared
  execute (text : String) : Relates P L E (st.execute text) (rt.execute text)
  executePrepared : Relates P L E st.executePrepared rt.executePrepared
  report (sink : Sink) :
    Relates (Alongside L) (Alongside R) (Alongside E) (report sink st) (report sink rt)
  getResultSet {s : σ} {t : τ} (h : R s t) :
    Handout R (st.getResultSet.run s) (rt.getResultSet.run t)
  getUpdateCount : Same R st.getUpdateCount rt.getUpdateCount
  getMoreResults : Relates R L E st.getMoreResults rt.getMoreResults
  reach {s : σ} {t : τ} (h : R s t) : st.reach s = rt.reach t
  unstarted {s : σ} {t : τ} (h : P s t) : E s t
  ended {s : σ} {t : τ} (h : R s t) : E s t

theorem agree_report {st : Statement σ} {rt : Statement τ} (sink : Sink)
    (hget : Same R st.getWarnings rt.getWarnings)
    (hclear : Same R st.clearWarnings rt.clearWarnings) :
    Agree R (report sink st) (report sink rt) := by
  refine (Agree.onDriver hget).attempt.bind fun r => ?_
  cases r with
  | error f => exact (Agree.log _ _ _).bind fun _ => .pure []
  | ok head =>
      have hchain : Agree R (reportChain sink head) (reportChain sink head) := .onJournal _
      refine hchain.bind fun classified => ?_
      refine (Agree.onDriver hclear).attempt.bind fun q => ?_
      cases q with
      | ok u => exact .pure classified
      | error f => exact (Agree.log _ _ _).bind fun _ => .pure classified

theorem agree_consumeGiven {sink : Sink} {d : Dialect} {rs : ResultSet σ} {qs : ResultSet τ}
    (h : rs.Matches R qs) :
    Agree R (consumeGiven d sink (some rs)) (consumeGiven d sink (some qs)) := by
  refine h.agree_consumeRows.bind fun table => ?_
  rw [h.columns_eq]
  refine (Same.ofExcept _).bind fun summary => ?_
  refine (Agree.onJournal _).bind fun _ => ?_
  exact (Agree.onJournal _).bind fun _ => .pure _

namespace Statement.Matches

variable {P L E : σ → τ → Prop} {st : Statement σ} {rt : Statement τ} {d : Dialect} {sink : Sink}

theorem agree_consumeResultSet (h : st.Matches P L R E rt) :
    Agree R (consumeResultSet d sink st) (consumeResultSet d sink rt) := by
  rintro ⟨s, j⟩ ⟨t, k⟩ ⟨hst, rfl⟩
  rw [consumeResultSet_eq, consumeResultSet_eq]
  have hs := World.run_onDriver st.getResultSet ⟨s, j⟩
  have ht := World.run_onDriver rt.getResultSet ⟨t, j⟩
  have hgiven := h.getResultSet hst
  dsimp only at hs ht
  generalize st.getResultSet.run s = outs at hs hgiven
  generalize rt.getResultSet.run t = outt at ht hgiven
  cases hgiven with
  | failed f hst' =>
      exact ⟨.error f, _, _, Action.run_bind_error hs, Action.run_bind_error ht, hst', rfl⟩
  | absent hst' =>
      rw [Action.run_bind_ok hs, Action.run_bind_ok ht]
      exact Same.fail noResultSet _ _ ⟨hst', rfl⟩
  | given S weaken same hst' =>
      rw [Action.run_bind_ok hs, Action.run_bind_ok ht]
      -- The closer relation holds while the rows are read; what follows does not touch the driver.
      obtain ⟨r, w, v, hx, hy, hwv, hjournal⟩ := agree_consumeGiven same ⟨_, j⟩ ⟨_, j⟩ ⟨hst', rfl⟩
      exact ⟨r, w, v, hx, hy, weaken _ _ hwv, hjournal⟩

theorem agree_consumeCount (h : st.Matches P L R E rt) :
    Agree R (consumeCount sink st) (consumeCount sink rt) := by
  refine (Agree.onDriver h.getUpdateCount).bind fun count => ?_
  refine (Same.ofExcept (isNoOutcome count)).bind fun none? => ?_
  cases none? with
  | true => exact .pure none
  | false =>
      refine (Same.ofExcept (countOutcome count)).bind fun outcome => ?_
      exact (Agree.onJournal _).bind fun _ => .pure (some outcome)

theorem agree_consume (h : st.Matches P L R E rt) (isResultSet : Bool) :
    Agree R (consume d sink st isResultSet) (consume d sink rt isResultSet) := by
  cases isResultSet with
  | true => exact h.agree_consumeResultSet.map some
  | false => exact h.agree_consumeCount

/-- Once the outcome is consumed, the next one is reached and its warnings are reported. -/
theorem relates_consumeAll (h : st.Matches P L R E rt) (d : Dialect) (sink : Sink) (fuel : Nat)
    (isResultSet : Bool) (result : WalkResult) :
    Relates (Alongside R) (Alongside R) (Alongside E) (consumeAll d sink st fuel isResultSet result)
      (consumeAll d sink rt fuel isResultSet result) := by
  have hended : ∀ w v, Alongside R w v → Alongside E w v := fun _ _ hwv => ⟨h.ended hwv.1, hwv.2⟩
  induction fuel generalizing isResultSet result with
  | zero => exact (Same.fail endlessOutcomes).relates hended
  | succ fuel ih =>
      refine ((h.agree_consume isResultSet).relates hended).bind fun outcome => ?_
      cases outcome with
      | none => exact (Same.pure result).relates hended
      | some outcome =>
          refine h.getMoreResults.onDriver.bind fun more => ?_
          exact (h.report sink).bind fun warnings => ih more _

theorem relates_walkStarted (h : st.Matches P L R E rt) (d : Dialect) (sink : Sink)
    (sql : Option String) (isResultSet : Bool) :
    Relates (Alongside L) (Alongside R) (Alongside E) (walkStarted d sink st sql isResultSet)
      (walkStarted d sink rt sql isResultSet) := by
  have hended : ∀ w v, Alongside R w v → Alongside E w v := fun _ _ hwv => ⟨h.ended hwv.1, hwv.2⟩
  refine (h.report sink).bind fun warnings w v hwv => ?_
  rw [Action.run_bind_ok (Action.run_state w), Action.run_bind_ok (Action.run_state v),
    h.reach hwv.1]
  have hlog (result : WalkResult) : Agree R
      (World.log .debug .walking ("Walked " ++ toString result.outcomes.length ++ " outcome(s)") >>=
        fun _ => pure result : Action (World σ) WalkResult)
      (World.log .debug .walking ("Walked " ++ toString result.outcomes.length ++ " outcome(s)") >>=
        fun _ => pure result : Action (World τ) WalkResult) :=
    (Agree.log _ _ _).bind fun _ => .pure result
  have hall := (h.relates_consumeAll d sink (rt.reach v.driver + 2) isResultSet
    { sql, warnings }).bind fun result => (hlog result).relates hended
  exact hall w v hwv

theorem relates_begin? (h : st.Matches P L R E rt) (sql : Option String) :
    (begin? st sql = .error nothingToRun ∧ begin? rt sql = .error nothingToRun) ∨
      ∃ x y, begin? st sql = .ok x ∧ begin? rt sql = .ok y ∧ Relates P L E x y := by
  unfold begin?
  rw [h.prepared_eq]
  cases rt.prepared with
  | true => exact .inr ⟨_, _, rfl, rfl, h.executePrepared⟩
  | false =>
      cases sql with
      | some text => exact .inr ⟨_, _, rfl, rfl, h.execute text⟩
      | none => exact .inl ⟨rfl, rfl⟩

theorem relates_start (h : st.Matches P L R E rt) (sql : Option String) :
    Relates (Alongside P) (Alongside L) (Alongside E) (StatementWalk.start st sql)
      (StatementWalk.start rt sql) := by
  rcases h.relates_begin? sql with ⟨hx, hy⟩ | ⟨x, y, hx, hy, hstarts⟩
  · exact .start_nothing hx hy fun _ _ hst => h.unstarted hst
  · exact .start hx hy hstarts

/-- Walks of matching statements end in the same way, write the same and leave related drivers. -/
theorem run_walk (h : st.Matches P L R E rt) (d : Dialect) (sink : Sink) (sql : Option String)
    {s : σ} {t : τ} (hst : P s t) (j : Journal) :
    ∃ r s' t' k, (walk d sink st sql).run ⟨s, j⟩ = (r, ⟨s', k⟩) ∧
      (walk d sink rt sql).run ⟨t, j⟩ = (r, ⟨t', k⟩) ∧ E s' t' := by
  have hwalks := (h.relates_start sql).bind fun first => h.relates_walkStarted d sink sql first
  rw [walk_eq, walk_eq]
  obtain ⟨r, ⟨s', k⟩, ⟨t', l⟩, hs, ht, hend⟩ := hwalks ⟨s, j⟩ ⟨t, j⟩ ⟨hst, rfl⟩
  cases r with
  | ok result =>
      obtain ⟨hst', rfl⟩ := hend
      exact ⟨.ok result, s', t', k, hs, ht, h.ended hst'⟩
  | error f =>
      obtain ⟨hst', rfl⟩ := hend
      exact ⟨.error f, s', t', k, hs, ht, hst'⟩

end Statement.Matches

end StatementWalk
