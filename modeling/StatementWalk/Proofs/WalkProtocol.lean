import StatementWalk.Proofs.CallProtocol
import StatementWalk.Script.Cursor
import StatementWalk.Session.Session

/-!
# Walks keep the protocol

A walk makes the calls that the protocol allows, whatever the driver answers and wherever it fails.
A part of the walk is followed from the stage that the calls before it have reached. Where it
succeeds, the outcome has come as far as the result says; where it fails, it leaves nothing open.
-/

namespace StatementWalk

variable {σ α β : Type} {d : Dialect} {sink : Sink} {sql : Option String} {s t : Stage}
    {rs : ResultSet σ}
  {st : Statement σ}

/-- From calls that have reached the stage, the action makes further calls, and they reach a stage
that fits the way in which it ends. -/
def Leads (d : Dialect) (s : Stage) (x : Action (World (Recorded σ Call)) α)
    (Q : Except Fault α → Stage → Prop) : Prop :=
  ∀ w, stageOf d w.driver.calls = some s →
    ∃ t, stageOf d (x.run w).2.driver.calls = some t ∧
      w.driver.calls <+: (x.run w).2.driver.calls ∧ Q (x.run w).1 t

/-- No result set is open; after a success the phase is the one of the result. -/
def Reaches (p : α → Phase) (r : Except Fault α) (t : Stage) : Prop :=
  t.phase.handle? = none ∧ ∀ a, r = .ok a → t.phase = p a

namespace Leads

variable {x : Action (World (Recorded σ Call)) α} {f : α → Action (World (Recorded σ Call)) β}
  {Q Q' : Except Fault α → Stage → Prop} {P : Except Fault β → Stage → Prop} {p : α → Phase}
  {q : β → Phase}

theorem ofExcept {r : Except Fault α} (h : Q r s) :
    Leads d s (Action.ofExcept r : Action (World (Recorded σ Call)) α) Q :=
  fun _ hw => ⟨s, hw, List.prefix_rfl, h⟩

theorem pure {a : α} (h : Q (.ok a) s) :
    Leads d s (Pure.pure a : Action (World (Recorded σ Call)) α) Q := ofExcept h

theorem fail {e : Fault} (h : Q (.error e) s) :
    Leads d s (Action.fail e : Action (World (Recorded σ Call)) α) Q := ofExcept h

theorem onDriver {call : Except Fault α → Call} {y : Action σ α}
    (h : ∀ r, ∃ t, s.next d (call r) = some t ∧ Q r t) :
    Leads d s (World.onDriver (recording call y)) Q := by
  intro w hw
  obtain ⟨t, ht, hq⟩ := h (y.run w.driver.driver).1
  refine ⟨t, ?_, List.prefix_append _ _, hq⟩
  rw [World.run_onDriver, run_recording, stageOf_concat, hw]
  exact ht

theorem bind (hx : Leads d s x Q) (hok : ∀ a t, Q (.ok a) t → Leads d t (f a) P)
    (herror : ∀ e t, Q (.error e) t → P (.error e) t) : Leads d s (x >>= f) P := by
  intro w hw
  obtain ⟨t, ht, hmore, hq⟩ := hx w hw
  cases hrun : x.run w with
  | mk r v =>
      rw [hrun] at ht hmore hq
      cases r with
      | ok a =>
          obtain ⟨u, hu, hfurther, hp⟩ := hok a t hq v ht
          rw [Action.run_bind_ok hrun]
          exact ⟨u, hu, hmore.trans hfurther, hp⟩
      | error e =>
          rw [Action.run_bind_error hrun]
          exact ⟨t, ht, hmore, herror e t hq⟩

theorem afterExcept {r : Except Fault α} (hok : ∀ a, r = .ok a → Leads d s (f a) P)
    (herror : ∀ e, P (.error e) s) : Leads d s (Action.ofExcept r >>= f) P := by
  intro w hw
  cases r with
  | ok a => exact hok a rfl w hw
  | error e => exact ⟨s, hw, List.prefix_rfl, herror e⟩

theorem afterJournal {y : Action Journal α} (hok : ∀ a, Leads d s (f a) P)
    (herror : ∀ e, P (.error e) s) : Leads d s (World.onJournal y >>= f) P := by
  intro w hw
  have hrun := World.run_onJournal y w
  cases hy : (y.run w.journal).1 with
  | ok a =>
      rw [hy] at hrun
      rw [Action.run_bind_ok hrun]
      exact hok a _ hw
  | error e =>
      rw [hy] at hrun
      rw [Action.run_bind_error hrun]
      exact ⟨s, hw, List.prefix_rfl, herror e⟩

theorem afterLog {level : Level} {source : Source} {text : String}
    {f : Unit → Action (World (Recorded σ Call)) β} (h : Leads d s (f ()) P) :
    Leads d s (World.log level source text >>= f) P := by
  intro w hw
  rw [Action.run_bind_ok (World.run_log level source text w)]
  exact h _ hw

theorem afterAttempt {f : Except Fault α → Action (World (Recorded σ Call)) β} (hx : Leads d s x Q)
    (h : ∀ r t, Q r t → Leads d t (f r) P) : Leads d s (x.attempt >>= f) P := by
  intro w hw
  obtain ⟨t, ht, hmore, hq⟩ := hx w hw
  obtain ⟨u, hu, hfurther, hp⟩ := h _ t hq _ ht
  rw [Action.run_bind_ok (Action.run_attempt x w)]
  exact ⟨u, hu, hmore.trans hfurther, hp⟩

/-- An action that failed has left no result set open, so nothing has to be said of what follows
it. -/
theorem andThen (hx : Leads d s x (Reaches p))
    (hok : ∀ a t, t.phase = p a → Leads d t (f a) (Reaches q)) :
    Leads d s (x >>= f) (Reaches q) :=
  hx.bind (fun a t h => hok a t (h.2 a rfl)) fun _ _ h => ⟨h.1, nofun⟩

theorem map (hx : Leads d s x Q) {g : α → β} (hok : ∀ a t, Q (.ok a) t → P (.ok (g a)) t)
    (herror : ∀ e t, Q (.error e) t → P (.error e) t) : Leads d s (g <$> x) P := by
  rw [map_eq_pure_bind]
  exact hx.bind (fun a t h => .pure (hok a t h)) herror

theorem state {f : World (Recorded σ Call) → Action (World (Recorded σ Call)) α}
    (h : ∀ w, Leads d s (f w) Q) : Leads d s (Action.state >>= f) Q := by
  intro w hw
  rw [Action.run_bind_ok (Action.run_state w)]
  exact h w w hw

/-- A cleanup that never fails keeps the way in which the action ends. -/
theorem thenAlways {c : Action (World (Recorded σ Call)) Unit} (hx : Leads d s x Q)
    (hc : ∀ r t, Q r t → Leads d t c fun q u => q = .ok () ∧ Q' r u) :
    Leads d s (x.thenAlways c) Q' := by
  intro w hw
  obtain ⟨t, ht, hmore, hq⟩ := hx w hw
  cases hrun : x.run w with
  | mk r v =>
      rw [hrun] at ht hmore hq
      obtain ⟨u, hu, hfurther, hclean, hq'⟩ := hc r t hq v ht
      cases hcrun : c.run v with
      | mk q v' =>
          rw [hcrun] at hu hfurther hclean
          obtain rfl : q = .ok () := hclean
          rw [Action.run_thenAlways hrun, hcrun]
          exact ⟨u, hu, hmore.trans hfurther, hq'⟩

end Leads

namespace RowCall

def reads : RowCall → Bool
  | .object .. | .typed .. => true
  | .next _ | .close _ => false

end RowCall

/-- Reads are allowed while the result set stands on a row. -/
theorem stageOf_reads {calls : List Call} {h : Handle} {before : List RowCall} {given : Nat}
    (hcalls : stageOf d calls = some ⟨given, .onRow h before⟩) {reads : List RowCall}
    (hreads : ∀ c ∈ reads, c.reads = true) :
    stageOf d (calls ++ reads.map (.ofRows h.number)) =
      some ⟨given, .onRow h (before ++ reads)⟩ := by
  induction reads generalizing calls before with
  | nil => simpa using hcalls
  | cons c rest ih =>
      have hnext : stageOf d (calls ++ [.ofRows h.number c]) =
          some ⟨given, .onRow h (before ++ [c])⟩ := by
        rw [stageOf_concat, hcalls]
        have hc := hreads c List.mem_cons_self
        cases c with
        | next answer => cases hc
        | close answer => cases hc
        | object index answer => simp [Stage.next, Phase.handle?, Phase.nextOnRows]
        | typed reading index answer => simp [Stage.next, Phase.handle?, Phase.nextOnRows]
      have hrest := ih hnext fun c hc => hreads c (List.mem_cons_of_mem _ hc)
      rw [List.map_cons, List.append_cons, hrest, ← List.append_cons]

/-- The first action only reads cells of the result set with the number, and the second one ends in
the same way when it takes the answers from the record. -/
def Replays (number : Nat) (x : Action (World (Recorded σ Call)) α)
    (y : Action (World (List RowCall)) α) : Prop :=
  ∀ w, ∃ reads : List RowCall, (∀ c ∈ reads, c.reads = true) ∧
    (x.run w).2.driver.calls = w.driver.calls ++ reads.map (.ofRows number) ∧
    ∀ rest k, (y.run ⟨reads ++ rest, k⟩).1 = (x.run w).1 ∧
      (y.run ⟨reads ++ rest, k⟩).2.driver = rest

namespace Replays

variable {number : Nat}

theorem read {call : Except Fault Value → RowCall} {y : Action σ Value}
    {wanted : RowCall → Option (Except Fault Value)} (hreads : ∀ r, (call r).reads = true)
    (hwanted : ∀ r, wanted (call r) = some r) :
    Replays number (World.onDriver (recording (.ofRows number ∘ call) y))
      (World.onDriver (replay wanted)) := by
  intro w
  refine ⟨[call (y.run w.driver.driver).1], ?_, rfl, fun rest k => ⟨?_, rfl⟩⟩
  · intro c hc
    obtain rfl := List.mem_singleton.mp hc
    exact hreads _
  · show (wanted _).getD _ = _
    rw [hwanted]
    rfl

theorem ofExcept (r : Except Fault α) :
    Replays number (Action.ofExcept r : Action (World (Recorded σ Call)) α) (Action.ofExcept r) :=
  fun _ => ⟨[], fun _ h => absurd h List.not_mem_nil, (List.append_nil _).symm, fun _ _ =>
    ⟨rfl, rfl⟩⟩

theorem log (level : Level) (source : Source) (text : String) :
    Replays number (World.log level source text : Action (World (Recorded σ Call)) Unit)
      (World.log level source text) :=
  fun _ => ⟨[], fun _ h => absurd h List.not_mem_nil, (List.append_nil _).symm, fun _ _ =>
    ⟨rfl, rfl⟩⟩

theorem attempt {x : Action (World (Recorded σ Call)) α} {y : Action (World (List RowCall)) α}
    (h : Replays number x y) : Replays number x.attempt y.attempt := by
  intro w
  obtain ⟨reads, hreads, hcalls, hreplay⟩ := h w
  exact ⟨reads, hreads, hcalls, fun rest k =>
    ⟨congrArg Except.ok (hreplay rest k).1, (hreplay rest k).2⟩⟩

theorem bind {x : Action (World (Recorded σ Call)) α} {y : Action (World (List RowCall)) α}
    {f : α → Action (World (Recorded σ Call)) β} {g : α → Action (World (List RowCall)) β}
    (h : Replays number x y) (hf : ∀ a, Replays number (f a) (g a)) :
    Replays number (x >>= f) (y >>= g) := by
  intro w
  obtain ⟨reads, hreads, hcalls, hreplay⟩ := h w
  cases hx : x.run w with
  | mk r v =>
      rw [hx] at hcalls hreplay
      cases r with
      | error e =>
          refine ⟨reads, hreads, by rw [Action.run_bind_error hx, hcalls], fun rest k => ?_⟩
          cases hy : y.run ⟨reads ++ rest, k⟩ with
          | mk q u =>
              obtain ⟨hq, hu⟩ := hreplay rest k
              rw [hy] at hq hu
              obtain rfl : q = .error e := hq
              rw [Action.run_bind_error hx, Action.run_bind_error hy]
              exact ⟨rfl, hu⟩
      | ok a =>
          obtain ⟨more, hmore, hcalls', hreplay'⟩ := hf a v
          refine ⟨reads ++ more, ?_, ?_, fun rest k => ?_⟩
          · intro c hc
            exact (List.mem_append.mp hc).elim (hreads c) (hmore c)
          · rw [Action.run_bind_ok hx, hcalls', hcalls, List.map_append, List.append_assoc]
          · rw [List.append_assoc]
            cases hy : y.run ⟨reads ++ (more ++ rest), k⟩ with
            | mk q u =>
                obtain ⟨hq, hu⟩ := hreplay (more ++ rest) k
                rw [hy] at hq hu
                obtain rfl : q = .ok a := hq
                obtain ⟨left, k'⟩ := u
                obtain rfl : left = more ++ rest := hu
                rw [Action.run_bind_ok hx, Action.run_bind_ok hy]
                exact hreplay' rest k'

theorem lockstep (number : Nat) :
    Lockstep fun α => (Replays number : Action (World (Recorded σ Call)) α →
      Action (World (List RowCall)) α → Prop) :=
  ⟨ofExcept, log, attempt, bind⟩

theorem normalizeRow (d : Dialect) (rs : ResultSet σ) (number : Nat) :
    Replays number (normalizeRow d (rs.recorded number))
      (normalizeRow d (replayed rs.columns)) := by
  have hobject (index : Int) : Replays number
      (World.onDriver ((rs.recorded number).getObject index))
      (World.onDriver ((replayed rs.columns).getObject index)) :=
    read (fun _ => rfl) fun _ => if_pos rfl
  have hget (reading : Reading) (index : Int) : Replays number
      (World.onDriver ((rs.recorded number).get reading index))
      (World.onDriver ((replayed rs.columns).get reading index)) :=
    read (fun _ => rfl) fun _ => if_pos ⟨rfl, rfl⟩
  exact (lockstep number).normalizeRow rfl hobject hget

end Replays

/-- The open result set, and no row of it that has not been normalized. -/
def Phase.Ready (d : Dialect) (h : Handle) : Phase → Prop
  | .opened h' => h' = h
  | .onRow h' reads => h' = h ∧ settles d h.columns reads = true
  | _ => False

/-- Rows that were read to the end, or up to a fault. -/
def Drained (h : Handle) : Except Fault Table → Stage → Prop
  | .ok _, t => t.phase = .drained h
  | .error _, t => (∃ reads, t.phase = .onRow h reads) ∨ t.phase = .broken h

theorem Phase.Ready.handle? {p : Phase} {h : Handle} (hp : p.Ready d h) : p.handle? = some h := by
  cases p with
  | opened h' => exact congrArg some hp
  | onRow h' reads => exact congrArg some hp.1
  | _ => exact hp.elim

theorem Phase.Ready.next {p : Phase} {h : Handle} (hp : p.Ready d h) (answer : Except Fault Bool) :
    p.nextOnRows d (.next answer) = some (.ofMove h answer) := by
  cases p with
  | opened h' =>
      obtain rfl : h' = h := hp
      rfl
  | onRow h' reads =>
      obtain ⟨rfl, hsettles⟩ := hp
      exact if_pos hsettles
  | _ => exact hp.elim

theorem Stage.next_ofRows {h : Handle} {c : RowCall} {p : Phase} (hopen : s.phase.handle? = some h)
    (hp : s.phase.nextOnRows d c = some p) :
    s.next d (.ofRows h.number c) = some { s with phase := p } := by
  simp [Stage.next, hopen, hp]

theorem leads_normalizeRow (rs : ResultSet σ) {h : Handle} (hphase : s.phase = .onRow h []) :
    Leads d s (normalizeRow d (rs.recorded h.number)) fun r t =>
      ∃ reads, t.phase = .onRow h reads ∧
        ((∃ row, r = .ok row) → settles d rs.columns reads = true) := by
  obtain ⟨given, phase⟩ := s
  obtain rfl : phase = .onRow h [] := hphase
  intro w hw
  obtain ⟨reads, hreads, hcalls, hreplay⟩ := Replays.normalizeRow d rs h.number w
  refine ⟨⟨given, .onRow h reads⟩, ?_, ?_, reads, rfl, ?_⟩
  · rw [hcalls]
    exact stageOf_reads hw hreads
  · rw [hcalls]
    exact List.prefix_append _ _
  · rintro ⟨row, hrow⟩
    obtain ⟨hresult, hleft⟩ := hreplay [] {}
    rw [List.append_nil] at hresult hleft
    unfold settles
    split
    · rename_i hrun
      rw [hrun] at hleft
      exact List.isEmpty_iff.mpr hleft
    · rename_i hrun
      rw [hrun, hrow] at hresult
      cases hresult

theorem leads_drain_succ {h : Handle} (hcolumns : rs.columns = h.columns) {fuel : Nat}
    (hrest : ∀ t : Stage, (∃ reads, t.phase = .onRow h reads ∧ settles d h.columns reads = true) →
      Leads d t (drain d (rs.recorded h.number) fuel) (Drained h))
    (hready : s.phase.Ready d h) :
    Leads d s (drain d (rs.recorded h.number) (fuel + 1)) (Drained h) := by
  have hmove : Leads d s (World.onDriver (rs.recorded h.number).nextRow)
      fun r t => t.phase = .ofMove h r :=
    .onDriver fun r => ⟨_, Stage.next_ofRows hready.handle? (hready.next r), rfl⟩
  refine hmove.bind (fun more t ht => ?_) fun _ _ ht => .inr ht
  cases more with
  | false => exact .pure ht
  | true =>
      refine (leads_normalizeRow rs ht).bind (fun row u hu => ?_) fun _ _ ⟨reads, hu, _⟩ =>
        .inl ⟨reads, hu⟩
      obtain ⟨reads, hphase, hsettles⟩ := hu
      have hrow : settles d h.columns reads = true := hcolumns ▸ hsettles ⟨row, rfl⟩
      refine .afterExcept (fun line _ => ?_) fun _ => .inl ⟨reads, hphase⟩
      exact (hrest u ⟨reads, hphase, hrow⟩).bind (fun rest u hu => .pure hu) fun _ _ hu => hu

theorem leads_drain {h : Handle} (hcolumns : rs.columns = h.columns) (fuel : Nat)
    {reads : List RowCall}
    (hphase : s.phase = .onRow h reads) (hsettles : settles d h.columns reads = true) :
    Leads d s (drain d (rs.recorded h.number) fuel) (Drained h) := by
  induction fuel generalizing s reads with
  | zero => exact .fail (.inl ⟨reads, hphase⟩)
  | succ fuel ih =>
      refine leads_drain_succ hcolumns (fun t ⟨reads, ht, hrow⟩ => ih ht hrow) ?_
      rw [hphase]
      exact ⟨rfl, hsettles⟩

/-- A result set is closed after its last row, and after a fault as well. -/
theorem leads_close {h : Handle} {r : Except Fault Table} (hr : Drained h r s) :
    Leads d s (closeQuietly (rs.recorded h.number).closable) fun q u =>
      (∃ v, q = .ok v) ∧ Reaches (fun _ : Table => .consumed) r u := by
  have hclose : Leads d s (World.onDriver (rs.recorded h.number).close) fun _ u =>
      Reaches (fun _ : Table => .consumed) r u := by
    refine .onDriver fun answer => ?_
    cases r with
    | ok table =>
        have hphase : s.phase = .drained h := hr
        refine ⟨_, Stage.next_ofRows (h := h) (by rw [hphase]; rfl) (by rw [hphase]; rfl), rfl, ?_⟩
        exact fun _ _ => rfl
    | error f =>
        rcases hr with ⟨reads, hphase⟩ | hphase
        · exact ⟨_, Stage.next_ofRows (h := h) (by rw [hphase]; rfl) (by rw [hphase]; rfl), rfl,
            nofun⟩
        · exact ⟨_, Stage.next_ofRows (h := h) (by rw [hphase]; rfl) (by rw [hphase]; rfl), rfl,
            nofun⟩
  refine hclose.afterAttempt fun answer u hu => ?_
  cases answer with
  | ok _ => exact .pure ⟨⟨_, rfl⟩, hu⟩
  | error f => exact .afterLog (.pure ⟨⟨_, rfl⟩, hu⟩)

theorem leads_consumeRows {h : Handle} (hcolumns : rs.columns = h.columns)
    (hphase : s.phase = .opened h) :
    Leads d s (consumeRows d (rs.recorded h.number)) (Reaches fun _ => .consumed) := by
  have hrows : Leads d s (do
      let w ← Action.state
      drain d (rs.recorded h.number) ((rs.recorded h.number).reach w.driver + 1)) (Drained h) := by
    refine .state fun w => leads_drain_succ hcolumns (fun t ⟨reads, ht, hrow⟩ => ?_) ?_
    · exact leads_drain hcolumns _ ht hrow
    · rw [hphase]
      rfl
  refine hrows.thenAlways fun r t ht => (leads_close ht).bind (fun _ u hu => ?_) fun _ u hu => ?_
  · exact .pure ⟨rfl, hu.2⟩
  · obtain ⟨⟨_, hok⟩, -⟩ := hu
    cases hok

theorem leads_resultSet (hphase : s.phase = .due true) :
    Leads d s (World.onDriver st.recorded.getResultSet) fun r t =>
      match r with
      | .ok (some qs) => ∃ (rs : ResultSet σ) (h : Handle), qs = rs.recorded h.number ∧
          rs.columns = h.columns ∧ t.phase = .opened h
      | _ => t.phase = .stopped := by
  obtain ⟨given, phase⟩ := s
  obtain rfl : phase = .due true := hphase
  intro w hw
  have hgiven : handlesGiven w.driver.calls = given := (Stage.accounts_of_stageOf hw).given_eq
  have hstep (call : Call) : stageOf d (w.driver.calls ++ [call]) =
      Stage.next d ⟨given, .due true⟩ call := by
    rw [stageOf_concat, hw]
    rfl
  rw [World.run_onDriver]
  cases hrun : st.getResultSet.run w.driver.driver with
  | mk r v =>
      have hrecorded : st.recorded.getResultSet.run w.driver = _ := run_recordedResultSet hrun
      rw [hrecorded, hgiven]
      cases r with
      | error f => exact ⟨_, hstep _, List.prefix_append _ _, rfl⟩
      | ok rs? =>
          cases rs? with
          | none => exact ⟨_, hstep _, List.prefix_append _ _, rfl⟩
          | some rs =>
              refine ⟨⟨given + 1, .opened ⟨given, rs.columns⟩⟩, (hstep _).trans (if_pos rfl),
                List.prefix_append _ _, rs, _, rfl, rfl, rfl⟩

theorem leads_offerTable {columns : List Column} {table : Table} (hphase : s.phase = .consumed) :
    Leads d s (offerTable sink columns table : Action (World (Recorded σ Call)) Outcome)
      (Reaches fun _ => .consumed) := by
  have hopen : s.phase.handle? = none := by rw [hphase]; rfl
  have hfault (e : Fault) : Reaches (fun _ : Outcome => Phase.consumed) (.error e) s :=
    ⟨hopen, nofun⟩
  refine .afterExcept (fun summary _ => ?_) hfault
  refine .afterJournal (fun _ => ?_) hfault
  refine .afterJournal (fun _ => ?_) hfault
  exact .pure ⟨hopen, fun _ _ => hphase⟩

theorem leads_consumeResultSet (hphase : s.phase = .due true) :
    Leads d s (consumeResultSet d sink st.recorded) (Reaches fun _ => .consumed) := by
  rw [consumeResultSet_eq]
  refine (leads_resultSet hphase).bind (fun rs? t ht => ?_) fun _ t ht => ⟨by rw [ht]; rfl, nofun⟩
  cases rs? with
  | none => exact .fail ⟨by rw [ht]; rfl, nofun⟩
  | some qs =>
      obtain ⟨rs, h, rfl, hcolumns, hopened⟩ := ht
      exact (leads_consumeRows hcolumns hopened).andThen fun table u hu => leads_offerTable hu

theorem leads_consumeCount (hphase : s.phase = .due false) :
    Leads d s (consumeCount sink st.recorded)
      (Reaches fun outcome => if outcome.isSome then .consumed else .finished) := by
  obtain ⟨given, phase⟩ := s
  obtain rfl : phase = .due false := hphase
  have hcount : Leads d ⟨given, .due false⟩ (World.onDriver st.recorded.getUpdateCount)
      fun r t => t.phase = .ofCount r := .onDriver fun r => ⟨_, rfl, rfl⟩
  refine hcount.bind (fun count t ht => ?_) fun _ t ht => ⟨by rw [ht]; rfl, nofun⟩
  have hopen : t.phase.handle? = none := by rw [ht, Phase.handle?_ofCount]
  have hfault (e : Fault) : Reaches (fun outcome : Option Outcome =>
      if outcome.isSome then Phase.consumed else .finished) (.error e) t := ⟨hopen, nofun⟩
  refine .afterExcept (fun none? hnone => ?_) hfault
  rw [Phase.ofCount, hnone] at ht
  cases none? with
  | true => exact .pure ⟨hopen, fun a ha => by cases ha; exact ht⟩
  | false =>
      refine .afterExcept (fun outcome _ => ?_) hfault
      refine .afterJournal (fun _ => ?_) hfault
      exact .pure ⟨hopen, fun a ha => by cases ha; exact ht⟩

theorem leads_consume {isResultSet : Bool} (hphase : s.phase = .due isResultSet) :
    Leads d s (consume d sink st.recorded isResultSet)
      (Reaches fun outcome => if outcome.isSome then .consumed else .finished) := by
  cases isResultSet with
  | false => exact leads_consumeCount hphase
  | true =>
      refine (leads_consumeResultSet hphase).map (fun outcome t ht => ?_) fun _ _ ht =>
        ⟨ht.1, nofun⟩
      exact ⟨ht.1, fun a ha => by cases ha; exact ht.2 _ rfl⟩

theorem leads_report {isResultSet : Bool} (hphase : s.phase = .arrived isResultSet) :
    Leads d s (report sink st.recorded) (Reaches fun _ => .due isResultSet) := by
  obtain ⟨given, phase⟩ := s
  obtain rfl : phase = .arrived isResultSet := hphase
  have hask : Leads d ⟨given, .arrived isResultSet⟩ (World.onDriver st.recorded.getWarnings)
      fun r t => t = ⟨given, .ofWarnings isResultSet r⟩ := .onDriver fun r => ⟨_, rfl, rfl⟩
  have hclear : Leads d ⟨given, .warned isResultSet⟩ (World.onDriver st.recorded.clearWarnings)
      fun _ t => t = ⟨given, .due isResultSet⟩ := .onDriver fun _ => ⟨_, rfl, rfl⟩
  refine hask.afterAttempt fun r t ht => ?_
  cases r with
  | error f =>
      subst ht
      exact .afterLog (.pure ⟨rfl, fun _ _ => rfl⟩)
  | ok head =>
      subst ht
      refine .afterJournal (fun classified => ?_) fun _ => ⟨rfl, nofun⟩
      refine hclear.afterAttempt fun r t ht => ?_
      subst ht
      cases r with
      | ok _ => exact .pure ⟨rfl, fun _ _ => rfl⟩
      | error f => exact .afterLog (.pure ⟨rfl, fun _ _ => rfl⟩)

theorem leads_consumeAll (fuel : Nat) {isResultSet : Bool} (hphase : s.phase = .due isResultSet)
    (result : WalkResult) :
    Leads d s (consumeAll d sink st.recorded fuel isResultSet result)
      (Reaches fun _ => .finished) := by
  induction fuel generalizing s isResultSet result with
  | zero => exact .fail ⟨by rw [hphase]; rfl, nofun⟩
  | succ fuel ih =>
      refine (leads_consume hphase).andThen fun outcome t ht => ?_
      cases outcome with
      | none => exact .pure ⟨by rw [ht]; rfl, fun _ _ => ht⟩
      | some outcome =>
          have hmore : Leads d t (World.onDriver st.recorded.getMoreResults)
              (Reaches fun more => .arrived more) := by
            obtain ⟨given, phase⟩ := t
            obtain rfl : phase = .consumed := ht
            refine .onDriver fun r => ⟨_, rfl, Phase.handle?_ofArrival r, fun more hr => ?_⟩
            rw [hr]
            rfl
          refine hmore.andThen fun more u hu => ?_
          exact (leads_report hu).andThen fun warnings v hv => ih hv _

/-- The call that executes the statement, if there is a text to run. -/
def Statement.beginning (st : Statement σ) (sql : Option String) :
    Option (Except Fault Bool → Call) :=
  match st.prepared, sql with
  | true, _ => some .executePrepared
  | false, some text => some (.execute text)
  | false, none => none

theorem begin?_recorded (d : Dialect) (st : Statement σ) (sql : Option String) :
    match st.beginning sql with
    | some call => ∃ x, begin? st.recorded sql = .ok (recording call x) ∧
        ∀ r, Stage.next d {} (call r) = some ⟨0, .ofArrival r⟩
    | none => begin? st.recorded sql = .error nothingToRun := by
  have hprepared : st.recorded.prepared = st.prepared := rfl
  unfold begin? Statement.beginning
  rw [hprepared]
  cases st.prepared with
  | true => exact ⟨_, rfl, fun _ => rfl⟩
  | false =>
      cases sql with
      | some text => exact ⟨_, rfl, fun _ => rfl⟩
      | none => rfl

theorem leads_walkStarted (d : Dialect) (sink : Sink) (st : Statement σ) (sql : Option String)
    {isResultSet : Bool} (hphase : s.phase = .arrived isResultSet) :
    Leads d s (walkStarted d sink st.recorded sql isResultSet) (Reaches fun _ => .finished) := by
  refine (leads_report hphase).andThen fun warnings t ht => ?_
  refine .state fun w => ?_
  refine (leads_consumeAll _ ht _).andThen fun result u hu => ?_
  exact .afterLog (.pure ⟨by rw [hu]; rfl, fun _ _ => hu⟩)

/-- A walk with a text to run executes the statement by its first call, and goes on from there. -/
theorem run_walk_of_beginning (d : Dialect) (sink : Sink) {call : Except Fault Bool → Call}
    (hcall : st.beginning sql = some call) (v : σ) (j : Journal) :
    ∃ r w answer rest t, (walk d sink st.recorded sql).run ⟨⟨v, []⟩, j⟩ = (r, w) ∧
      w.driver.calls = call answer :: rest ∧ stageOf d w.driver.calls = some t ∧
      Reaches (fun _ => .finished) r t := by
  have hbegin := begin?_recorded d st sql
  rw [hcall] at hbegin
  obtain ⟨x, hx, hnext⟩ := hbegin
  have hstage (answer : Except Fault Bool) :
      stageOf d [call answer] = some ⟨0, .ofArrival answer⟩ := by
    rw [← List.nil_append [call answer], stageOf_concat]
    exact hnext answer
  have hstart := run_start hx ⟨⟨v, []⟩, j⟩
  rw [run_recording] at hstart
  dsimp only at hstart
  cases hrun : x.run v with
  | mk answer v' =>
      rw [hrun] at hstart
      rw [walk_eq]
      cases answer with
      | error f =>
          exact ⟨_, _, .error f, [], _, Action.run_bind_error hstart, rfl,
            hstage (.error f), rfl, nofun⟩
      | ok isResultSet =>
          rw [Action.run_bind_ok hstart]
          obtain ⟨t, ht, ⟨rest, hrest⟩, hend⟩ :=
            leads_walkStarted d sink st sql rfl ⟨⟨v', [call (.ok isResultSet)]⟩, j⟩
              (hstage (.ok isResultSet))
          exact ⟨_, _, .ok isResultSet, rest, t, rfl, hrest.symm, ht, hend⟩

theorem run_walk_of_no_beginning (d : Dialect) (sink : Sink) (hcall : st.beginning sql = none)
    (v : σ) (j : Journal) :
    (walk d sink st.recorded sql).run ⟨⟨v, []⟩, j⟩ = (.error nothingToRun, ⟨⟨v, []⟩, j⟩) := by
  have hbegin := begin?_recorded d st sql
  rw [hcall] at hbegin
  rw [walk_eq]
  exact Action.run_bind_error (run_start_nothing hbegin _)

/-- A walk on any statement ends and writes as if its calls were not recorded, and its calls keep
the protocol: the one that executes the statement is the first and only one, each of the others is
made in its place, no result set is left open, each one that was given out is closed once, and a
walk that succeeds has come to the end of the outcomes. Where there is no text to run, the walk
fails and calls nothing. -/
theorem walk_keeps_protocol (st : Statement σ) (d : Dialect) (sink : Sink)
    (sql : Option String) (v : σ) (j : Journal) :
    let plain := (walk d sink st sql).run ⟨v, j⟩
    let seen := (walk d sink st.recorded sql).run ⟨⟨v, []⟩, j⟩
    let calls := seen.2.driver.calls
    (seen.1 = plain.1 ∧ seen.2.journal = plain.2.journal ∧ seen.2.driver.driver = plain.2.driver) ∧
      (∃ stage, stageOf d calls = some stage ∧ stage.phase.handle? = none ∧
        ∀ r, seen.1 = .ok r → stage.phase = .finished) ∧
      (∀ n, calls.countP (Call.closes n) = if n < handlesGiven calls then 1 else 0) ∧
      (∀ before call after, calls = before ++ call :: after → call.Fits before) ∧
      match st.beginning sql with
      | some call => ∃ answer rest, calls = call answer :: rest ∧ ∀ c ∈ rest, c.begins = false
      | none => calls = [] ∧ seen.1 = .error nothingToRun := by
  intro plain seen calls
  refine ⟨st.run_walk_recorded d sink sql ⟨v, []⟩ j, ?_⟩
  have hend : ∃ stage, stageOf d calls = some stage ∧
      Reaches (fun _ => .finished) seen.1 stage := by
    cases hcall : st.beginning sql with
    | none =>
        have hrun : seen = _ := run_walk_of_no_beginning d sink hcall v j
        rw [show calls = [] from congrArg (·.2.driver.calls) hrun, hrun]
        exact ⟨{}, rfl, rfl, nofun⟩
    | some call =>
        obtain ⟨r, w, _, _, stage, hrun, -, hstage, hreach⟩ :=
          run_walk_of_beginning d sink hcall v j
        have hseen : seen = (r, w) := hrun
        rw [show calls = w.driver.calls from congrArg (·.2.driver.calls) hseen, hseen]
        exact ⟨stage, hstage, hreach⟩
  obtain ⟨stage, hstage, hopen, hfinished⟩ := hend
  have haccounts := Stage.accounts_of_stageOf hstage
  refine ⟨⟨stage, hstage, hopen, hfinished⟩, fun n => ?_, fun before call after hcalls => ?_, ?_⟩
  · rw [haccounts.closes_eq n, hopen, haccounts.given_eq]
    simp
  · exact fits_of_stageOf (hcalls ▸ hstage)
  · cases hcall : st.beginning sql with
    | none =>
        have hrun : seen = _ := run_walk_of_no_beginning d sink hcall v j
        exact ⟨congrArg (·.2.driver.calls) hrun, congrArg (·.1) hrun⟩
    | some call =>
        obtain ⟨r, w, answer, rest, -, hrun, hcalls, -, -⟩ :=
          run_walk_of_beginning d sink hcall v j
        have hcalls' : calls = call answer :: rest :=
          (congrArg (·.2.driver.calls) hrun).trans hcalls
        refine ⟨answer, rest, hcalls', ?_⟩
        rcases haccounts.begins_eq with hnil | ⟨first, others, hothers, -, hrest⟩
        · rw [hcalls'] at hnil
          cases hnil
        · rw [hcalls'] at hothers
          cases hothers
          exact hrest

/-- The cursor has an outcome, and yet its statement is not executed: it is given no text. -/
theorem walk_without_text_executes_nothing :
    let st := Session.statement (.ofDialect .plain) ScriptedCursor.cursor none
    let seen := (walk .plain Sink.collecting st.recorded none).run
      ⟨⟨.fresh (.ofScript { outcomes := [.count (.int 1)] } .null), []⟩, {}⟩
    ¬ ∃ first rest, seen.2.driver.calls = first :: rest ∧ first.begins = true := by
  intro st seen
  have hrun : seen = _ := run_walk_of_no_beginning .plain Sink.collecting rfl _ {}
  rw [hrun]
  rintro ⟨first, rest, hcalls, -⟩
  cases hcalls

end StatementWalk
