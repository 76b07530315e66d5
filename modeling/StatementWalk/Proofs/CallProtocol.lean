import StatementWalk.Proofs.Recording

/-!
# The call protocol of a statement

Which call may follow which. A statement is executed first and once. At each outcome its warnings
are asked for, and cleared where they were handed out; then the one request is made that fits the
outcome. A result set is read row by row to its end, and the next row is asked for only if the
answers to the reads of the last one give a normalized row. A handle is closed before the statement
is called again; one whose rows were not read to the end is closed all the same, and then nothing
more is called.
-/

namespace StatementWalk

def unrecorded : Fault := ⟨.unexpectedDriver, "No such read was recorded", none⟩

/-- Takes the answer of the next recorded read, which has to be the wanted one. -/
def replay (wanted : RowCall → Option (Except Fault Value)) : Action (List RowCall) Value
  | [] => (.error unrecorded, [])
  | read :: rest => ((wanted read).getD (.error unrecorded), rest)

/-- A result set that answers reads as they were recorded, and has no further row. -/
def replayed (columns : List Column) : ResultSet (List RowCall) where
  className := "ReplayedResultSet"
  columns := columns
  nextRow := Action.fail unrecorded
  getObject index := replay fun
    | .object i answer => if i = index then some answer else none
    | _ => none
  get reading index := replay fun
    | .typed r i answer => if r = reading ∧ i = index then some answer else none
    | _ => none
  close := pure ()
  reach _ := 0

/-- The answers to the reads are those of a row all of whose cells could be normalized. -/
def settles (d : Dialect) (columns : List Column) (reads : List RowCall) : Bool :=
  match (normalizeRow d (replayed columns)).run ⟨reads, {}⟩ with
  | (.ok _, w) => w.driver.isEmpty
  | (.error _, _) => false

/-- How far the consumption of a statement has come. -/
inductive Phase where
  /-- Nothing was called. -/
  | idle
  /-- The driver came to an outcome; its warnings were not asked for. -/
  | arrived (isResultSet : Bool)
  /-- The warnings were handed out, and not cleared. -/
  | warned (isResultSet : Bool)
  /-- The outcome is due. -/
  | due (isResultSet : Bool)
  /-- A result set was given out, and no row was asked for. -/
  | opened (h : Handle)
  /-- The result set stands on a row, of which the reads were made. -/
  | onRow (h : Handle) (reads : List RowCall)
  /-- There is no further row. -/
  | drained (h : Handle)
  /-- The next row could not be fetched. -/
  | broken (h : Handle)
  /-- The outcome was consumed. -/
  | consumed
  /-- There is no further outcome. -/
  | finished
  /-- A fault has ended the consumption. -/
  | stopped

namespace Phase

def handle? : Phase → Option Handle
  | .opened h | .onRow h _ | .drained h | .broken h => some h
  | _ => none

def ofArrival : Except Fault Bool → Phase
  | .ok isResultSet => .arrived isResultSet
  | .error _ => .stopped

def ofWarnings (isResultSet : Bool) : Except Fault (Option WarningRecord) → Phase
  | .ok _ => .warned isResultSet
  | .error _ => .due isResultSet

def ofMove (h : Handle) : Except Fault Bool → Phase
  | .ok true => .onRow h []
  | .ok false => .drained h
  | .error _ => .broken h

/-- A count of minus one says that there is no further outcome. -/
def ofCount : Except Fault Value → Phase
  | .error _ => .stopped
  | .ok count =>
    match isNoOutcome count with
    | .ok true => .finished
    | .ok false => .consumed
    | .error _ => .stopped

def nextOnRows (d : Dialect) : Phase → RowCall → Option Phase
  | .opened h, .next answer => some (ofMove h answer)
  | .onRow h reads, .next answer =>
    if settles d h.columns reads then some (ofMove h answer) else none
  | .onRow h reads, .object index answer => some (.onRow h (reads ++ [.object index answer]))
  | .onRow h reads, .typed reading index answer =>
    some (.onRow h (reads ++ [.typed reading index answer]))
  | .drained _, .close _ => some .consumed
  | .onRow _ _, .close _ | .broken _, .close _ => some .stopped
  | _, _ => none

/-- The phase after a call of the statement that gives out no result set. -/
def next : Phase → Call → Option Phase
  | .idle, .execute _ answer | .idle, .executePrepared answer => some (ofArrival answer)
  | .arrived isResultSet, .warnings answer => some (ofWarnings isResultSet answer)
  | .warned isResultSet, .clearWarnings _ => some (.due isResultSet)
  | .due true, .resultSet (.ok none) | .due true, .resultSet (.error _) => some .stopped
  | .due false, .updateCount answer => some (ofCount answer)
  | .consumed, .moreResults answer => some (ofArrival answer)
  | _, _ => none

end Phase

/-- A phase with the number of result sets that were given out. -/
structure Stage where
  given : Nat := 0
  phase : Phase := .idle

/-- The stage after a call, if the protocol allows the call. -/
def Stage.next (d : Dialect) (s : Stage) : Call → Option Stage
  | .ofRows number call =>
    match s.phase.handle? with
    | some h =>
      if h.number = number then (s.phase.nextOnRows d call).map fun p => { s with phase := p }
      else none
    | none => none
  | .resultSet (.ok (some h)) =>
    match s.phase with
    | .due true => if h.number = s.given then some ⟨s.given + 1, .opened h⟩ else none
    | _ => none
  | call => (s.phase.next call).map fun p => { s with phase := p }

/-- The stage to which calls lead, if the protocol allows them one after the other. -/
def stageOf (d : Dialect) (calls : List Call) : Option Stage := calls.foldlM (Stage.next d) {}

theorem stageOf_concat (d : Dialect) (calls : List Call) (call : Call) :
    stageOf d (calls ++ [call]) = (stageOf d calls).bind fun s => s.next d call := by
  simp [stageOf, List.foldlM_append]

/-- What holds before the first call, and is kept by every call that the protocol allows, holds at
every stage. -/
theorem invariant_of_stageOf {d : Dialect} {J : Stage → List Call → Prop} (hstart : J {} [])
    (hnext : ∀ s t calls call, J s calls → s.next d call = some t → J t (calls ++ [call]))
    {calls : List Call} {s : Stage} (h : stageOf d calls = some s) : J s calls := by
  have hrun : ∀ (more done : List Call) (u : Stage), J u done →
      more.foldlM (Stage.next d) u = some s → J s (done ++ more) := by
    intro more
    induction more with
    | nil =>
        intro done u hu hmore
        cases hmore
        rwa [List.append_nil]
    | cons call rest ih =>
        intro done u hu hmore
        rw [List.foldlM_cons] at hmore
        obtain ⟨v, hv, hrest⟩ := Option.bind_eq_some_iff.mp hmore
        have hall := ih (done ++ [call]) v (hnext u v done call hu hv) hrest
        rwa [List.append_assoc] at hall
  exact hrun calls [] {} hstart h

namespace Phase

variable {d : Dialect} {p q : Phase}

theorem handle?_ofMove (h : Handle) (answer : Except Fault Bool) :
    (ofMove h answer).handle? = some h := by
  cases answer with
  | error f => rfl
  | ok more => cases more <;> rfl

theorem handle?_ofArrival (answer : Except Fault Bool) : (ofArrival answer).handle? = none := by
  cases answer <;> rfl

theorem handle?_ofCount (answer : Except Fault Value) : (ofCount answer).handle? = none := by
  unfold ofCount
  split
  · rfl
  · split <;> rfl

theorem handle?_nextOnRows {call : RowCall} (h : p.nextOnRows d call = some q) :
    ((∃ answer, call = .close answer) ∧ q.handle? = none ∧ q ≠ .idle) ∨
      ((∀ answer, call ≠ .close answer) ∧ q.handle? = p.handle?) := by
  unfold nextOnRows at h
  split at h
  · cases h
    exact .inr ⟨fun _ => RowCall.noConfusion, handle?_ofMove _ _⟩
  · split at h
    · cases h
      exact .inr ⟨fun _ => RowCall.noConfusion, handle?_ofMove _ _⟩
    · cases h
  · cases h
    exact .inr ⟨fun _ => RowCall.noConfusion, rfl⟩
  · cases h
    exact .inr ⟨fun _ => RowCall.noConfusion, rfl⟩
  · cases h
    exact .inl ⟨⟨_, rfl⟩, rfl, nofun⟩
  · cases h
    exact .inl ⟨⟨_, rfl⟩, rfl, nofun⟩
  · cases h
    exact .inl ⟨⟨_, rfl⟩, rfl, nofun⟩
  · cases h

theorem ofArrival_ne_idle (answer : Except Fault Bool) : ofArrival answer ≠ .idle := by
  cases answer <;> nofun

theorem handle?_ofWarnings (isResultSet : Bool) (answer : Except Fault (Option WarningRecord)) :
    (ofWarnings isResultSet answer).handle? = none := by
  cases answer <;> rfl

theorem ofWarnings_ne_idle (isResultSet : Bool) (answer : Except Fault (Option WarningRecord)) :
    ofWarnings isResultSet answer ≠ .idle := by
  cases answer <;> nofun

theorem ofCount_ne_idle (answer : Except Fault Value) : ofCount answer ≠ .idle := by
  unfold ofCount
  split
  · nofun
  · split <;> nofun

/-- A call of the statement is made while no result set is open. It executes the statement if and
only if nothing was called before. -/
theorem next_eq_some {call : Call} (h : p.next call = some q) :
    p.handle? = none ∧ q.handle? = none ∧ q ≠ .idle ∧ (call.begins = true ↔ p = .idle) := by
  unfold next at h
  split at h
  · cases h
    exact ⟨rfl, handle?_ofArrival _, ofArrival_ne_idle _, fun _ => rfl, fun _ => rfl⟩
  · cases h
    exact ⟨rfl, handle?_ofArrival _, ofArrival_ne_idle _, fun _ => rfl, fun _ => rfl⟩
  · cases h
    exact ⟨rfl, handle?_ofWarnings _ _, ofWarnings_ne_idle _ _, nofun, nofun⟩
  · cases h
    exact ⟨rfl, rfl, nofun, nofun, nofun⟩
  · cases h
    exact ⟨rfl, rfl, nofun, nofun, nofun⟩
  · cases h
    exact ⟨rfl, rfl, nofun, nofun, nofun⟩
  · cases h
    exact ⟨rfl, handle?_ofCount _, ofCount_ne_idle _, nofun, nofun⟩
  · cases h
    exact ⟨rfl, handle?_ofArrival _, ofArrival_ne_idle _, nofun, nofun⟩
  · cases h

theorem ne_idle_of_handle? {h : Handle} (hp : p.handle? = some h) : p ≠ .idle := by
  rintro rfl
  cases hp

end Phase

namespace Stage

variable {d : Dialect} {s t : Stage} {calls : List Call} {call : Call}

/-- What a step of the protocol can be: a call of the open result set, a result set that is given
out, or another call of the statement. -/
theorem next_eq_some (h : s.next d call = some t) :
    (∃ c p handle, call = .ofRows handle.number c ∧ s.phase.handle? = some handle ∧
        s.phase.nextOnRows d c = some p ∧ t = { s with phase := p }) ∨
      (∃ handle, call = .resultSet (.ok (some handle)) ∧ s.phase = .due true ∧
        handle.number = s.given ∧ t = ⟨s.given + 1, .opened handle⟩) ∨
      ∃ p, (∀ n, call.closes n = false) ∧ call.gives = false ∧ s.phase.next call = some p ∧
        t = { s with phase := p } := by
  unfold next at h
  split at h
  · rename_i number c
    split at h
    · rename_i handle hopen
      split at h
      · rename_i hnumber
        obtain ⟨p, hp, rfl⟩ := Option.map_eq_some_iff.mp h
        exact .inl ⟨c, p, handle, by rw [hnumber], hopen, hp, rfl⟩
      · cases h
    · cases h
  · rename_i handle
    split at h
    · rename_i hphase
      split at h
      · rename_i hnumber
        cases h
        exact .inr (.inl ⟨handle, rfl, hphase, hnumber, rfl⟩)
      · cases h
    · cases h
  · rename_i hrows hgives
    obtain ⟨p, hp, rfl⟩ := Option.map_eq_some_iff.mp h
    refine .inr (.inr ⟨p, fun n => ?_, ?_, hp, rfl⟩)
    · cases call with
      | ofRows number c => exact absurd rfl (hrows number c)
      | _ => rfl
    · cases call with
      | resultSet answer =>
          cases answer with
          | error f => rfl
          | ok given =>
              cases given with
              | none => rfl
              | some handle => exact absurd rfl (hgives handle)
      | _ => rfl

/-- A stage accounts for the calls that led to it: each result set that was given out was closed
once unless it is open, and the first call and no other one executed the statement. -/
structure Accounts (s : Stage) (calls : List Call) : Prop where
  given_eq : handlesGiven calls = s.given
  lt_given (h : Handle) (hopen : s.phase.handle? = some h) : h.number < s.given
  closes_eq (n : Nat) : calls.countP (Call.closes n) =
    if n < s.given ∧ s.phase.handle?.map Handle.number ≠ some n then 1 else 0
  nil_iff : calls = [] ↔ s.phase = .idle
  begins_eq : calls = [] ∨ ∃ first rest, calls = first :: rest ∧ first.begins = true ∧
    ∀ c ∈ rest, c.begins = false

theorem accounts_nil : (({} : Stage)).Accounts [] where
  given_eq := rfl
  lt_given := nofun
  closes_eq _ := rfl
  nil_iff := ⟨fun _ => rfl, fun _ => rfl⟩
  begins_eq := .inl rfl

namespace Accounts

/-- A call that does not execute the statement comes after one that does. -/
theorem begins_concat (h : s.Accounts calls) (hcall : call.begins = true ↔ s.phase = .idle) :
    ∃ first rest, calls ++ [call] = first :: rest ∧ first.begins = true ∧
      ∀ c ∈ rest, c.begins = false := by
  rcases h.begins_eq with hnil | ⟨first, rest, hcalls, hfirst, hrest⟩
  · subst hnil
    exact ⟨call, [], rfl, hcall.mpr (h.nil_iff.mp rfl), fun c hc => absurd hc List.not_mem_nil⟩
  · have hphase : s.phase ≠ .idle := by
      intro hidle
      have hnil := h.nil_iff.mpr hidle
      rw [hcalls] at hnil
      cases hnil
    refine ⟨first, rest ++ [call], by rw [hcalls]; rfl, hfirst, ?_⟩
    intro c hc
    rcases List.mem_append.mp hc with hc | hc
    · exact hrest c hc
    · obtain rfl := List.mem_singleton.mp hc
      exact Bool.eq_false_iff.mpr fun hbegins => hphase (hcall.mp hbegins)

theorem onRows (h : s.Accounts calls) {c : RowCall} {p : Phase} {handle : Handle}
    (hopen : s.phase.handle? = some handle) (hp : s.phase.nextOnRows d c = some p) :
    ({ s with phase := p } : Stage).Accounts (calls ++ [.ofRows handle.number c]) := by
  have hbegins : (Call.ofRows handle.number c).begins = true ↔ s.phase = .idle :=
    ⟨nofun, fun hidle => absurd hidle (Phase.ne_idle_of_handle? hopen)⟩
  have hlt := h.lt_given handle hopen
  have hgiven : handlesGiven (calls ++ [.ofRows handle.number c]) = s.given := by
    rw [handlesGiven, List.countP_append]
    exact h.given_eq
  rcases Phase.handle?_nextOnRows hp with ⟨⟨answer, rfl⟩, hclosed, hidle⟩ | ⟨hkeep, hsame⟩
  · refine ⟨hgiven, ?_, fun n => ?_, ?_, .inr (h.begins_concat hbegins)⟩
    · intro x hx
      rw [hclosed] at hx
      cases hx
    · have hcount := h.closes_eq n
      rw [hopen] at hcount
      rw [List.countP_append, hcount, hclosed]
      by_cases hn : handle.number = n
      · subst hn
        simp [Call.closes, hlt]
      · simp [Call.closes, hn]
    · exact ⟨fun hnil => absurd hnil (by simp), fun hp => absurd hp hidle⟩
  · refine ⟨hgiven, ?_, fun n => ?_, ?_, .inr (h.begins_concat hbegins)⟩
    · intro x hx
      rw [hsame] at hx
      exact h.lt_given x hx
    · have hno : Call.closes n (.ofRows handle.number c) = false := by
        cases c with
        | close answer => exact absurd rfl (hkeep answer)
        | _ => rfl
      have hcount := h.closes_eq n
      rw [List.countP_append, hcount, hsame]
      simp [hno]
    · rw [hopen] at hsame
      exact ⟨fun hnil => absurd hnil (by simp),
        fun hp => absurd hp (Phase.ne_idle_of_handle? hsame)⟩

theorem give (h : s.Accounts calls) {handle : Handle} (hphase : s.phase = .due true)
    (hnumber : handle.number = s.given) :
    (⟨s.given + 1, .opened handle⟩ : Stage).Accounts
      (calls ++ [.resultSet (.ok (some handle))]) := by
  have hbegins : (Call.resultSet (.ok (some handle))).begins = true ↔ s.phase = .idle := by
    rw [hphase]
    exact ⟨nofun, nofun⟩
  refine ⟨?_, ?_, fun n => ?_, ?_, .inr (h.begins_concat hbegins)⟩
  · rw [handlesGiven, List.countP_append]
    exact congrArg (· + 1) h.given_eq
  · intro x hx
    obtain rfl := Option.some.inj hx
    show handle.number < s.given + 1
    omega
  · have hcount := h.closes_eq n
    have hno : Call.closes n (.resultSet (.ok (some handle))) = false := rfl
    rw [hphase] at hcount
    rw [List.countP_append, hcount]
    simp only [Phase.handle?, List.countP_cons, List.countP_nil, hno, Option.map_some,
      Option.map_none, hnumber, Option.some.injEq, ne_eq, reduceCtorEq, not_false_eq_true, and_true,
      Bool.false_eq_true, if_false, Nat.add_zero]
    by_cases hn : n < s.given
    · rw [if_pos hn, if_pos ⟨by omega, by omega⟩]
    · rw [if_neg hn, if_neg (by omega)]
  · exact ⟨fun hnil => absurd hnil (by simp), nofun⟩

theorem other (h : s.Accounts calls) {p : Phase} (hcloses : ∀ n, call.closes n = false)
    (hgives : call.gives = false) (hp : s.phase.next call = some p) :
    ({ s with phase := p } : Stage).Accounts (calls ++ [call]) := by
  obtain ⟨hbefore, hafter, hidle, hbegins⟩ := Phase.next_eq_some hp
  refine ⟨?_, ?_, fun n => ?_, ?_, .inr (h.begins_concat hbegins)⟩
  · have hgiven := h.given_eq
    rw [handlesGiven] at hgiven
    rw [handlesGiven, List.countP_append, hgiven, List.countP_cons, hgives]
    rfl
  · intro x hx
    rw [hafter] at hx
    cases hx
  · have hcount := h.closes_eq n
    rw [hbefore] at hcount
    rw [List.countP_append, hcount, hafter]
    simp [hcloses n]
  · exact ⟨fun hnil => absurd hnil (by simp), fun hp => absurd hp hidle⟩

theorem next (h : s.Accounts calls) (hnext : s.next d call = some t) :
    t.Accounts (calls ++ [call]) := by
  rcases Stage.next_eq_some hnext with
    ⟨c, p, handle, rfl, hopen, hp, rfl⟩ | ⟨handle, rfl, hphase, hnumber, rfl⟩ |
      ⟨p, hcloses, hgives, hp, rfl⟩
  · exact h.onRows hopen hp
  · exact h.give hphase hnumber
  · exact h.other hcloses hgives hp

end Accounts

theorem accounts_of_stageOf (h : stageOf d calls = some s) : s.Accounts calls :=
  invariant_of_stageOf accounts_nil (fun _ _ _ _ hs hnext => hs.next hnext) h

end Stage

/-- The calls before it have left the result set of the call open, or no result set where the call
is one of the statement. -/
def Call.Fits (before : List Call) : Call → Prop
  | .ofRows number _ => number < handlesGiven before ∧ before.countP (Call.closes number) = 0
  | _ => ∀ n < handlesGiven before, before.countP (Call.closes n) = 1

theorem Stage.Accounts.fits {d : Dialect} {s t : Stage} {calls : List Call} {call : Call}
    (h : s.Accounts calls) (hnext : s.next d call = some t) : call.Fits calls := by
  have hclosed (hopen : s.phase.handle? = none) (n : Nat) (hn : n < handlesGiven calls) :
      calls.countP (Call.closes n) = 1 := by
    have hcount := h.closes_eq n
    rw [hopen] at hcount
    rw [hcount, if_pos ⟨h.given_eq ▸ hn, nofun⟩]
  rcases Stage.next_eq_some hnext with
    ⟨c, p, handle, rfl, hopen, -, -⟩ | ⟨handle, rfl, hphase, -, -⟩ | ⟨p, hcloses, -, hp, -⟩
  · have hcount := h.closes_eq handle.number
    rw [hopen] at hcount
    refine ⟨h.given_eq ▸ h.lt_given handle hopen, ?_⟩
    rw [hcount, if_neg fun hne => hne.2 rfl]
  · have hopen : s.phase.handle? = none := by rw [hphase]; rfl
    exact hclosed hopen
  · have hopen := (Phase.next_eq_some hp).1
    cases call with
    | ofRows number c =>
        simp only [Stage.next, hopen] at hnext
        cases hnext
    | _ => exact hclosed hopen

/-- Each of the calls that the protocol allows is made in its place. -/
theorem fits_of_stageOf {d : Dialect} {s : Stage} {before after : List Call} {call : Call}
    (h : stageOf d (before ++ call :: after) = some s) : call.Fits before := by
  unfold stageOf at h
  rw [List.foldlM_append] at h
  obtain ⟨t, ht, hrest⟩ := Option.bind_eq_some_iff.mp h
  rw [List.foldlM_cons] at hrest
  obtain ⟨u, hu, -⟩ := Option.bind_eq_some_iff.mp hrest
  exact (Stage.accounts_of_stageOf ht).fits hu

end StatementWalk
