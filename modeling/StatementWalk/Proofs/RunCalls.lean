import StatementWalk.Proofs.EngineCalls

/-!
# The calls of a run

Which calls a run makes of its engine, layer by layer: a connection is held until it is released, a
cursor is used until it is closed, and the work is settled in between. From the layers follows how
often each call is made, in which order, and how the faults of the calls decide the result.
-/

namespace StatementWalk

namespace EngineCall

def connects : EngineCall → Bool
  | .connect _ => true
  | _ => false

def connected : EngineCall → Bool
  | .connect (.ok _) => true
  | _ => false

def releases : EngineCall → Bool
  | .release _ => true
  | _ => false

def commits : EngineCall → Bool
  | .commit _ => true
  | _ => false

def opens (number : Nat) : EngineCall → Bool
  | .openCursor (.ok n) => n == number
  | _ => false

def closes (number : Nat) : EngineCall → Bool
  | .onCursor n call => n == number && call.closes
  | _ => false

/-- The fault of a call that failed. What becomes of the calls of a cursor is the walk's affair. -/
def fault? : EngineCall → Option Fault
  | .create _ _ (.error f) => some f
  | .connect (.error f) => some f
  | .run _ (.error f) => some f
  | .openCursor (.error f) => some f
  | .commit (.error f) => some f
  | .release (.error f) => some f
  | .dispose (.error f) => some f
  | _ => none

end EngineCall

/-- The calls up to the answer to the request for a cursor. -/
inductive Enters : List EngineCall → Except Fault Nat → Prop where
  | limited (text : String) (f : Fault) : Enters [.run text (.error f)] (.error f)
  | answered (limits : List String) (answer : Except Fault Nat) :
      Enters (limits.map (.run · (.ok ())) ++ [.openCursor answer]) answer

/-- The calls of a cursor, the last of which closes it. -/
inductive Uses (number : Nat) : List EngineCall → Prop where
  | closed {asked : List CursorCall} (hasked : ∀ call ∈ asked, call.closes = false)
      (answer : Except Fault Unit) :
      Uses number (asked.map (.onCursor number) ++ [.onCursor number (.close answer)])

/-- What becomes of the work of a walk. -/
inductive Settles (autocommit : Bool) :
    Except Fault WalkResult → List EngineCall → Except Fault WalkResult → Prop where
  | failed (f : Fault) : Settles autocommit (.error f) [] (.error f)
  | kept (hauto : autocommit = true) (result : WalkResult) :
      Settles autocommit (.ok result) [] (.ok result)
  | committed (hauto : autocommit = false) (result : WalkResult) (answer : Except Fault Unit) :
      Settles autocommit (.ok result) [.commit answer] (answer.map fun _ => result)

/-- The calls while a connection is held, by the end of the walk if there was one. -/
inductive Holds (autocommit : Bool) :
    Option (Except Fault WalkResult) → List EngineCall → Except Fault WalkResult → Prop where
  | idle {calls : List EngineCall} {f : Fault} (henters : Enters calls (.error f)) :
      Holds autocommit none calls (.error f)
  | walked {entry use work : List EngineCall} {number : Nat}
      {walked result : Except Fault WalkResult}
      (henters : Enters entry (.ok number)) (huses : Uses number use)
      (hsettles : Settles autocommit walked work result) :
      Holds autocommit (some walked) (entry ++ use ++ work) result

def framed (calls : List EngineCall) (answer : Except Fault Unit) : List EngineCall :=
  .connect (.ok ()) :: calls ++ [.release answer]

/-- The calls of a run, by the end of its walk if there was one. A failed release hides that. -/
inductive Serves (autocommit : Bool) :
    Option (Except Fault WalkResult) → List EngineCall → Except Fault WalkResult → Prop where
  | unconnected (f : Fault) : Serves autocommit none [.connect (.error f)] (.error f)
  | released {walked? : Option (Except Fault WalkResult)} {calls : List EngineCall}
      {result : Except Fault WalkResult} (h : Holds autocommit walked? calls result)
      (answer : Except Fault Unit) :
      Serves autocommit walked? (framed calls answer) (answer.bind fun _ => result)

/-- A way of counting that overlooks limits of time, refused cursors, and what is asked of a cursor
before it is closed. -/
structure Overlooks (p : EngineCall → Bool) : Prop where
  run (text : String) (answer : Except Fault Unit) : p (.run text answer) = false
  refused (f : Fault) : p (.openCursor (.error f)) = false
  asked (number : Nat) {call : CursorCall} (h : call.closes = false) :
    p (.onCursor number call) = false

theorem overlooks_connects : Overlooks EngineCall.connects :=
  ⟨fun _ _ => rfl, fun _ => rfl, fun _ _ _ => rfl⟩

theorem overlooks_connected : Overlooks EngineCall.connected :=
  ⟨fun _ _ => rfl, fun _ => rfl, fun _ _ _ => rfl⟩

theorem overlooks_releases : Overlooks EngineCall.releases :=
  ⟨fun _ _ => rfl, fun _ => rfl, fun _ _ _ => rfl⟩

theorem overlooks_commits : Overlooks EngineCall.commits :=
  ⟨fun _ _ => rfl, fun _ => rfl, fun _ _ _ => rfl⟩

theorem overlooks_opens (n : Nat) : Overlooks (EngineCall.opens n) :=
  ⟨fun _ _ => rfl, fun _ => rfl, fun _ _ _ => rfl⟩

theorem overlooks_closes (n : Nat) : Overlooks (EngineCall.closes n) :=
  ⟨fun _ _ => rfl, fun _ => rfl, fun number call h => by rw [EngineCall.closes, h, Bool.and_false]⟩

/-- The calls are counted as a shorter list is. -/
def CountsAs (calls notable : List EngineCall) : Prop :=
  ∀ p, Overlooks p → calls.countP p = notable.countP p

theorem CountsAs.append {calls notable more others : List EngineCall} (h : CountsAs calls notable)
    (h' : CountsAs more others) : CountsAs (calls ++ more) (notable ++ others) := by
  intro p hp
  rw [List.countP_append, List.countP_append, h p hp, h' p hp]

theorem CountsAs.forall_eq_false {calls notable : List EngineCall} (h : CountsAs calls notable)
    {p : EngineCall → Bool} (hp : Overlooks p) (hnone : notable.countP p = 0) :
    ∀ call ∈ calls, p call = false := by
  intro call hcall
  rw [← h p hp] at hnone
  exact eq_false_of_ne_true (List.countP_eq_zero.mp hnone call hcall)

section Laws

variable {autocommit : Bool} {number : Nat} {answer : Except Fault Nat}
  {walked? : Option (Except Fault WalkResult)} {walked result : Except Fault WalkResult}
  {calls : List EngineCall}

theorem Enters.countsAs (h : Enters calls answer) : CountsAs calls [.openCursor answer] := by
  intro p hp
  cases h with
  | limited text f => rw [List.countP_singleton, List.countP_singleton, hp.run, hp.refused]
  | answered limits answer =>
      have hlimits : (limits.map (EngineCall.run · (.ok ()))).countP p = 0 := by
        rw [List.countP_eq_zero, List.forall_mem_map]
        exact fun text _ => by rw [hp.run]; exact Bool.false_ne_true
      rw [List.countP_append, hlimits, Nat.zero_add]

theorem Uses.countsAs (h : Uses number calls) :
    ∃ answer, CountsAs calls [.onCursor number (.close answer)] := by
  obtain @⟨asked, hasked, answer⟩ := h
  refine ⟨answer, fun p hp => ?_⟩
  have hnone : (asked.map (EngineCall.onCursor number)).countP p = 0 := by
    rw [List.countP_eq_zero, List.forall_mem_map]
    exact fun call hcall => by rw [hp.asked number (hasked call hcall)]; exact Bool.false_ne_true
  rw [List.countP_append, hnone, Nat.zero_add]

/-- While a connection is held a cursor is opened and closed, and then its work is settled. -/
theorem Holds.countsAs (h : Holds autocommit walked? calls result) :
    (walked? = none ∧ CountsAs calls []) ∨
      ∃ number answer work walked, walked? = some walked ∧ Settles autocommit walked work result ∧
        CountsAs calls (.openCursor (.ok number) :: .onCursor number (.close answer) :: work) := by
  cases h with
  | idle henters =>
      refine .inl ⟨rfl, fun p hp => ?_⟩
      rw [henters.countsAs p hp, List.countP_singleton, hp.refused]
      rfl
  | walked henters huses hsettles =>
      obtain ⟨answer, huses⟩ := huses.countsAs
      exact .inr ⟨_, answer, _, _, rfl, hsettles,
        (henters.countsAs.append huses).append fun _ _ => rfl⟩

/-- What counts no cursors and no commits counts nothing while a connection is held. -/
theorem Holds.countP_eq_zero (h : Holds autocommit walked? calls result) {p : EngineCall → Bool}
    (hp : Overlooks p) (hopened : ∀ n, p (.openCursor (.ok n)) = false)
    (hclosed : ∀ n a, p (.onCursor n (.close a)) = false) (hcommit : ∀ a, p (.commit a) = false) :
    calls.countP p = 0 := by
  rcases h.countsAs with ⟨-, hcounts⟩ | ⟨number, answer, work, _, -, hsettles, hcounts⟩
  · exact hcounts p hp
  · have hwork : work.countP p = 0 := by
      cases hsettles with
      | committed hauto result answer => rw [List.countP_singleton, hcommit]; rfl
      | _ => rfl
    simp [hcounts p hp, hopened, hclosed, hwork]

theorem Holds.countP_commits (h : Holds autocommit walked? calls result) :
    calls.countP EngineCall.commits = (!autocommit && walked?.any Except.isOk).toNat := by
  rcases h.countsAs with ⟨rfl, hcounts⟩ | ⟨_, _, _, _, rfl, hsettles, hcounts⟩
  · rw [hcounts _ overlooks_commits, Option.any_none, Bool.and_false]
    rfl
  · rw [hcounts _ overlooks_commits]
    cases hsettles with
    | failed f =>
        rw [Option.any_some]
        show 0 = (!autocommit && false).toNat
        rw [Bool.and_false]
        rfl
    | kept hauto result => rw [hauto]; rfl
    | committed hauto result answer => rw [hauto]; rfl

theorem Holds.countP_opens_le (h : Holds autocommit walked? calls result) (n : Nat) :
    calls.countP (EngineCall.opens n) ≤ 1 := by
  rcases h.countsAs with ⟨-, hcounts⟩ | ⟨number, answer, work, _, -, hsettles, hcounts⟩
  · rw [hcounts _ (overlooks_opens n)]
    exact Nat.zero_le 1
  · have hwork : work.countP (EngineCall.opens n) = 0 := by
      cases hsettles <;> rfl
    have hclose : EngineCall.opens n (.onCursor number (.close answer)) = false := rfl
    rw [hcounts _ (overlooks_opens n), List.countP_cons,
      List.countP_cons_of_neg (by rw [hclose]; decide), hwork]
    split
    · exact Nat.le_refl 1
    · exact Nat.zero_le 1

/-- A cursor that was given out is closed. -/
theorem Holds.countP_closes (h : Holds autocommit walked? calls result) (n : Nat) :
    calls.countP (EngineCall.closes n) = calls.countP (EngineCall.opens n) := by
  rcases h.countsAs with ⟨-, hcounts⟩ | ⟨number, answer, work, _, -, hsettles, hcounts⟩
  · rw [hcounts _ (overlooks_closes n), hcounts _ (overlooks_opens n)]
    rfl
  · have hwork : work.countP (EngineCall.closes n) = work.countP (EngineCall.opens n) := by
      cases hsettles <;> rfl
    rw [hcounts _ (overlooks_closes n), hcounts _ (overlooks_opens n)]
    simp [List.countP_cons, EngineCall.closes, EngineCall.opens, CursorCall.closes, hwork]

/-- Nothing is called after a commit while the connection is held. -/
theorem Holds.commits_last (h : Holds autocommit walked? calls result) :
    calls.Pairwise fun call _ => call.commits = false := by
  cases h with
  | idle henters =>
      have hcount := henters.countsAs.forall_eq_false overlooks_commits rfl
      exact List.pairwise_of_forall_mem_list fun call hcall _ _ => hcount call hcall
  | walked henters huses hsettles =>
      obtain ⟨answer, huses⟩ := huses.countsAs
      have hcount := (henters.countsAs.append huses).forall_eq_false overlooks_commits rfl
      refine List.pairwise_append.mpr ⟨?_, ?_, fun call hcall _ _ => hcount call hcall⟩
      · exact List.pairwise_of_forall_mem_list fun call hcall _ _ => hcount call hcall
      · cases hsettles with
        | committed hauto result answer => exact List.pairwise_singleton ..
        | _ => exact .nil

theorem Enters.faults_eq (h : Enters calls answer) :
    calls.filterMap EngineCall.fault? =
      [EngineCall.openCursor answer].filterMap EngineCall.fault? := by
  cases h with
  | limited text f => rfl
  | answered limits answer =>
      have hlimits : (limits.map (EngineCall.run · (.ok ()))).filterMap EngineCall.fault? = [] := by
        rw [List.filterMap_eq_nil_iff, List.forall_mem_map]
        exact fun _ _ => rfl
      rw [List.filterMap_append, hlimits, List.nil_append]

theorem Uses.faults_eq (h : Uses number calls) : calls.filterMap EngineCall.fault? = [] := by
  obtain @⟨asked, -, answer⟩ := h
  have hnone : (asked.map (EngineCall.onCursor number)).filterMap EngineCall.fault? = [] := by
    rw [List.filterMap_eq_nil_iff, List.forall_mem_map]
    exact fun _ _ => rfl
  rw [List.filterMap_append, hnone]
  rfl

/-- The last fault is how it ends, and without one it ends as the walk does. -/
theorem Holds.ends (h : Holds autocommit walked? calls result) :
    ((calls.filterMap EngineCall.fault?).getLast?.map Except.error).or walked? = some result := by
  cases h with
  | idle henters =>
      rw [henters.faults_eq]
      rfl
  | walked henters huses hsettles =>
      rw [List.filterMap_append, List.filterMap_append, henters.faults_eq, huses.faults_eq]
      cases hsettles with
      | failed f => rfl
      | kept hauto result => rfl
      | committed hauto result answer => cases answer <;> rfl

theorem Settles.eq_ok_iff (h : Settles autocommit walked calls result) (r : WalkResult) :
    result = .ok r ↔ walked = .ok r ∧ ∀ answer, .commit answer ∈ calls → answer = .ok () := by
  cases h with
  | failed f => exact ⟨nofun, fun h => nomatch h.1⟩
  | kept hauto result => simp
  | committed hauto result answer => cases answer <;> simp [Except.map]

/-- While the connection is held only a commit can take the walk's result away. -/
theorem Holds.eq_ok_iff (h : Holds autocommit walked? calls result) (r : WalkResult) :
    result = .ok r ↔
      walked? = some (.ok r) ∧ ∀ answer, .commit answer ∈ calls → answer = .ok () := by
  cases h with
  | idle henters => exact ⟨nofun, fun h => nomatch h.1⟩
  | @walked entry use work _ _ _ henters huses hsettles =>
      obtain ⟨answer, huses⟩ := huses.countsAs
      have hbefore := (henters.countsAs.append huses).forall_eq_false overlooks_commits rfl
      have hmem (answer : Except Fault Unit) :
          .commit answer ∈ entry ++ use ++ work ↔ .commit answer ∈ work :=
        ⟨fun h => (List.mem_append.mp h).resolve_left fun h => Bool.noConfusion (hbefore _ h),
          List.mem_append_right _⟩
      simp only [hmem, Option.some.injEq]
      exact hsettles.eq_ok_iff r

end Laws

/-- What a run does with what it takes, by the end of its walk if there was one. -/
structure Settled (autocommit : Bool) (walked? : Option (Except Fault WalkResult))
    (calls : List EngineCall) (result : Except Fault WalkResult) : Prop where
  /-- A connection is asked for once. -/
  connects : calls.countP EngineCall.connects = 1
  /-- It is released once if there was one. -/
  released : calls.countP EngineCall.releases = calls.countP EngineCall.connected
  /-- One cursor is given out at most. -/
  opens (number : Nat) : calls.countP (EngineCall.opens number) ≤ 1
  /-- It is closed as often as it was given out. -/
  closed (number : Nat) : calls.countP (EngineCall.closes number) =
    calls.countP (EngineCall.opens number)
  /-- The work is committed once if the walk ended well and the engine does not commit by itself. -/
  committed : calls.countP EngineCall.commits = (!autocommit && walked?.any Except.isOk).toNat
  /-- Only the release comes after a commit, and nothing after the release. -/
  order : calls.Pairwise fun call next =>
    call.releases = false ∧ (call.commits = true → next.releases = true)
  /-- The last fault is the result, and without one the walk's end is. -/
  ends : ((calls.filterMap EngineCall.fault?).getLast?.map Except.error).or walked? = some result
  /-- The walk's result is given back exactly when the walk ended well, the commit, if there was
  one, succeeded, and so did the release. -/
  returns (r : WalkResult) :
    result = .ok r ↔ walked? = some (.ok r) ∧ (∀ answer, .commit answer ∈ calls → answer = .ok ()) ∧
      ∀ answer, .release answer ∈ calls → answer = .ok ()

variable {autocommit : Bool} {walked? : Option (Except Fault WalkResult)}
  {result : Except Fault WalkResult} {calls : List EngineCall}

theorem countP_framed (p : EngineCall → Bool) (calls : List EngineCall)
    (answer : Except Fault Unit) :
    (framed calls answer).countP p =
      [EngineCall.connect (.ok ())].countP p + calls.countP p +
        [EngineCall.release answer].countP p := by
  rw [framed, List.countP_append, ← List.singleton_append, List.countP_append]

theorem Holds.forall_releases_eq_false (h : Holds autocommit walked? calls result) :
    ∀ call ∈ calls, call.releases = false := by
  have hcount := h.countP_eq_zero overlooks_releases (fun _ => rfl) (fun _ _ => rfl) fun _ => rfl
  exact fun call hcall => eq_false_of_ne_true (List.countP_eq_zero.mp hcount call hcall)

theorem Holds.order_framed (h : Holds autocommit walked? calls result)
    (answer : Except Fault Unit) :
    (framed calls answer).Pairwise fun call next =>
      call.releases = false ∧ (call.commits = true → next.releases = true) := by
  have hheld := h.forall_releases_eq_false
  refine List.pairwise_append.mpr ⟨List.pairwise_cons.mpr ⟨fun _ _ => ⟨rfl, nofun⟩, ?_⟩,
    List.pairwise_singleton .., fun call hcall next hnext => ?_⟩
  · refine h.commits_last.imp_of_mem fun hcall _ hcommits => ⟨hheld _ hcall, fun h => ?_⟩
    rw [hcommits] at h
    cases h
  · rw [List.mem_singleton.mp hnext]
    rcases List.mem_cons.mp hcall with rfl | hcall
    · exact ⟨rfl, fun _ => rfl⟩
    · exact ⟨hheld call hcall, fun _ => rfl⟩

theorem Holds.ends_framed (h : Holds autocommit walked? calls result) (answer : Except Fault Unit) :
    (((framed calls answer).filterMap EngineCall.fault?).getLast?.map Except.error).or walked? =
      some (answer.bind fun _ => result) := by
  rw [framed, List.filterMap_append, List.filterMap_cons_none rfl]
  cases answer with
  | ok _ =>
      rw [show [EngineCall.release (.ok ())].filterMap EngineCall.fault? = [] from rfl,
        List.append_nil]
      exact h.ends
  | error f =>
      rw [show [EngineCall.release (.error f)].filterMap EngineCall.fault? = [f] from rfl,
        List.getLast?_concat]
      rfl

theorem Serves.eq_ok_iff (h : Serves autocommit walked? calls result) (r : WalkResult) :
    result = .ok r ↔ walked? = some (.ok r) ∧ (∀ answer, .commit answer ∈ calls → answer = .ok ()) ∧
      ∀ answer, .release answer ∈ calls → answer = .ok () := by
  cases h with
  | unconnected f => exact ⟨nofun, fun h => nomatch h.1⟩
  | @released _ calls result h answer =>
      have hcommit (a : Except Fault Unit) :
          .commit a ∈ framed calls answer ↔ .commit a ∈ calls := by
        simp [framed]
      have hrelease (a : Except Fault Unit) : .release a ∈ framed calls answer ↔ a = answer := by
        have hheld : EngineCall.release a ∉ calls := fun h' =>
          nomatch h.forall_releases_eq_false _ h'
        simp [framed, hheld]
      simp only [hcommit, hrelease, forall_eq, ← and_assoc, ← h.eq_ok_iff r]
      cases answer <;> simp [Except.bind]

theorem Serves.settled (h : Serves autocommit walked? calls result) :
    Settled autocommit walked? calls result := by
  have hreturns := h.eq_ok_iff
  cases h with
  | unconnected f =>
      refine ⟨rfl, rfl, fun _ => Nat.zero_le 1, fun _ => rfl, ?_, List.pairwise_singleton .., rfl,
        hreturns⟩
      rw [Option.any_none, Bool.and_false]
      rfl
  | @released _ calls result h answer =>
      have hnone {p : EngineCall → Bool} := h.countP_eq_zero (p := p)
      refine ⟨?_, ?_, fun number => ?_, fun number => ?_, ?_, h.order_framed answer,
        h.ends_framed answer, hreturns⟩
      · rw [countP_framed, hnone overlooks_connects (fun _ => rfl) (fun _ _ => rfl) fun _ => rfl]
        rfl
      · rw [countP_framed, countP_framed,
          hnone overlooks_releases (fun _ => rfl) (fun _ _ => rfl) fun _ => rfl,
          hnone overlooks_connected (fun _ => rfl) (fun _ _ => rfl) fun _ => rfl]
        rfl
      · rw [countP_framed]
        show 0 + calls.countP (EngineCall.opens number) ≤ 1
        rw [Nat.zero_add]
        exact h.countP_opens_le number
      · rw [countP_framed, countP_framed, h.countP_closes]
        rfl
      · rw [countP_framed, h.countP_commits]
        exact Nat.zero_add _

end StatementWalk
