import StatementWalk.Proofs.ConnectionRun
import StatementWalk.Script.Engine

/-!
# The engines of a connection

A connection creates engines and disposes of them, and either may fail. Over any calls at most one
of its engines runs at a time, and it is the one that the connection refers to: a reference is taken
up only after an engine was created, and given up only after it was disposed of. No other call
creates an engine or disposes of one, and without an engine there is no connection to be had.
-/

namespace StatementWalk

variable {ε σ α β ν : Type}

/-- However the action ends, the view of the state is the same after it. -/
def Keeps (view : σ → ν) (x : Action σ α) : Prop := ∀ s, view (x.run s).2 = view s

namespace Keeps

variable {view : σ → ν} {x : Action σ α}

theorem of_run (hx : Keeps view x) {r : Except Fault α} {s t : σ} (h : x.run s = (r, t)) :
    view t = view s := by
  have hs := hx s
  rwa [h] at hs

theorem pure (a : α) : Keeps view (Pure.pure a : Action σ α) := fun _ => rfl

theorem fail (f : Fault) : Keeps view (Action.fail f : Action σ α) := fun _ => rfl

theorem bind {g : α → Action σ β} (hx : Keeps view x) (hg : ∀ a, Keeps view (g a)) :
    Keeps view (x >>= g) := by
  intro s
  obtain ⟨r, t, hrun⟩ : ∃ r t, x.run s = (r, t) := ⟨_, _, rfl⟩
  cases r with
  | error f => rw [Action.run_bind_error hrun, hx.of_run hrun]
  | ok a => rw [Action.run_bind_ok hrun, hg a t, hx.of_run hrun]

theorem state {g : σ → Action σ α} (hg : ∀ s, Keeps view (g s)) :
    Keeps view (Action.state >>= g) := bind (fun _ => rfl) hg

theorem thenAlways {cleanup : Action σ Unit} (hx : Keeps view x) (hcleanup : Keeps view cleanup) :
    Keeps view (x.thenAlways cleanup) := by
  intro s
  obtain ⟨r, t, hrun⟩ : ∃ r t, x.run s = (r, t) := ⟨_, _, rfl⟩
  obtain ⟨q, u, hclean⟩ : ∃ q u, cleanup.run t = (q, u) := ⟨_, _, rfl⟩
  rw [run_thenAlways_eq hrun hclean, hcleanup.of_run hclean, hx.of_run hrun]

end Keeps

/-- Every fault of the action has the property. -/
def Faults (p : Fault → Prop) (x : Action σ α) : Prop := ∀ s f, (x.run s).1 = .error f → p f

namespace Faults

variable {p : Fault → Prop} {x : Action σ α}

theorem of_run (hx : Faults p x) {f : Fault} {s t : σ} (h : x.run s = (.error f, t)) : p f :=
  hx s f (by rw [h])

theorem pure (a : α) : Faults p (Pure.pure a : Action σ α) := fun _ _ h => nomatch h

theorem bind {g : α → Action σ β} (hx : Faults p x) (hg : ∀ a, Faults p (g a)) :
    Faults p (x >>= g) := by
  intro s f hf
  obtain ⟨r, t, hrun⟩ : ∃ r t, x.run s = (r, t) := ⟨_, _, rfl⟩
  cases r with
  | error e =>
      rw [Action.run_bind_error hrun] at hf
      obtain rfl : e = f := Except.error.inj hf
      exact hx.of_run hrun
  | ok a =>
      rw [Action.run_bind_ok hrun] at hf
      exact hg a t f hf

theorem thenAlways {cleanup : Action σ Unit} (hx : Faults p x) (hcleanup : Faults p cleanup) :
    Faults p (x.thenAlways cleanup) := by
  intro s f hf
  obtain ⟨r, t, hrun⟩ : ∃ r t, x.run s = (r, t) := ⟨_, _, rfl⟩
  obtain ⟨q, u, hclean⟩ : ∃ q u, cleanup.run t = (q, u) := ⟨_, _, rfl⟩
  rw [run_thenAlways_eq hrun hclean] at hf
  cases q with
  | error e =>
      obtain rfl : e = f := Except.error.inj hf
      exact hcleanup.of_run hclean
  | ok _ =>
      obtain rfl : r = .error f := hf
      exact hx.of_run hrun

theorem quietlyClosing {c : Closable σ} {x : Action (World σ) α} (hx : Faults p x) :
    Faults p (quietlyClosing (some c) x) := by
  intro w f hf
  obtain ⟨r, v, hrun⟩ : ∃ r v, x.run w = (r, v) := ⟨_, _, rfl⟩
  obtain ⟨j, hclosing⟩ := run_quietlyClosing (c := c) hrun
  rw [hclosing] at hf
  obtain rfl : r = .error f := hf
  exact hx.of_run hrun

end Faults

inductive Engine.Raises (e : Engine ε) (f : Fault) : Prop where
  | connect (s : ε) (h : (e.connect.run s).1 = .error f)
  | run (text : String) (s : ε) (h : ((e.run text).run s).1 = .error f)
  | openCursor (s : ε) (h : (e.openCursor.run s).1 = .error f)
  | commit (s : ε) (h : (e.commit.run s).1 = .error f)
  | release (s : ε) (h : (e.release.run s).1 = .error f)

namespace EngineCall

def turns : EngineCall → Bool
  | .create .. | .dispose _ => true
  | _ => false

end EngineCall

/-- The number of engines that were created, and those of them that run. An engine is numbered by
how many were created before it. -/
structure Fleet where
  created : Nat := 0
  running : List Nat := []

namespace Fleet

/-- What is disposed of is the engine that was created last. -/
def next (f : Fleet) : EngineCall → Fleet
  | .create _ _ (.ok _) => ⟨f.created + 1, f.created :: f.running⟩
  | .dispose (.ok _) => { f with running := f.running.erase (f.created - 1) }
  | _ => f

def ofCalls (calls : List EngineCall) : Fleet := calls.foldl next {}

theorem ofCalls_concat (calls : List EngineCall) (call : EngineCall) :
    ofCalls (calls ++ [call]) = (ofCalls calls).next call := by
  rw [ofCalls, List.foldl_append]
  rfl

theorem next_of_not_turns (f : Fleet) {call : EngineCall} (h : call.turns = false) :
    f.next call = f := by
  cases call with
  | create url settings answer => cases h
  | dispose answer => cases h
  | _ => rfl

/-- Only the calls that create an engine or dispose of one matter. -/
theorem ofCalls_filter (calls : List EngineCall) :
    ofCalls (calls.filter EngineCall.turns) = ofCalls calls := by
  unfold ofCalls
  generalize ({} : Fleet) = f
  induction calls generalizing f with
  | nil => rfl
  | cons call rest ih =>
      cases hturns : call.turns with
      | true => rw [List.filter_cons_of_pos hturns, List.foldl_cons, List.foldl_cons, ih]
      | false =>
          rw [List.filter_cons_of_neg (by simp [hturns]), List.foldl_cons,
            next_of_not_turns f hturns, ih]

end Fleet

def Recorded.turns (s : Recorded ε EngineCall) : List EngineCall := s.calls.filter EngineCall.turns

theorem keeps_recording {call : Except Fault α → EngineCall} (h : ∀ r, (call r).turns = false)
    (x : Action ε α) : Keeps Recorded.turns (recording call x) := by
  intro s
  rw [run_recording]
  show (s.calls ++ [call (x.run s.driver).1]).filter EngineCall.turns = _
  rw [List.filter_append, List.filter_cons_of_neg (by simp [h]), List.filter_nil, List.append_nil]
  rfl

/-- A connection with the record of what was asked of its engine. -/
abbrev Attended (ε : Type) : Type := World (Hosted (Recorded ε EngineCall))

namespace Attended

def made (w : Attended ε) : List EngineCall := w.driver.engine.calls

/-- What was created and disposed of, and whether the connection refers to an engine. -/
def engines (w : Attended ε) : List EngineCall × Bool := (w.driver.engine.turns, w.driver.live)

/-- At no time did two engines run, and the one that runs now is the one that the connection refers
to: the last one that was created. -/
structure Accounted (w : Attended ε) : Prop where
  at_most_one (earlier : List EngineCall) (h : earlier <+: w.made) :
    (Fleet.ofCalls earlier).running.length ≤ 1
  referred : if w.driver.live then ∃ n, Fleet.ofCalls w.made = ⟨n + 1, [n]⟩
    else (Fleet.ofCalls w.made).running = []

variable {w v : Attended ε}

theorem Accounted.of_engines_eq (hw : w.Accounted) (h : v.engines = w.engines) : v.Accounted := by
  obtain ⟨hturns, hlive⟩ := Prod.mk.inj h
  have hofCalls : Fleet.ofCalls v.made = Fleet.ofCalls w.made := by
    rw [← Fleet.ofCalls_filter v.made, ← Fleet.ofCalls_filter w.made]
    exact congrArg Fleet.ofCalls hturns
  refine ⟨fun earlier hearlier => ?_, ?_⟩
  · -- The calls that matter are an earlier part of those of the other record as well.
    have hfilter : earlier.filter EngineCall.turns <+: w.driver.engine.turns := by
      rw [← hturns]
      exact hearlier.filter EngineCall.turns
    obtain ⟨part, hpart, heq⟩ := List.prefix_filter_iff.mp hfilter
    rw [← Fleet.ofCalls_filter earlier, heq, Fleet.ofCalls_filter]
    exact hw.at_most_one part hpart
  · rw [hlive, hofCalls]
    exact hw.referred

theorem Accounted.concat (hw : w.Accounted) {call : EngineCall} (hmade : v.made = w.made ++ [call])
    (hreferred : if v.driver.live then ∃ n, (Fleet.ofCalls w.made).next call = ⟨n + 1, [n]⟩
      else ((Fleet.ofCalls w.made).next call).running = []) : v.Accounted := by
  have hnow : Fleet.ofCalls v.made = (Fleet.ofCalls w.made).next call := by
    rw [hmade, Fleet.ofCalls_concat]
  rw [← hnow] at hreferred
  refine ⟨fun earlier hearlier => ?_, hreferred⟩
  rw [hmade, List.prefix_concat_iff, ← hmade] at hearlier
  rcases hearlier with rfl | hearlier
  · split at hreferred
    · obtain ⟨n, hn⟩ := hreferred
      rw [hn]
      exact Nat.le_refl 1
    · rw [hreferred]
      exact Nat.zero_le 1
  · exact hw.at_most_one earlier hearlier

theorem Accounted.created (hw : w.Accounted) (hidle : w.driver.live = false) {url : String}
    {settings : EngineSettings} {answer : Except Fault Unit}
    (hmade : v.made = w.made ++ [.create url settings answer])
    (hlive : v.driver.live = answer.isOk) :
    v.Accounted := by
  have hnone := hw.referred
  rw [hidle] at hnone
  refine hw.concat hmade ?_
  rw [hlive]
  cases answer with
  | error f => exact hnone
  | ok _ =>
      refine ⟨(Fleet.ofCalls w.made).created, ?_⟩
      show (⟨_, _ :: (Fleet.ofCalls w.made).running⟩ : Fleet) = _
      rw [hnone]

theorem Accounted.disposed (hw : w.Accounted) (hrunning : w.driver.live = true)
    {answer : Except Fault Unit} (hmade : v.made = w.made ++ [.dispose answer])
    (hlive : v.driver.live = !answer.isOk) : v.Accounted := by
  have hone := hw.referred
  rw [hrunning] at hone
  obtain ⟨n, hn⟩ := hone
  refine hw.concat hmade ?_
  rw [hlive, hn]
  cases answer with
  | error f => exact ⟨n, rfl⟩
  | ok _ => exact List.erase_cons_head ..

end Attended

open Attended (engines)

namespace Session

def turns (w : World (Session (Recorded ε EngineCall))) : List EngineCall := w.driver.cursor.turns

theorem keeps_walk (c : Cursor ε) (number : Nat) (b : Backend) (own : Option Prepared) (d : Dialect)
    (sink : Sink) (sql : Option String) :
    Keeps turns (walk d sink (statement b (c.recorded (.onCursor number)) own) sql) := by
  rintro ⟨s, j⟩
  obtain ⟨r, t, _, k, hrecorded, -, hend⟩ :=
    (matches_statement_self (c.matches_asked (.onCursor number) s.cursor.calls) b own).run_walk d
      sink sql (⟨.refl _ s.cursor, rfl⟩ : Unstarted _ Eq s { s with cursor := s.cursor.driver }) j
  obtain ⟨-, asked, hcalls, -⟩ := hend.cursor
  rw [hrecorded]
  show t.cursor.calls.filter EngineCall.turns = _
  have hnone : (asked.map (EngineCall.onCursor number)).filter EngineCall.turns = [] := by
    rw [List.filter_eq_nil_iff, List.forall_mem_map]
    exact fun _ _ => Bool.false_ne_true
  rw [hcalls, List.filter_append, hnone, List.append_nil]
  rfl

theorem keeps_quietlyClosing (c : Cursor ε) (number : Nat) (b : Backend) (own : Option Prepared)
    {x : Action (World (Session (Recorded ε EngineCall))) α}
    (hx : Keeps turns x) :
    Keeps turns (quietlyClosing (some (statement b (c.recorded (.onCursor number)) own).closable)
      x) := by
  intro w
  obtain ⟨r, v, hrun⟩ : ∃ r v, x.run w = (r, v) := ⟨_, _, rfl⟩
  obtain ⟨j, hclosing⟩ := run_quietlyClosing
    (c := (statement b (c.recorded (.onCursor number)) own).closable) hrun
  rw [hclosing]
  exact (keeps_recording (fun _ => rfl) c.close v.driver.cursor).trans (hx.of_run hrun)

end Session

namespace Connection

theorem keeps_onEngine {x : Action (Recorded ε EngineCall) α} (hx : Keeps Recorded.turns x) :
    Keeps engines (onEngine x) := fun w => Prod.ext (hx w.driver.engine) rfl

theorem keeps_inSession {x : Action (World (Session (Recorded ε EngineCall))) α}
    (hx : Keeps Session.turns x) : Keeps engines (inSession x) :=
  fun w => Prod.ext (hx ⟨.fresh w.driver.engine, w.journal⟩) rfl

variable (c : Connection) (e : Engine ε)

theorem keeps_withConnection {x : Action (Attended ε) α} (hx : Keeps engines x) :
    Keeps engines (c.withConnection e.recorded x) := by
  refine .state fun w => ?_
  split
  · refine (keeps_onEngine (keeps_recording (fun _ => rfl) _)).bind fun _ =>
      .thenAlways ?_ (keeps_onEngine (keeps_recording (fun _ => rfl) _))
    cases timeoutText? c.config with
    | none => exact (Keeps.pure ()).bind fun _ => hx
    | some text => exact (keeps_onEngine (keeps_recording (fun _ => rfl) _)).bind fun _ => hx
  · exact .fail notInitialized

theorem keeps_withStatement (own : Option Session.Prepared)
    {body : Statement (Session (Recorded ε EngineCall)) →
      Action (World (Session (Recorded ε EngineCall))) α}
    (hbody : ∀ number, Keeps Session.turns
      (body (Session.statement c.backend (e.recorded.cursor number) own))) :
    Keeps engines (c.withStatement e.recorded own body) := by
  refine c.keeps_withConnection e ?_
  refine (keeps_onEngine (keeps_recording (fun _ => rfl) _)).bind fun number => ?_
  refine (keeps_inSession (Session.keeps_quietlyClosing _ number _ own (hbody number))).bind
    fun result => ?_
  split
  · exact (keeps_onEngine (keeps_recording (fun _ => rfl) _)).bind fun _ => .pure result
  · exact (Keeps.pure ()).bind fun _ => .pure result

theorem keeps_run (sink : Sink) (sql : String) (params : Option Value) :
    Keeps engines (c.run e.recorded sink sql params) := by
  rw [run_eq]
  split
  · exact .fail _
  · exact c.keeps_withStatement e _ fun number => Session.keeps_walk _ number _ _ _ _ _

section Faults

variable {p : Fault → Prop} {c : Connection} {e : Engine ε}

theorem faults_onEngine {x : Action ε α} (hx : Faults p x) : Faults p (onEngine x) :=
  fun w f hf => hx w.driver.engine f hf

theorem faults_inSession {x : Action (World (Session ε)) α} (hx : Faults p x) :
    Faults p (inSession x) :=
  fun w f hf => hx ⟨.fresh w.driver.engine, w.journal⟩ f hf

theorem run_withConnection_idle (c : Connection) (e : Engine ε) (x : Action (World (Hosted ε)) α)
    {w : World (Hosted ε)} (hidle : w.driver.live = false) :
    (c.withConnection e x).run w = (.error notInitialized, w) := by
  rw [withConnection, Action.run_bind_ok (Action.run_state w), hidle]
  rfl

/-- With an engine, a fault is one of the engine's calls or of what is done with the connection. -/
theorem fault_withConnection {x : Action (World (Hosted ε)) α} {w : World (Hosted ε)}
    (hlive : w.driver.live = true) {f : Fault} (hf : ((c.withConnection e x).run w).1 = .error f) :
    e.Raises f ∨ ∃ v, (x.run v).1 = .error f := by
  rw [withConnection, Action.run_bind_ok (Action.run_state w), if_pos hlive] at hf
  refine Faults.bind (p := fun f => e.Raises f ∨ ∃ v, (x.run v).1 = .error f) ?_
    (fun _ => Faults.thenAlways ?_ ?_) w f hf
  · exact faults_onEngine fun s f h => .inl (.connect s h)
  · have hx : Faults (fun f => e.Raises f ∨ ∃ v, (x.run v).1 = .error f) x :=
      fun v f h => .inr ⟨v, h⟩
    cases timeoutText? c.config with
    | none => exact (Faults.pure ()).bind fun _ => hx
    | some text => exact (faults_onEngine fun s f h => .inl (.run text s h)).bind fun _ => hx
  · exact faults_onEngine fun s f h => .inl (.release s h)

/-- With an engine, a fault is one of the engine's calls or of what is done with the statement. -/
theorem fault_withStatement {own : Option Session.Prepared}
    {body : Statement (Session ε) → Action (World (Session ε)) α} {w : World (Hosted ε)}
    (hlive : w.driver.live = true) {f : Fault}
    (hf : ((c.withStatement e own body).run w).1 = .error f) :
    e.Raises f ∨ ∃ number v,
      ((body (Session.statement c.backend (e.cursor number) own)).run v).1 = .error f := by
  rcases fault_withConnection hlive hf with hraises | ⟨v, hv⟩
  · exact .inl hraises
  · refine Faults.bind
      (p := fun f => e.Raises f ∨ ∃ number v,
        ((body (Session.statement c.backend (e.cursor number) own)).run v).1 = .error f) ?_
      (fun number => Faults.bind ?_ fun result => ?_) v f hv
    · exact faults_onEngine fun s f h => .inl (.openCursor s h)
    · exact faults_inSession (Faults.quietlyClosing fun v f h => .inr ⟨number, v, h⟩)
    · split
      · exact (faults_onEngine fun s f h => .inl (.commit s h)).bind fun _ => .pure result
      · exact (Faults.pure ()).bind fun _ => .pure result

theorem raises_of_recorded {f : Fault} (h : e.recorded.Raises f) : e.Raises f := by
  cases h with
  | connect s h => exact .connect s.driver h
  | run text s h => exact .run text s.driver h
  | openCursor s h => exact .openCursor s.driver h
  | commit s h => exact .commit s.driver h
  | release s h => exact .release s.driver h

end Faults

theorem run_establish_live {w : World (Hosted ε)} (h : w.driver.live = true) :
    (c.establish e).run w = (.ok (), w) := by
  rw [establish, Action.run_bind_ok (Action.run_state w), if_pos h]
  rfl

theorem run_establish {s t : ε} {answer : Except Fault Unit} (j : Journal)
    (h : (e.create c.config.url (settings c.config)).run s = (answer, t)) :
    ∃ k, (c.establish e).run ⟨⟨s, false⟩, j⟩ = (answer, ⟨⟨t, answer.isOk⟩, k⟩) := by
  rw [establish, Action.run_bind_ok (Action.run_state _), if_neg Bool.false_ne_true]
  have hcreate : (onEngine (e.create c.config.url (settings c.config))).run ⟨⟨s, false⟩, j⟩ =
      (answer, ⟨⟨t, false⟩, j⟩) := run_onEngine_eq h
  cases answer with
  | error f => exact ⟨j, Action.run_bind_error hcreate⟩
  | ok _ =>
      rw [Action.run_bind_ok hcreate]
      exact ⟨_, rfl⟩

theorem run_dispose_idle {w : World (Hosted ε)} (h : w.driver.live = false) :
    (dispose e).run w = (.ok (), w) := by
  rw [dispose, Action.run_bind_ok (Action.run_state w), h]
  rfl

theorem run_dispose {s t : ε} {answer : Except Fault Unit} (j : Journal)
    (h : e.dispose.run s = (answer, t)) :
    (dispose e).run ⟨⟨s, true⟩, j⟩ = (answer, ⟨⟨t, !answer.isOk⟩, j⟩) := by
  rw [dispose, Action.run_bind_ok (Action.run_state _), if_pos rfl]
  have hdispose : (onEngine e.dispose).run ⟨⟨s, true⟩, j⟩ = (answer, ⟨⟨t, true⟩, j⟩) :=
    run_onEngine_eq h
  cases answer with
  | error f => exact Action.run_bind_error hdispose
  | ok _ => exact Action.run_bind_ok hdispose

/-- How the calls of a connection depend on whether it refers to an engine. -/
structure Governed (w : Attended ε) : Prop where
  /-- An engine is created where none is referred to. -/
  establish : if w.driver.live then (c.establish e.recorded).run w = (.ok (), w)
    else ∃ answer t k, (c.establish e.recorded).run w = (answer,
      ⟨⟨⟨t, w.made ++ [.create c.config.url (settings c.config) answer]⟩, answer.isOk⟩, k⟩)
  /-- The engine that is referred to is disposed of. -/
  dispose : if w.driver.live then ∃ answer t, (Connection.dispose e.recorded).run w = (answer,
      ⟨⟨⟨t, w.made ++ [.dispose answer]⟩, !answer.isOk⟩, w.journal⟩)
    else (Connection.dispose e.recorded).run w = (.ok (), w)
  /-- Without an engine there is no connection. With one, the only faults are those of the engine's
  calls and of what is done with the connection. -/
  connection {α : Type} (x : Action (Attended ε) α) :
    if w.driver.live then ∀ f, ((c.withConnection e.recorded x).run w).1 = .error f →
      e.Raises f ∨ ∃ v, (x.run v).1 = .error f
    else (c.withConnection e.recorded x).run w = (.error notInitialized, w)
  statement {α : Type} (own : Option Session.Prepared)
    (body : Statement (Session (Recorded ε EngineCall)) →
      Action (World (Session (Recorded ε EngineCall))) α) :
    if w.driver.live then ∀ f, ((c.withStatement e.recorded own body).run w).1 = .error f →
      e.Raises f ∨ ∃ number v,
        ((body (Session.statement c.backend (e.recorded.cursor number) own)).run v).1 = .error f
    else (c.withStatement e.recorded own body).run w = (.error notInitialized, w)
  /-- Parameters that the driver does not take are refused before anything else. -/
  run (sink : Sink) (sql : String) (params : Option Value) :
    if c.refuses params then (c.run e.recorded sink sql params).run w =
      (.error (c.noParameters sql), w)
    else if w.driver.live then ∀ f, ((c.run e.recorded sink sql params).run w).1 = .error f →
      e.Raises f ∨ ∃ number v, ((walk c.backend.dialect sink
        (Session.statement c.backend (e.recorded.cursor number) (preparedBy sql params))
        (givenBy sql params)).run v).1 = .error f
    else (c.run e.recorded sink sql params).run w = (.error notInitialized, w)

theorem governed (w : Attended ε) : c.Governed e w where
  establish := by
    split
    next hlive => exact run_establish_live c e.recorded hlive
    next hidle =>
      obtain ⟨⟨s, live⟩, j⟩ := w
      obtain rfl : live = false := Bool.eq_false_iff.mpr hidle
      obtain ⟨k, hrun⟩ := run_establish c e.recorded j (run_recording_eq rfl)
      exact ⟨_, _, k, hrun⟩
  dispose := by
    split
    next hlive =>
      obtain ⟨⟨s, live⟩, j⟩ := w
      obtain rfl : live = true := hlive
      exact ⟨_, _, run_dispose e.recorded j (run_recording_eq rfl)⟩
    next hidle => exact run_dispose_idle e.recorded (Bool.eq_false_iff.mpr hidle)
  connection x := by
    split
    next hlive => exact fun f hf => (fault_withConnection hlive hf).imp_left raises_of_recorded
    next hidle => exact run_withConnection_idle c e.recorded x (Bool.eq_false_iff.mpr hidle)
  statement own body := by
    split
    next hlive => exact fun f hf => (fault_withStatement hlive hf).imp_left raises_of_recorded
    next hidle => exact run_withConnection_idle c e.recorded _ (Bool.eq_false_iff.mpr hidle)
  run sink sql params := by
    rw [run_eq]
    split
    next hrefuses => rfl
    next haccepts =>
      split
      next hlive => exact fun f hf => (fault_withStatement hlive hf).imp_left raises_of_recorded
      next hidle => exact run_withConnection_idle c e.recorded _ (Bool.eq_false_iff.mpr hidle)

end Connection

/-- A call of a connection. A block of the connection establishes as it is entered, and disposes as
it is left. What is done with a statement creates no engine and disposes of none: where the body
calls the connection, the parts before and after the call are done meanwhile. -/
inductive ConnectionCall (c : Connection) (e : Engine ε) where
  | establish
  | dispose
  | run (sink : Sink) (sql : String) (params : Option Value)
  | statement (own : Option Session.Prepared)
      (body : Statement (Session (Recorded ε EngineCall)) →
        Action (World (Session (Recorded ε EngineCall))) Unit)
      (keeps : ∀ number, Keeps Session.turns
        (body (Session.statement c.backend (e.recorded.cursor number) own)))
  /-- Whatever else is done, with a connection or a cursor that was given out, say. -/
  | meanwhile (x : Action (Attended ε) Unit) (keeps : Keeps engines x)

namespace ConnectionCall

variable {c : Connection} {e : Engine ε} {w : Attended ε}

def leave (w : Attended ε) : ConnectionCall c e → Attended ε
  | .establish => ((c.establish e.recorded).run w).2
  | .dispose => ((Connection.dispose e.recorded).run w).2
  | .run sink sql params => ((c.run e.recorded sink sql params).run w).2
  | .statement own body _ => ((c.withStatement e.recorded own body).run w).2
  | .meanwhile x _ => (x.run w).2

theorem accounted_leave (hw : w.Accounted) (call : ConnectionCall c e) :
    (call.leave w).Accounted := by
  cases call with
  | establish =>
      have hestablish := (c.governed e w).establish
      split at hestablish
      next hlive =>
        rw [leave, hestablish]
        exact hw
      next hidle =>
        obtain ⟨answer, t, k, hrun⟩ := hestablish
        rw [leave, hrun]
        exact hw.created (Bool.eq_false_iff.mpr hidle) rfl rfl
  | dispose =>
      have hdispose := (c.governed e w).dispose
      split at hdispose
      next hlive =>
        obtain ⟨answer, t, hrun⟩ := hdispose
        rw [leave, hrun]
        exact hw.disposed hlive rfl rfl
      next hidle =>
        rw [leave, hdispose]
        exact hw
  | run sink sql params => exact hw.of_engines_eq (c.keeps_run e sink sql params w)
  | statement own body keeps => exact hw.of_engines_eq (c.keeps_withStatement e own keeps w)
  | meanwhile x keeps => exact hw.of_engines_eq (keeps w)

end ConnectionCall

namespace Connection

def reached (c : Connection) (e : Engine ε) (s : ε) (j : Journal)
    (calls : List (ConnectionCall c e)) : Attended ε :=
  calls.foldl (fun w call => call.leave w) ⟨⟨⟨s, []⟩, false⟩, j⟩

theorem accounted_foldl {c : Connection} {e : Engine ε} (calls : List (ConnectionCall c e))
    {w : Attended ε} (hw : w.Accounted) :
    (calls.foldl (fun w call => call.leave w) w).Accounted := by
  induction calls generalizing w with
  | nil => exact hw
  | cons call rest ih => exact ih (call.accounted_leave hw)

/-- Whatever calls were made of a connection, its engines are accounted for: no more than one ever
ran, and one that runs is the one that the connection refers to, on which all calls depend. -/
theorem engines_accounted_for (c : Connection) (e : Engine ε) (s : ε) (j : Journal)
    (calls : List (ConnectionCall c e)) :
    (c.reached e s j calls).Accounted ∧ c.Governed e (c.reached e s j calls) := by
  refine ⟨accounted_foldl calls ⟨fun earlier hearlier => ?_, rfl⟩, c.governed e _⟩
  rw [List.prefix_nil.mp hearlier]
  exact Nat.zero_le 1

/-- An engine that was disposed of does not run any more when the next one is created. -/
example (c : Connection) : Fleet.ofCalls (c.reached ScriptedEngine.engine (.ofScript {}) {}
    [.establish, .establish, .dispose, .dispose, .establish]).made = ⟨2, [1]⟩ := rfl

end Connection

end StatementWalk
