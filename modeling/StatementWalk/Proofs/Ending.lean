import StatementWalk.Walk.Report

/-!
# How actions on the journal end

Some actions end in one way, whatever was written before. Reporting is one of them, with every sink:
a refusal is only noted, so reporting fails at the first warning that has no text, and nowhere else.
-/

namespace StatementWalk

/-- The action ends in this way, whatever was written before. -/
def Ends {α : Type} (x : Action Journal α) (r : Except Fault α) : Prop := ∀ j, (x.run j).1 = r

namespace Ends

variable {α β : Type} {x : Action Journal α} {r : Except Fault α}

theorem bind {f : α → Action Journal β} {g : α → Except Fault β} (hx : Ends x r)
    (hf : ∀ v, Ends (f v) (g v)) : Ends (x >>= f) (r >>= g) := by
  intro j
  have hr := hx j
  cases hrun : x.run j with
  | mk q k =>
      rw [hrun] at hr
      dsimp only at hr
      subst hr
      cases q with
      | error e => rw [Action.run_bind_error hrun, except_error_bind]
      | ok v =>
          rw [Action.run_bind_ok hrun, except_ok_bind]
          exact hf v k

theorem ofExcept (r : Except Fault α) : Ends (Action.ofExcept r) r := fun _ => rfl

theorem pure (v : α) : Ends (Pure.pure v) (Pure.pure v) := fun _ => rfl

theorem run (h : Ends x r) (j : Journal) : ∃ k, x.run j = (r, k) := ⟨_, Prod.ext (h j) rfl⟩

theorem of_exists (h : ∃ r, Ends x r) (j : Journal) : Ends x (x.run j).1 := by
  obtain ⟨r, hr⟩ := h
  rw [hr j]
  exact hr

end Ends

/-- Offering a warning never fails: a refusal is only noted. -/
theorem ends_emit (sink : Sink) (line : String) : Ends (emit sink line) (.ok ()) := by
  intro j
  rw [emit, Action.run_bind_ok (Action.run_attempt (sink line) j)]
  cases ((sink line).run j).1 with
  | ok u => rfl
  | error f => rfl

theorem ends_emitAll (sink : Sink) (ns : List Notice) :
    Ends (emitAll sink (ns.map Notice.classify))
      ((ns.mapM fun n => n.classify.render) >>= fun _ => .ok ()) := by
  induction ns with
  | nil => exact .pure ()
  | cons n rest ih =>
      have hcons := (Ends.ofExcept n.classify.render).bind fun line =>
        (ends_emit sink line).bind fun _ => ih
      rw [List.map_cons, emitAll, List.mapM_cons]
      simpa only [bind_assoc, pure_bind, except_ok_bind] using hcons

/-- Reporting fails at the first warning that has no text. -/
theorem ends_reportNotices (sink : Sink) (ns : List Notice) :
    Ends (reportNotices sink ns)
      ((ns.mapM fun n => n.classify.render) >>= fun _ => pure (ns.map Notice.classify)) := by
  have hall := (ends_emitAll sink ns).bind fun _ => .pure (ns.map Notice.classify)
  rw [reportNotices]
  simpa only [bind_assoc, except_ok_bind] using hall

end StatementWalk
