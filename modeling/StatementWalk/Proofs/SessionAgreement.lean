import StatementWalk.Proofs.Agreement
import StatementWalk.Proofs.RowReading

/-!
# Sessions on cursors that agree

Two cursors whose states differ in something that a session cannot see carry the same sessions. The
sessions may have given out other result sets before: a result set that is given out now stands at
the end of either list, and no call touches another one. Before a statement is executed it does not
matter either whether the session had an outcome.
-/

namespace StatementWalk

variable {κ μ α β : Type}

/-- Cursors in related states show the same, and their calls end alike and leave related states. To
close them is not a part of any walk. -/
structure Cursor.Matches (R : κ → μ → Prop) (c : Cursor κ) (q : Cursor μ) : Prop where
  execute (sql : String) (params : Option Value) :
    Same R (c.execute sql params) (q.execute sql params)
  fetch : Same R c.fetch q.fetch
  advance : Same R c.advance q.advance
  canAdvance_eq {k : κ} {m : μ} (h : R k m) : c.canAdvance k = q.canAdvance m
  description_eq {k : κ} {m : μ} (h : R k m) : c.description k = q.description m
  rowCount_eq {k : κ} {m : μ} (h : R k m) : c.rowCount k = q.rowCount m
  notices_eq {k : κ} {m : μ} (h : R k m) : c.notices k = q.notices m
  setNotices (board : NoticeBoard) {k : κ} {m : μ} (h : R k m) :
    R (c.setNotices board k) (q.setNotices board m)
  stamp_eq {k : κ} {m : μ} (h : R k m) : c.stamp k = q.stamp m
  outcomesLeft_eq {k : κ} {m : μ} (h : R k m) : c.outcomesLeft k = q.outcomesLeft m
  rowsLeft_eq {k : κ} {m : μ} (h : R k m) : c.rowsLeft k = q.rowsLeft m

namespace Session

structure Alike (R : κ → μ → Prop) (N : List Notice → List Notice → Prop)
    (H : List RowHandle → List RowHandle → Prop) (s : Session κ) (t : Session μ) : Prop where
  cursor : R s.cursor t.cursor
  pending : N s.pending t.pending
  exhausted_eq : s.exhausted = t.exhausted
  handles : H s.handles t.handles

/-- Whatever result sets were given out. -/
def AnyHandles (_ _ : List RowHandle) : Prop := True

/-- The handle at one place is the handle at the other. -/
def SameHandle (i k : Nat) (hs ks : List RowHandle) : Prop := ∃ h, hs[i]? = some h ∧ ks[k]? = some h

/-- Sessions between two walks, of which no outcome is asked for before one is executed. -/
structure Unstarted (R : κ → μ → Prop) (N : List Notice → List Notice → Prop) (s : Session κ)
    (t : Session μ) : Prop where
  cursor : R s.cursor t.cursor
  pending : N s.pending t.pending

/-- Collecting warnings leads from pending ones related by `N` to pending ones related by `L`. -/
structure Gathers (b : Backend) (c : Cursor κ) (R : κ → μ → Prop)
    (N L : List Notice → List Notice → Prop) : Prop where
  silent {p p' : List Notice} (off : b.capabilities.warnings = false) (h : N p p') : L p p'
  heard {p p' ns : List Notice} {board : NoticeBoard} {k : κ} {m : μ}
    (on : b.capabilities.warnings = true) (hkm : R k m)
    (collected : b.dialect.collect (c.notices k) = .ok (ns, board)) (h : N p p') :
      L (p ++ ns) (p' ++ ns)

variable {R : κ → μ → Prop} {N L M : List Notice → List Notice → Prop}
  {H : List RowHandle → List RowHandle → Prop} {c : Cursor κ} {q : Cursor μ} {b : Backend}
  {own : Option Prepared} {s : Session κ} {t : Session μ} {i k : Nat}

theorem same_onCursor {x : Action κ α} {y : Action μ α} (h : Same R x y) :
    Same (Alike R N H) (onCursor x) (onCursor y) := by
  intro s t hst
  obtain ⟨r, k, m, hx, hy, hkm⟩ := h _ _ hst.cursor
  exact ⟨r, _, _, run_onCursor hx, run_onCursor hy, hkm, hst.pending, hst.exhausted_eq, hst.handles⟩

theorem onResultSet_eq (h : c.Matches R q) (hst : Alike R N H s t) :
    onResultSet c s = onResultSet q t := by
  rw [onResultSet, onResultSet, hst.exhausted_eq, h.description_eq hst.cursor]

theorem relates_onResultSet {E : Session κ → Session μ → Prop} (h : c.Matches R q) :
    Relates (Alike R N H) (Alike R N H) E (Action.state >>= fun s => pure (onResultSet c s))
      (Action.state >>= fun t => pure (onResultSet q t)) := by
  intro s t hst
  refine ⟨.ok (onResultSet q t), s, t, ?_, rfl, hst⟩
  rw [Action.run_bind_ok (Action.run_state s), onResultSet_eq h hst]
  rfl

theorem relates_collectWarnings (h : c.Matches R q) (hgathers : Gathers b c R N L) :
    Relates (Alike R N H) (Alike R L H) (Unstarted R N) (collectWarnings b c)
      (collectWarnings b q) := by
  intro s t hst
  unfold collectWarnings
  cases hwarnings : b.capabilities.warnings with
  | false =>
      exact ⟨.ok (), s, t, rfl, rfl, hst.cursor, hgathers.silent hwarnings hst.pending,
        hst.exhausted_eq, hst.handles⟩
  | true =>
      rw [if_pos rfl, if_pos rfl, Action.run_bind_ok (Action.run_state s),
        Action.run_bind_ok (Action.run_state t), ← h.notices_eq hst.cursor]
      cases hcollect : b.dialect.collect (c.notices s.cursor) with
      | error f => exact ⟨.error f, s, t, rfl, rfl, hst.cursor, hst.pending⟩
      | ok found =>
          exact ⟨.ok (), _, _, rfl, rfl, h.setNotices found.2 hst.cursor,
            hgathers.heard hwarnings hst.cursor hcollect hst.pending, hst.exhausted_eq, hst.handles⟩

theorem relates_execute (h : c.Matches R q) (hgathers : Gathers b c R N L) (sql : String)
    (params : Option Value) :
    Relates (Unstarted R N) (Alike R L AnyHandles) (Unstarted R N) (execute b c sql params)
      (execute b q sql params) := by
  intro s t hst
  obtain ⟨r, k, m, hx, hy, hkm⟩ := h.execute sql params _ _ hst.cursor
  cases r with
  | error f =>
      exact ⟨.error f, _, _, Action.run_bind_error (run_onCursor hx),
        Action.run_bind_error (run_onCursor hy), hkm, hst.pending⟩
  | ok _ =>
      -- From here on the sessions have an outcome, and they are alike.
      have hrest : Relates (Alike R N AnyHandles) (Alike R L AnyHandles) (Unstarted R N)
          (collectWarnings b c >>= fun _ => Action.state >>= fun s => pure (onResultSet c s))
          (collectWarnings b q >>= fun _ => Action.state >>= fun t => pure (onResultSet q t)) :=
        (relates_collectWarnings h hgathers).bind fun _ => relates_onResultSet h
      obtain ⟨r, s', t', hs', ht', hst'⟩ := hrest { s with cursor := k, exhausted := false }
        { t with cursor := m, exhausted := false } ⟨hkm, hst.pending, rfl, trivial⟩
      exact ⟨r, s', t', (Action.run_bind_ok (run_onCursor hx)).trans hs',
        (Action.run_bind_ok (run_onCursor hy)).trans ht', hst'⟩

theorem same_updateCount (h : c.Matches R q) :
    Same (Alike R N H) (Action.state >>= fun s => Action.ofExcept (updateCount c s))
      (Action.state >>= fun t => Action.ofExcept (updateCount q t)) := by
  refine .state fun s t hst => ?_
  have hcount : updateCount c s = updateCount q t := by
    rw [updateCount, updateCount, hst.exhausted_eq, h.description_eq hst.cursor,
      h.rowCount_eq hst.cursor]
  rw [hcount]
  exact .ofExcept _

/-- Where the cursor does not move on, the pending warnings stay as they are. -/
theorem relates_advance (h : c.Matches R q) (hgathers : Gathers b c R N L)
    (hstay : ∀ p p', N p p' → L p p') :
    Relates (Alike R N H) (Alike R L H) (Unstarted R N) (advance b c) (advance b q) := by
  intro s t hst
  have hkeep {s : Session κ} {t : Session μ} (hst : Alike R N H s t) : Alike R L H s t :=
    ⟨hst.cursor, hstay _ _ hst.pending, hst.exhausted_eq, hst.handles⟩
  rw [advance, advance, Action.run_bind_ok (Action.run_state s),
    Action.run_bind_ok (Action.run_state t), hst.exhausted_eq, h.canAdvance_eq hst.cursor]
  split
  · have hmove := (same_onCursor (N := N) (H := H) h.advance).relates (E := Unstarted R N)
      fun _ _ hst => ⟨hst.cursor, hst.pending⟩
    refine hmove.bind (fun more => ?_) s t hst
    cases more with
    | true =>
        exact (relates_collectWarnings h hgathers).bind fun _ s t hst =>
          ⟨.ok true, s, t, rfl, rfl, hst⟩
    | false => exact fun s t hst => ⟨.ok false, s, t, rfl, rfl, hkeep hst⟩
  · exact ⟨.ok false, s, t, rfl, rfl, hkeep hst⟩

theorem relates_moreResults (h : c.Matches R q) (hgathers : Gathers b c R N L)
    (hstay : ∀ p p', N p p' → L p p') :
    Relates (Alike R N H) (Alike R L H) (Unstarted R N) (moreResults b c) (moreResults b q) := by
  refine (relates_advance h hgathers hstay).bind fun more => ?_
  cases more with
  | true => exact relates_onResultSet h
  | false =>
      have hend : Relates (Alike R L H) (Alike R L H) (Unstarted R N) (setExhausted true)
          (setExhausted true) :=
        fun s t hst => ⟨.ok (), _, _, rfl, rfl, hst.cursor, hst.pending, rfl, hst.handles⟩
      exact hend.bind fun _ => relates_onResultSet h

theorem handle_eq (hst : Alike R N (SameHandle i k) s t) : handle i s = handle k t := by
  obtain ⟨h, hi, hk⟩ := hst.handles
  rw [handle, handle, List.getD_eq_getElem?_getD, List.getD_eq_getElem?_getD, hi, hk]

theorem SameHandle.set {hs ks : List RowHandle} (h : SameHandle i k hs ks) (handle : RowHandle) :
    SameHandle i k (hs.set i handle) (ks.set k handle) := by
  obtain ⟨_, hi, hk⟩ := h
  have hlt := (List.getElem?_eq_some_iff.mp hi).1
  have klt := (List.getElem?_eq_some_iff.mp hk).1
  exact ⟨handle, List.getElem?_set_self hlt, List.getElem?_set_self klt⟩

theorem same_setHandle {f : Session κ → RowHandle} {g : Session μ → RowHandle}
    (h : ∀ s t, Alike R N (SameHandle i k) s t → f s = g t) :
    Same (Alike R N (SameHandle i k)) (Action.modify fun s => setHandle i (f s) s)
      (Action.modify fun t => setHandle k (g t) t) := by
  refine .modify fun s t hst => ⟨hst.cursor, hst.pending, hst.exhausted_eq, ?_⟩
  rw [h s t hst]
  exact hst.handles.set (g t)

theorem same_nextRow (h : c.Matches R q) :
    Same (Alike R N (SameHandle i k)) (nextRow c i) (nextRow q k) := by
  refine .state fun s t hst => ?_
  rw [handle_eq hst]
  cases (handle k t).closed with
  | true => exact .pure false
  | false =>
      refine (same_onCursor h.fetch).bind fun fetched => ?_
      have hrow (row : Option (List Value)) : Same (Alike R N (SameHandle i k))
          ((Action.modify fun s : Session κ =>
            setHandle i { handle i s with row := row, stamp := c.stamp s.cursor } s) >>=
              fun _ => pure row.isSome)
          ((Action.modify fun t : Session μ =>
            setHandle k { handle k t with row := row, stamp := q.stamp t.cursor } t) >>=
              fun _ => pure row.isSome) := by
        refine (same_setHandle fun s t hst => ?_).bind fun _ => .pure row.isSome
        rw [handle_eq hst, h.stamp_eq hst.cursor]
      cases fetched with
      | none => exact (Same.pure none).bind hrow
      | some v => exact ((Same.ofExcept v.toRow).map some).bind hrow

theorem cell_eq (h : c.Matches R q) (hst : Alike R N (SameHandle i k) s t) (index : Int) :
    cell c i index s = cell q k index t := by
  rw [cell, cell, handle_eq hst, h.stamp_eq hst.cursor]

theorem same_readObject (h : c.Matches R q) (index : Int) :
    Same (Alike R N (SameHandle i k)) (readObject b c i index) (readObject b q k index) := by
  refine .state fun s t hst => ?_
  rw [cell_eq h hst, handle_eq hst]
  refine (Same.ofExcept _).bind fun v => ?_
  split
  · exact .ofExcept _
  · exact .fail _

theorem same_readCell (h : c.Matches R q) (reading : Reading) (index : Int) :
    Same (Alike R N (SameHandle i k)) (readCell c i reading index)
      (readCell q k reading index) := by
  refine .state fun s t hst => ?_
  rw [cell_eq h hst]
  refine (Same.ofExcept _).bind fun v => ?_
  have hspend : Same (Alike R N (SameHandle i k)) (Action.modify (spendCell i index))
      (Action.modify (spendCell k index)) :=
    same_setHandle fun s t hst => by rw [handle_eq hst]
  cases reading with
  | text => exact hspend.bind fun _ => .ofExcept _
  | bytes => exact hspend.bind fun _ => .ofExcept _
  | timestamp => exact (Same.pure ()).bind fun _ => .ofExcept _
  | date => exact (Same.pure ()).bind fun _ => .ofExcept _

theorem matches_resultSet (h : c.Matches R q) (i k : Nat) (columns : List Column) :
    (resultSet b c i columns).Matches (Alike R N (SameHandle i k)) (resultSet b q k columns) where
  className_eq := rfl
  columns_eq := rfl
  nextRow := same_nextRow h
  getObject := same_readObject h
  get := same_readCell h
  close := same_setHandle fun s t hst => by rw [handle_eq hst]
  reach hst := h.rowsLeft_eq hst.cursor

theorem handout_currentResultSet (h : c.Matches R q) (hst : Alike R N AnyHandles s t) :
    Handout (Alike R N AnyHandles) ((currentResultSet b c).run s)
      ((currentResultSet b q).run t) := by
  rw [currentResultSet, currentResultSet, Action.run_bind_ok (Action.run_state s),
    Action.run_bind_ok (Action.run_state t), onResultSet_eq h hst]
  cases onResultSet q t with
  | false => exact .absent hst
  | true =>
      rw [if_pos rfl, if_pos rfl, openResultSet, openResultSet, h.description_eq hst.cursor]
      cases b.dialect.describeAll 1 ((q.description t.cursor).getD []) with
      | error f => exact .failed f hst
      | ok columns =>
          refine .given (Alike R N (SameHandle s.handles.length t.handles.length))
            (fun _ _ hin => ⟨hin.cursor, hin.pending, hin.exhausted_eq, trivial⟩)
            (matches_resultSet h _ _ columns) ⟨hst.cursor, hst.pending, hst.exhausted_eq, ?_⟩
          exact ⟨{ columns }, List.getElem?_concat_length, List.getElem?_concat_length⟩

/-- Statements of sessions match whose pending warnings are related by `N` between walks, by `L`
while they are to be reported, and by `M` once they were. -/
theorem matches_statement (h : c.Matches R q) (hstart : Gathers b c R N L)
    (hmove : Gathers b c R M L) (hstay : ∀ p p', M p p' → L p p') (hend : ∀ p p', M p p' → N p p')
    (hreport : ∀ sink, Relates (Alongside (Alike R L AnyHandles)) (Alongside (Alike R M AnyHandles))
      (Alongside (Unstarted R N)) (report sink (statement b c own))
      (report sink (statement b q own))) :
    (statement b c own).Matches (Unstarted R N) (Alike R L AnyHandles) (Alike R M AnyHandles)
      (Unstarted R N) (statement b q own) where
  prepared_eq := rfl
  execute sql := relates_execute h hstart sql none
  executePrepared := by
    cases own with
    | some p => exact relates_execute h hstart p.sql p.params
    | none => exact fun s t hst => ⟨.error noOwnText, s, t, rfl, rfl, hst⟩
  report := hreport
  getResultSet := handout_currentResultSet h
  getUpdateCount := same_updateCount h
  getMoreResults := by
    intro s t hst
    obtain ⟨r, s', t', hs, ht, hst'⟩ := relates_moreResults h hmove hstay s t hst
    refine ⟨r, s', t', hs, ht, ?_⟩
    cases r with
    | ok more => exact hst'
    | error f => exact ⟨hst'.cursor, hend _ _ hst'.pending⟩
  reach hst := h.outcomesLeft_eq hst.cursor
  unstarted hst := hst
  ended hst := ⟨hst.cursor, hend _ _ hst.pending⟩

/-- Between walks it is enough that the same warnings are pending. -/
theorem matches_statement_self (h : c.Matches R q) (b : Backend) (own : Option Prepared) :
    (statement b c own).Matches (Unstarted R Eq) (Alike R Eq AnyHandles) (Alike R Eq AnyHandles)
      (Unstarted R Eq) (statement b q own) := by
  have hgathers : Gathers b c R Eq Eq := ⟨fun _ h => h, fun _ _ _ h => congrArg (· ++ _) h⟩
  refine matches_statement h hgathers hgathers (fun _ _ h => h) (fun _ _ h => h) fun sink => ?_
  refine (agree_report sink ?_ ?_).relates fun _ _ hwv => ⟨⟨hwv.1.cursor, hwv.1.pending⟩, hwv.2⟩
  · refine .state fun s t hst => ?_
    rw [hst.pending]
    exact .pure _
  · exact .modify fun _ _ hst => ⟨hst.cursor, rfl, hst.exhausted_eq, hst.handles⟩

end Session

end StatementWalk
