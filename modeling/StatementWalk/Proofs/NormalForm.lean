import StatementWalk.Proofs.Corrections
import StatementWalk.Proofs.Noted
import StatementWalk.Session.Session
import StatementWalk.Walk.Normalize

/-!
# Normal forms of cells

What a cell becomes can be said without a cursor: it depends on the dialect, the column and the
value that the row holds there. Normalizing through the result set of a session computes exactly
that, for one cell and for a row. It changes no more of the session than the row that the handle
stands on, and of that row only the cells that were read.
-/

namespace StatementWalk

namespace Dialect

/-- The cell of a row at a column counted from one. -/
def cellOf (row : List Value) (index : Int) : Except Fault Value :=
  if 1 ≤ index ∧ index ≤ row.length then .ok (row.getD (index - 1).toNat .null)
  else .error (Session.outOfRow index row.length)

/-- A typed reading of a raw cell; a failure names the column. -/
def readingOf (c : Column) (reading : Reading) (raw : Except Fault Value) : Except Fault Value :=
  (raw >>= reading.convert).mapError (cellFault · c.position)

/-- The value of a cell once the first correction that applies has been made. -/
def corrected (d : Dialect) (c : Column) (raw : Except Fault Value) (v : Value) :
    Except Fault Value :=
  if v.isNull then .ok .null
  else do
    match ← d.correctionOf v c with
    | some q => readingOf c (q.reading c) raw
    | none => return v

/-- What is noted when a cell is read as text in place of its declared type. -/
def textNote (c : Column) (f : Fault) : LogRecord :=
  ⟨.debug, .normalization,
    "Column " ++ toString c.position ++ " hit a coercion quirk, reading as text: " ++ f.message⟩

def normalForm (d : Dialect) (c : Column) (raw : Except Fault Value) : Noted Value :=
  match raw >>= fun v => d.readObject v c with
  | .ok v => .ofExcept (d.corrected c raw v)
  | .error f =>
    if isTextInSmallint f then ⟨[textNote c f], readingOf c .text raw⟩
    else .ofExcept (.error (cellFault f c.position))

def normalRow (d : Dialect) (row : List Value) : List Column → Noted (List Value)
  | [] => return []
  | c :: rest => do
    let v ← d.normalForm c (cellOf row c.position)
    return v :: (← normalRow d row rest)

theorem convert_text_eq_ok {raw v : Value} (h : Reading.text.convert raw = .ok v) :
    v = .null ∨ ∃ s, v = .text s := by
  obtain ⟨text, -, rfl⟩ := except_map_eq_ok.mp h
  cases text with
  | none => exact .inl rfl
  | some s => exact .inr ⟨s, rfl⟩

theorem readingOf_text_eq_ok {c : Column} {raw : Except Fault Value} {v : Value}
    (h : readingOf c .text raw = .ok v) : v = .null ∨ ∃ s, v = .text s := by
  obtain ⟨r, -, hr⟩ := except_bind_eq_ok.mp (except_mapError_eq_ok.mp h)
  exact convert_text_eq_ok hr

/-- What was read as text needs no correction. -/
theorem settled_of_readingOf_text {raw : Except Fault Value} {v : Value} {c : Column}
    (h : readingOf c .text raw = .ok v) (d : Dialect) :
    v = .null ∨ d.correctionOf v c = .ok none := by
  rcases readingOf_text_eq_ok h with rfl | ⟨s, rfl⟩
  · exact .inl rfl
  · exact .inr (correctionOf_of_isCanonical rfl nofun)

section Cases

variable {d : Dialect} {c : Column} {v : Value}

/-- What becomes of a value that was read in the generic way. -/
inductive Corrects (d : Dialect) (c : Column) (raw : Except Fault Value) (v : Value) :
    Except Fault Value → Prop where
  | null (hv : v = .null) : Corrects d c raw v (.ok .null)
  | unclassified {f : Fault} (hv : v ≠ .null) (hf : d.correctionOf v c = .error f) :
      Corrects d c raw v (.error f)
  | settled (hv : v ≠ .null) (h : Rereads d v c none) : Corrects d c raw v (.ok v)
  | reread {reading : Reading} (hv : v ≠ .null) (h : Rereads d v c (some reading)) :
      Corrects d c raw v (readingOf c reading raw)

theorem corrects_corrected (d : Dialect) (c : Column) (raw : Except Fault Value) (v : Value) :
    Corrects d c raw v (d.corrected c raw v) := by
  cases hnull : v.isNull with
  | true =>
      cases v with
      | null => exact .null rfl
      | _ => cases hnull
  | false =>
      have hv : v ≠ .null := by
        rintro rfl
        cases hnull
      simp only [corrected, hnull, Bool.false_eq_true, if_false]
      cases hfound : d.correctionOf v c with
      | error f => exact .unclassified hv hfound
      | ok found =>
          have hreads := rereads_of_correctionOf hfound
          cases found with
          | none => exact .settled hv hreads
          | some q => exact .reread hv hreads

theorem Corrects.eq_of_isCanonical {raw r : Except Fault Value} (h : Corrects d c raw v r)
    (hv : v.isCanonical = true) :
    r = if isBareDate v && d.isTimestampColumn c then readingOf c .timestamp raw else .ok v := by
  cases h with
  | null hnull =>
      subst hnull
      cases hv
  | unclassified _ hf =>
      obtain ⟨found, hfound⟩ := exists_correctionOf_of_isCanonical hv d c
      cases hf.symm.trans hfound
  | settled _ h =>
      have hreads := (rereads_of_isCanonical hv).mp h
      cases hboth : isBareDate v && d.isTimestampColumn c with
      | true => simp [hboth] at hreads
      | false => rfl
  | reread _ h =>
      have hreads := (rereads_of_isCanonical hv).mp h
      cases hboth : isBareDate v && d.isTimestampColumn c with
      | true =>
          obtain rfl : _ = Reading.timestamp := by simpa [hboth] using hreads
          rfl
      | false => simp [hboth] at hreads

inductive Normalizes (d : Dialect) (c : Column) (raw : Value) : Except Fault Value → Prop where
  | unconverted {r : Except Fault Value} (htarget : d.conversionTarget? c = none)
      (h : Corrects d c (.ok raw) raw r) : Normalizes d c raw r
  | null {target : String} (htarget : d.conversionTarget? c = some target) (hraw : raw = .null) :
      Normalizes d c raw (.ok .null)
  | integer {target : String} {n : Int} (htarget : d.conversionTarget? c = some target)
      (hn : raw.toInteger = .ok n) : Normalizes d c raw (.ok (.int n))
  | retried {target : String} {f : Fault} (htarget : d.conversionTarget? c = some target)
      (hf : d.readObject raw c = .error f) (htext : isTextInSmallint f = true) :
      Normalizes d c raw (readingOf c .text (.ok raw))
  | refused {target : String} {f : Fault} (htarget : d.conversionTarget? c = some target)
      (hf : d.readObject raw c = .error f) (htext : isTextInSmallint f = false) :
      Normalizes d c raw (.error (cellFault f c.position))

theorem Normalizes.corrects {raw : Value} {r : Except Fault Value} (h : Normalizes d c raw r)
    (htarget : d.conversionTarget? c = none) : Corrects d c (.ok raw) raw r := by
  have hnot : ∀ target, d.conversionTarget? c ≠ some target := by simp [htarget]
  cases h with
  | unconverted _ h => exact h
  | null h => exact absurd h (hnot _)
  | integer h => exact absurd h (hnot _)
  | retried h => exact absurd h (hnot _)
  | refused h => exact absurd h (hnot _)

theorem readObject_unconverted (h : d.conversionTarget? c = none) : d.readObject v c = .ok v := by
  unfold readObject
  rw [h]

/-- What a cell is converted to is null or the number that it stands for. -/
theorem readObject_eq_ok {w : Value} (h : d.readObject v c = .ok w) :
    d.conversionTarget? c = none ∧ w = v ∨ (v = .null ∧ w = .null) ∨
      ∃ n, v.toInteger = .ok n ∧ w = .int n := by
  unfold readObject at h
  split at h
  · rename_i htarget
    exact .inl ⟨htarget, (Except.ok.inj h).symm⟩
  · exact .inr (.inl ⟨rfl, (Except.ok.inj h).symm⟩)
  · split at h
    · rename_i hn
      exact .inr (.inr ⟨_, hn, (Except.ok.inj h).symm⟩)
    · cases h

theorem corrected_int (d : Dialect) (c : Column) (raw : Except Fault Value) (n : Int) :
    d.corrected c raw (.int n) = .ok (.int n) := by
  simp only [corrected, Value.isNull, correctionOf_of_isCanonical (v := .int n) rfl nofun]
  rfl

theorem normalizes_normalForm (d : Dialect) (c : Column) (raw : Value) :
    Normalizes d c raw (d.normalForm c (.ok raw)).result := by
  simp only [normalForm, except_ok_bind]
  cases htarget : d.conversionTarget? c with
  | none =>
      rw [readObject_unconverted htarget]
      exact .unconverted htarget (corrects_corrected d c (.ok raw) raw)
  | some target =>
      cases hread : d.readObject raw c with
      | error f =>
          cases htext : isTextInSmallint f with
          | true =>
              simp only [htext, if_true]
              exact .retried htarget hread htext
          | false =>
              simp only [htext, Bool.false_eq_true, if_false]
              exact .refused htarget hread htext
      | ok w =>
          rcases readObject_eq_ok hread with ⟨hnone, -⟩ | ⟨hraw, rfl⟩ | ⟨n, hn, rfl⟩
          · cases htarget.symm.trans hnone
          · exact .null htarget hraw
          · simp only [Noted.result_ofExcept, corrected_int]
            exact .integer htarget hn

end Cases

end Dialect

/-- Every column has the position at which it stands in the list, counted from one. -/
def Numbered (columns : List Column) : Prop :=
  ∀ (k : Nat) (c : Column), columns[k]? = some c → c.position = k + 1

namespace Numbered

variable {columns : List Column} {c : Column}

theorem atPosition (h : Numbered columns) (hc : c ∈ columns) :
    columns[(c.position - 1).toNat]? = some c := by
  obtain ⟨k, hk⟩ := List.mem_iff_getElem?.mp hc
  have hp := h k c hk
  rw [show (c.position - 1).toNat = k by omega]
  exact hk

theorem one_le (h : Numbered columns) (hc : c ∈ columns) : 1 ≤ c.position := by
  obtain ⟨k, hk⟩ := List.mem_iff_getElem?.mp hc
  have hp := h k c hk
  omega

theorem atPosition? (h : Numbered columns) (hc : c ∈ columns) :
    StatementWalk.atPosition? columns (c.position - 1) = some c := by
  have h1 := h.one_le hc
  rw [StatementWalk.atPosition?, if_pos (by omega)]
  exact h.atPosition hc

theorem nodup (h : Numbered columns) : (columns.map Column.position).Nodup := by
  rw [List.Nodup, List.pairwise_iff_getElem]
  intro i j hi hj hij
  simp only [List.length_map] at hi hj
  have pi := h i columns[i] (List.getElem?_eq_getElem hi)
  have pj := h j columns[j] (List.getElem?_eq_getElem hj)
  simp only [List.getElem_map, pi, pj, ne_eq]
  omega

end Numbered

namespace Dialect

theorem describeAll_cons_eq_ok {d : Dialect} {n : Int} {entry : Entry} {rest : List Entry}
    {columns : List Column} :
    d.describeAll n (entry :: rest) = .ok columns ↔
      ∃ c cs, d.describe n entry = .ok c ∧ d.describeAll (n + 1) rest = .ok cs ∧
        columns = c :: cs := by
  cases hc : d.describe n entry with
  | error e => simp [describeAll, hc, bind, Except.bind]
  | ok c =>
      cases hr : d.describeAll (n + 1) rest with
      | error e => simp [describeAll, hc, hr, bind, Except.bind]
      | ok cs => simp [describeAll, hc, hr, bind, Except.bind, pure, Except.pure, eq_comm]

/-- Position, class and declared type of a column are those that the description tells. -/
theorem describe_eq_ok {d : Dialect} {n : Int} {entry : Entry} {c : Column}
    (h : d.describe n entry = .ok c) :
    c.position = n ∧ c.className = d.classOfCode (entry.getD 1 .null) ∧
      d.declaredType entry = .ok c.typeName := by
  cases entry with
  | nil => simp [describe, bind, Except.bind] at h
  | cons name more =>
      cases hl : name.display with
      | error e => simp [describe, hl, bind, Except.bind] at h
      | ok label =>
          cases ht : d.declaredType (name :: more) with
          | error e => simp [describe, hl, ht, bind, Except.bind] at h
          | ok declared =>
              simp only [describe, hl, ht, bind, Except.bind] at h
              split at h
              · cases h
              · simp only [pure, Except.pure, Except.ok.injEq] at h
                rw [← h]
                exact ⟨rfl, rfl, rfl⟩

theorem describe_position {d : Dialect} {n : Int} {entry : Entry} {c : Column}
    (h : d.describe n entry = .ok c) : c.position = n := (describe_eq_ok h).1

theorem describeAll_position {d : Dialect} {n : Int} {entries : List Entry}
    {columns : List Column} (h : d.describeAll n entries = .ok columns) :
    ∀ (k : Nat) (c : Column), columns[k]? = some c → c.position = n + k := by
  induction entries generalizing n columns with
  | nil =>
      cases h
      simp
  | cons entry rest ih =>
      obtain ⟨c, cs, hc, hcs, rfl⟩ := describeAll_cons_eq_ok.mp h
      intro k x hx
      cases k with
      | zero =>
          simp only [List.getElem?_cons_zero, Option.some.injEq] at hx
          rw [← hx, describe_position hc]
          simp
      | succ k =>
          rw [List.getElem?_cons_succ] at hx
          have := ih hcs k x hx
          omega

theorem describeAll_numbered {d : Dialect} {entries : List Entry} {columns : List Column}
    (h : d.describeAll 1 entries = .ok columns) : Numbered columns := by
  intro k c hk
  have := describeAll_position h k c hk
  omega

end Dialect

end StatementWalk
