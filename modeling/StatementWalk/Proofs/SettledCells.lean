import StatementWalk.Proofs.CellText
import StatementWalk.Proofs.IntegerColumns
import StatementWalk.Proofs.TemporalCells

/-!
# Normalizing what is normalized

A normalized value is null, or canonical and no bare date in a column of timestamps; so no
correction applies to it, and in a column of integers it is an integer, or a text that is kept. Put
back into a cell of the same column it comes out as it is.
-/

namespace StatementWalk

open Dialect

namespace Value

/-- Of the faults of a conversion, only those that are explained say what the text in a column of
small integers says. -/
theorem toInteger_fault {v : Value} {f : Fault} (h : v.toInteger = .error f) :
    f.kind.isConversionFault = true ∨ isTextInSmallint f = false := by
  cases hscalar : v.isScalar with
  | true =>
      cases hinfinite : v.isInfinite with
      | true =>
          right
          cases v with
          | float x =>
              cases x with
              | infinite negative =>
                  cases h
                  decide
              | _ => cases hinfinite
          | decimal x =>
              cases x with
              | infinite negative =>
                  cases h
                  decide
              | _ => cases hinfinite
          | _ => cases hinfinite
      | false =>
          left
          rw [kind_of_toInteger hscalar hinfinite h]
          rfl
  | false =>
      cases v with
      | bool | int | float | decimal | text | bytes | buffer => cases hscalar
      | uuid n => cases h
      | _ =>
          left
          cases h
          rfl

end Value

namespace Dialect

variable {d : Dialect} {c : Column} {raw v : Value} {r : Except Fault Value} {target : String}

theorem readObject_null (htarget : d.conversionTarget? c = some target) :
    d.readObject .null c = .ok .null := by
  unfold readObject
  rw [htarget]

theorem readObject_int (htarget : d.conversionTarget? c = some target) (n : Int) :
    d.readObject (.int n) c = .ok (.int n) := by
  unfold readObject
  rw [htarget]
  rfl

theorem readObject_eq_error {f : Fault} (h : d.readObject v c = .error f) :
    ∃ target g, v.toInteger = .error g ∧
      f = if g.kind.isConversionFault then notConvertible v target c g else g := by
  unfold readObject at h
  split at h
  · cases h
  · cases h
  · split at h
    · cases h
    · rename_i g hg
      exact ⟨_, g, hg, (Except.error.inj h).symm⟩

theorem sourceName_eq_char (h : sourceName v = "char") (hclass : v.className ≠ "char") :
    ∃ t, v = .text t := by
  cases v with
  | text t => exact ⟨t, rfl⟩
  | _ => exact absurd h hclass

/-- Only texts are read in place of small integers, unless another class has taken their name. -/
theorem text_of_isTextInSmallint {f : Fault} (hf : d.readObject v c = .error f)
    (htext : isTextInSmallint f = true) (hclass : v.className ≠ "char") : ∃ t, v = .text t := by
  obtain ⟨target, g, hg, rfl⟩ := readObject_eq_error hf
  cases hkind : g.kind.isConversionFault with
  | true =>
      simp only [hkind, if_true, isTextInSmallint, notConvertible, Bool.and_eq_true,
        beq_iff_eq] at htext
      exact sourceName_eq_char htext.1 hclass
  | false =>
      simp only [hkind, Bool.false_eq_true, if_false] at htext
      rcases Value.toInteger_fault hg with hconversion | hother
      · cases hkind.symm.trans hconversion
      · cases htext.symm.trans hother

/-- No correction applies to the value. -/
def Settled (d : Dialect) (c : Column) (v : Value) : Prop :=
  v = .null ∨ v.isCanonical = true ∧ (isBareDate v = true → d.isTimestampColumn c = false)

theorem Corrects.eq_of_settled {raw : Except Fault Value} (h : Corrects d c raw v r)
    (hv : Settled d c v) : r = .ok v := by
  rcases hv with rfl | ⟨hcanonical, hdate⟩
  · cases h with
    | null => rfl
    | unclassified hnull => exact absurd rfl hnull
    | settled hnull => exact absurd rfl hnull
    | reread hnull => exact absurd rfl hnull
  · rw [h.eq_of_isCanonical hcanonical]
    cases hbare : isBareDate v with
    | false => rfl
    | true => simp [hdate hbare]

theorem settled_of_readingOf {reading : Reading} (hreads : Rereads d v c (some reading))
    {w : Value} (h : readingOf c reading (.ok raw) = .ok w) : Settled d c w := by
  rcases isNormal_of_readingOf h with rfl | hcanonical
  · exact .inl rfl
  · refine .inr ⟨hcanonical, fun hbare => ?_⟩
    cases w with
    | date date =>
        rw [← Bool.not_eq_true]
        intro hc
        exact readingOf_ne_date (hreads.ne_date hc) raw date h
    | _ => cases hbare

/-- What comes out of an unconverted column is settled. -/
theorem Corrects.settled_of_ok (h : Corrects d c (.ok raw) raw r) (hr : r = .ok v) :
    Settled d c v := by
  cases h with
  | null =>
      obtain rfl := Except.ok.inj hr
      exact .inl rfl
  | unclassified => cases hr
  | settled _ h =>
      obtain rfl := Except.ok.inj hr
      cases h with
      | settled hv hdate => exact .inr ⟨hv, hdate⟩
  | reread _ h => exact settled_of_readingOf h hr

theorem normalForm_of_settled (htarget : d.conversionTarget? c = none) (h : Settled d c v) :
    (d.normalForm c (.ok v)).result = .ok v :=
  ((normalizes_normalForm d c v).corrects htarget).eq_of_settled h

theorem normalForm_null (d : Dialect) (c : Column) :
    (d.normalForm c (.ok .null)).result = .ok .null := by
  cases htarget : d.conversionTarget? c with
  | none => exact normalForm_of_settled htarget (.inl rfl)
  | some target =>
      simp only [normalForm, except_ok_bind, readObject_null htarget]
      rfl

theorem normalForm_int (htarget : d.conversionTarget? c = some target) (n : Int) :
    (d.normalForm c (.ok (.int n))).result = .ok (.int n) := by
  simp only [normalForm, except_ok_bind, readObject_int htarget, Noted.result_ofExcept,
    corrected_int]

/-- A normal form is its own normal form. -/
theorem normalForm_normalForm (hclass : raw.className ≠ "char")
    (h : (d.normalForm c (.ok raw)).result = .ok v) : (d.normalForm c (.ok v)).result = .ok v := by
  have hcases := normalizes_normalForm d c raw
  generalize hr : (d.normalForm c (.ok raw)).result = r at h hcases
  cases hcases with
  | unconverted htarget hcorrects =>
      exact normalForm_of_settled htarget (hcorrects.settled_of_ok h)
  | null =>
      obtain rfl := Except.ok.inj h
      exact normalForm_null d c
  | integer htarget =>
      obtain rfl := Except.ok.inj h
      exact normalForm_int htarget _
  | retried _ hf htext =>
      -- Only a text is retried, and it is kept; so the second time repeats the first.
      obtain ⟨t, rfl⟩ := text_of_isTextInSmallint hf htext hclass
      have hkept : readingOf c .text (.ok (.text t)) = .ok (.text t) := rfl
      obtain rfl := Except.ok.inj (hkept.symm.trans h)
      exact hr.trans hkept
  | refused => cases h

end Dialect

namespace Session

/-- Normalizing is idempotent: what comes out of a cell comes out again where a cell of the same
column holds it. -/
theorem normalize_idempotent {κ κ' : Type} {b : Backend} {c : Cursor κ} {c' : Cursor κ'}
    {i i' : Nat} {s : Session κ} {s' : Session κ'} {columns columns' : List Column}
    {column : Column} {raw v : Value} {j : Journal} (hclass : raw.className ≠ "char")
    (h : HoldsCell c i columns column raw s)
    (hv : ((normalize b.dialect (resultSet b c i columns) column.position).run ⟨s, j⟩).1 = .ok v)
    (h' : HoldsCell c' i' columns' column v s') (j' : Journal) :
    ((normalize b.dialect (resultSet b c' i' columns') column.position).run ⟨s', j'⟩).1 =
      .ok v := by
  rw [h.run_normalize] at hv
  rw [h'.run_normalize]
  exact normalForm_normalForm hclass hv

/-- A date in a column of timestamps, and then the timestamp that it became. -/
theorem normalized_date_stays :
    let rs := resultSet (.ofDialect .postgresql) ScriptedCursor.cursor 0 [momentColumn]
    let moment := Value.timestamp (.ofDate default)
    ((normalize .postgresql rs 1).run ⟨atCell .postgresql momentEntry (.date default), {}⟩).1 =
        .ok moment ∧
      ((normalize .postgresql rs 1).run ⟨atCell .postgresql momentEntry moment, {}⟩).1 =
        .ok moment := by
  have hdate : HoldsCell ScriptedCursor.cursor 0 [momentColumn] momentColumn (.date default)
      (atCell .postgresql momentEntry (.date default)) := ⟨rfl, rfl, rfl⟩
  have htimestamp : HoldsCell ScriptedCursor.cursor 0 [momentColumn] momentColumn
      (.timestamp (.ofDate default))
      (atCell .postgresql momentEntry (.timestamp (.ofDate default))) :=
    ⟨rfl, rfl, rfl⟩
  have hclass : (Value.date default).className ≠ "char" := by decide
  exact ⟨rfl, normalize_idempotent (b := .ofDialect .postgresql)
    (j := {}) hclass hdate rfl htimestamp {}⟩

end Session

end StatementWalk
