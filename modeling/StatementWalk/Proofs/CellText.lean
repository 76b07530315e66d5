import StatementWalk.Proofs.NormalForm
import StatementWalk.Walk.Walk

/-!
# Texts of normalized cells

A normal form is null or of one of the canonical kinds, because the last correction reads every
other value as text. So a normalized cell can always be written into a table, unless it is an
integer with more digits than are ever written.
-/

namespace StatementWalk

open Dialect Number

/-- Null and the kinds of values that leave a walk. -/
def Value.IsNormal (v : Value) : Prop := v = .null ∨ v.isCanonical = true

namespace Dialect

variable {d : Dialect} {c : Column} {v w : Value}

theorem isNormal_of_convert {reading : Reading} (h : reading.convert v = .ok w) : w.IsNormal := by
  cases reading with
  | text =>
      rcases convert_text_eq_ok h with rfl | ⟨s, rfl⟩
      · exact .inl rfl
      · exact .inr rfl
  | bytes =>
      obtain ⟨bs, -, rfl⟩ := except_map_eq_ok.mp h
      cases bs with
      | none => exact .inl rfl
      | some bs => exact .inr rfl
  | timestamp =>
      obtain ⟨t, -, rfl⟩ := except_map_eq_ok.mp h
      cases t with
      | none => exact .inl rfl
      | some t => exact .inr rfl
  | date =>
      obtain ⟨t, -, rfl⟩ := except_map_eq_ok.mp h
      cases t with
      | none => exact .inl rfl
      | some t => exact .inr rfl

theorem isNormal_of_readingOf {reading : Reading} {raw : Except Fault Value}
    (h : readingOf c reading raw = .ok w) : w.IsNormal := by
  obtain ⟨r, -, hr⟩ := except_bind_eq_ok.mp (except_mapError_eq_ok.mp h)
  exact isNormal_of_convert hr

theorem isCanonical_of_correctionOf (h : d.correctionOf v c = .ok none) : v.isCanonical = true := by
  cases rereads_of_correctionOf h with
  | settled hv => exact hv

theorem isNormal_of_corrected {raw : Except Fault Value} (h : d.corrected c raw v = .ok w) :
    w.IsNormal := by
  unfold corrected at h
  split at h
  · cases h
    exact .inl rfl
  · cases hq : d.correctionOf v c with
    | error e =>
        rw [hq] at h
        cases h
    | ok correction =>
        rw [hq, except_ok_bind] at h
        cases correction with
        | none =>
            cases h
            exact .inr (isCanonical_of_correctionOf hq)
        | some q => exact isNormal_of_readingOf h

/-- Whatever a cell is normalized to is null or canonical. -/
theorem isNormal_of_normalForm {raw : Except Fault Value}
    (h : (d.normalForm c raw).result = .ok w) : w.IsNormal := by
  unfold normalForm at h
  split at h
  · exact isNormal_of_corrected h
  · split at h
    · exact isNormal_of_readingOf h
    · cases h

end Dialect

namespace Value

/-- Integers in a row have no more digits than are written. -/
def Fits (v : Value) : Prop := ∀ n : Int, v = .int n → n.natAbs < digitBound

theorem display_int (n : Int) : display (.int n) = intText n := by
  have hshallow : ¬ nestingLimit < (Value.int n).nesting := by simp [nesting]
  rw [display, shown, if_neg hshallow, quotedForm]
  all_goals simp

theorem cellText_int (n : Int) : (Value.int n).cellText = intText n := display_int n

theorem cellText_eq_ok {v : Value} (h : v.IsNormal) (hfits : v.Fits) :
    ∃ text, v.cellText = .ok text := by
  rcases h with rfl | h
  · exact ⟨"NULL", rfl⟩
  · cases v with
    | int n => exact ⟨toString n, (cellText_int n).trans (intText_eq_ok (hfits n rfl))⟩
    | bool b => exact ⟨_, rfl⟩
    | float x => exact ⟨_, rfl⟩
    | decimal x => exact ⟨_, rfl⟩
    | text s => exact ⟨_, rfl⟩
    | bytes bs => exact ⟨_, rfl⟩
    | timestamp t => exact ⟨_, rfl⟩
    | date t => exact ⟨_, rfl⟩
    | _ => cases h

end Value

end StatementWalk
