import Mathlib.Algebra.Order.Floor.Ring
import Mathlib.Data.Rat.Floor
import Mathlib.Tactic.Positivity
import StatementWalk.Dialect.Reading
import StatementWalk.Proofs.IntegerText

/-!
# Cells of integer columns

A cell of a column that is declared to hold integers is converted when it is read. The number that
the cell stands for is cut off towards zero, so a fraction is lost without notice. Whatever stands
for no number is refused as not convertible, infinities excepted: they overflow.
-/

namespace StatementWalk

open Number

def signedRat (negative : Bool) (q : ℚ) : ℚ := if negative then -q else q

/-- The nearest integer on the side of zero. -/
def cutOff (q : ℚ) : ℤ := if q < 0 then ⌈q⌉ else ⌊q⌋

theorem cutOff_intCast (n : ℤ) : cutOff n = n := by
  rw [cutOff, Int.ceil_intCast, Int.floor_intCast, ite_self]

theorem cutOff_neg {q : ℚ} (hq : 0 ≤ q) : cutOff (-q) = -cutOff q := by
  have hfloor : cutOff q = ⌊q⌋ := if_neg (not_lt.mpr hq)
  rcases hq.eq_or_lt with rfl | hpos
  · rw [neg_zero, hfloor, Int.floor_zero, neg_zero]
  · rw [cutOff, if_pos (neg_lt_zero.mpr hpos), Int.ceil_neg, hfloor]

theorem cutOff_signedRat_div (negative : Bool) (n d : ℕ) :
    cutOff (signedRat negative (n / d)) = signed negative (n / d) := by
  have hnonneg : (0 : ℚ) ≤ n / d := by positivity
  have hquotient : cutOff ((n : ℚ) / d) = (n / d : ℕ) := by
    rw [cutOff, if_neg (not_lt.mpr hnonneg), Rat.floor_natCast_div_natCast]
    rfl
  cases negative with
  | false => exact hquotient
  | true => exact (cutOff_neg hnonneg).trans (congrArg Neg.neg hquotient)

theorem Binary64.truncate?_finite (negative : Bool) (units : ℕ) :
    (Binary64.finite negative units).truncate? =
      some (cutOff (signedRat negative (units / Binary64.one))) := by
  rw [cutOff_signedRat_div]
  rfl

namespace Decimal

theorem lt_pow_length (n : ℕ) : n < 10 ^ (toString n).length := by
  have hlength : (toString n).length = (Nat.toDigits 10 n).length := by
    simp [toString, Nat.repr]
  rw [hlength]
  exact (Nat.length_toDigits_le_iff (by decide) Nat.length_toDigits_pos).mp le_rfl

theorem truncate_eq (negative : Bool) (c : ℕ) (e : ℤ) :
    truncate negative c e = cutOff (signedRat negative (c * 10 ^ e)) := by
  rcases le_or_gt 0 e with he | he
  · obtain ⟨n, rfl⟩ := Int.eq_ofNat_of_zero_le he
    have hscaled : (c : ℚ) * 10 ^ (n : ℤ) = (c * 10 ^ n : ℕ) / (1 : ℕ) := by simp
    rw [hscaled, cutOff_signedRat_div, truncate, if_pos he, Nat.div_one]
    rfl
  · obtain ⟨n, hn⟩ := Int.eq_ofNat_of_zero_le (neg_nonneg.mpr he.le)
    obtain rfl : e = -n := by omega
    have hscaled : (c : ℚ) * 10 ^ (-(n : ℤ)) = c / (10 ^ n : ℕ) := by
      rw [zpow_neg, zpow_natCast, ← div_eq_mul_inv, Nat.cast_pow, Nat.cast_ofNat]
    rw [hscaled, cutOff_signedRat_div, truncate, if_neg (not_le.mpr he), neg_neg]
    rfl

/-- With that many places after the point nothing is left in front of it. -/
theorem truncate_eq_zero {c : ℕ} {e : ℤ} (he : e < -(toString c).length) (negative : Bool) :
    truncate negative c e = 0 := by
  have hpow : c < 10 ^ (-e).toNat :=
    (lt_pow_length c).trans_le (Nat.pow_le_pow_right (by decide) (by omega))
  have hquotient : c / Nat.pow 10 (-e).toNat = 0 := Nat.div_eq_of_lt hpow
  have hneg : ¬0 ≤ e := fun h => by omega
  rw [truncate, if_neg hneg, hquotient]
  exact ite_self 0

theorem toInt_finite (negative : Bool) (c : ℕ) (e : ℤ) :
    (Decimal.finite negative c e).toInt = .ok (cutOff (signedRat negative (c * 10 ^ e))) := by
  rw [← truncate_eq, toInt]
  split
  · rename_i he
    rw [truncate_eq_zero he]
  · rfl

end Decimal

namespace Value

def isScalar : Value → Bool
  | .bool _ | .int _ | .float _ | .decimal _ | .text _ | .bytes _ | .buffer _ _ => true
  | _ => false

def isInfinite : Value → Bool
  | .float (.infinite _) | .decimal (.infinite _) => true
  | _ => false

/-- The value writes an integer. Bytes do so in ASCII only. -/
def Spells (v : Value) (negative : Bool) (ds : List ℕ) : Prop :=
  match v with
  | .text s => anyNumerals.Writes s.toList negative ds
  | .bytes bs | .buffer _ bs =>
      asciiNumerals.Writes (bs.map fun b => Char.ofNat b.toNat) negative ds
  | _ => False

/-- The number that the value is or writes. -/
inductive Denotes : Value → ℚ → Prop where
  | bool (b : Bool) : Denotes (.bool b) (if b then 1 else 0)
  | int (n : ℤ) : Denotes (.int n) n
  | float (negative : Bool) (units : ℕ) :
      Denotes (.float (.finite negative units)) (signedRat negative (units / Binary64.one))
  | decimal (negative : Bool) (c : ℕ) (e : ℤ) :
      Denotes (.decimal (.finite negative c e)) (signedRat negative (c * 10 ^ e))
  | spelled {v : Value} {negative : Bool} {ds : List ℕ} (h : v.Spells negative ds) :
      Denotes v (signed negative (ofDigits ds) : ℤ)

/-- The value writes an integer with more digits than are ever read. -/
def IsTooLong (v : Value) : Prop := ∃ negative ds, v.Spells negative ds ∧ digitLimit < ds.length

variable {v : Value} {q : ℚ} {n : ℤ}

theorem toInteger_of_spells {negative : Bool} {ds : List ℕ} (h : v.Spells negative ds)
    (hlength : ds.length ≤ digitLimit) : v.toInteger = .ok (signed negative (ofDigits ds)) := by
  have hshort : ¬digitLimit < ds.length := Nat.not_lt.mpr hlength
  cases v with
  | text s =>
      rw [toInteger, intOfText, readInt_of_writes h, if_neg hshort]
      rfl
  | bytes bs =>
      rw [toInteger, intOfBytes, readAsciiInt_of_writes h, if_neg hshort]
      rfl
  | buffer kind bs =>
      rw [toInteger, intOfBytes, readAsciiInt_of_writes h, if_neg hshort]
      rfl
  | _ => exact h.elim

theorem toInteger_bool (b : Bool) :
    (Value.bool b).toInteger = .ok (cutOff (if b then 1 else 0)) := by
  cases b with
  | false => exact congrArg _ (cutOff_intCast 0).symm
  | true => exact congrArg _ (cutOff_intCast 1).symm

theorem toInteger_float (negative : Bool) (units : ℕ) :
    (Value.float (.finite negative units)).toInteger =
      .ok (cutOff (signedRat negative (units / Binary64.one))) := by
  rw [toInteger, Binary64.truncate?_finite]
  rfl

/-- A number within the limit is cut off. -/
theorem toInteger_of_denotes (h : v.Denotes q) (hlength : ¬v.IsTooLong) :
    v.toInteger = .ok (cutOff q) := by
  cases h with
  | bool b => exact toInteger_bool b
  | int n => exact congrArg _ (cutOff_intCast n).symm
  | float negative units => exact toInteger_float negative units
  | decimal negative c e => exact Decimal.toInt_finite negative c e
  | spelled h =>
      rw [cutOff_intCast]
      exact toInteger_of_spells h (Nat.le_of_not_lt fun hlong => hlength ⟨_, _, h, hlong⟩)

theorem denotes_of_toInteger (hv : v.isScalar = true) (h : v.toInteger = .ok n) :
    ∃ q, v.Denotes q ∧ cutOff q = n := by
  cases v with
  | bool b => exact ⟨_, .bool b, Except.ok.inj ((toInteger_bool b).symm.trans h)⟩
  | int m => exact ⟨m, .int m, (cutOff_intCast m).trans (Except.ok.inj h)⟩
  | float x =>
      cases x with
      | finite negative units =>
          exact ⟨_, .float negative units,
            Except.ok.inj ((toInteger_float negative units).symm.trans h)⟩
      | infinite negative => cases h
      | nan => cases h
  | decimal x =>
      cases x with
      | finite negative c e =>
          exact ⟨_, .decimal negative c e,
            Except.ok.inj ((Decimal.toInt_finite negative c e).symm.trans h)⟩
      | infinite negative => cases h
      | nan negative signaling payload => cases h
  | text s =>
      obtain ⟨negative, ds, hwrites, -, rfl⟩ := writes_of_readInt (toExcept_eq_ok.mp h)
      exact ⟨_, .spelled hwrites, cutOff_intCast _⟩
  | bytes bs =>
      obtain ⟨negative, ds, hwrites, -, rfl⟩ := writes_of_readAsciiInt (toExcept_eq_ok.mp h)
      exact ⟨_, .spelled hwrites, cutOff_intCast _⟩
  | buffer kind bs =>
      obtain ⟨negative, ds, hwrites, -, rfl⟩ := writes_of_readAsciiInt (toExcept_eq_ok.mp h)
      exact ⟨_, .spelled hwrites, cutOff_intCast _⟩
  | _ => cases hv

/-- Only floats and decimals are fractions, and each of them is one number. -/
theorem Denotes.eq_intCast_or_unique (h : v.Denotes q) :
    (∃ n : ℤ, q = n) ∨ ∀ r, v.Denotes r → r = q := by
  cases h with
  | bool b =>
      cases b with
      | false => exact .inl ⟨0, rfl⟩
      | true => exact .inl ⟨1, rfl⟩
  | int n => exact .inl ⟨n, rfl⟩
  | spelled h => exact .inl ⟨_, rfl⟩
  | float negative units =>
      refine .inr fun r hr => ?_
      cases hr with
      | float => rfl
      | spelled h => exact h.elim
  | decimal negative c e =>
      refine .inr fun r hr => ?_
      cases hr with
      | decimal => rfl
      | spelled h => exact h.elim

theorem not_isTooLong_of_fraction (h : v.Denotes q) (hq : ¬∃ n : ℤ, q = n) : ¬v.IsTooLong := by
  rintro ⟨negative, ds, hspells, -⟩
  rcases h.eq_intCast_or_unique with hint | hunique
  · exact hq hint
  · exact hq ⟨_, (hunique _ (.spelled hspells)).symm⟩

theorem toInteger_of_isInfinite (h : v.isInfinite = true) :
    ∃ f, v.toInteger = .error f ∧ f.kind = .overflow := by
  cases v with
  | float x =>
      cases x with
      | infinite negative => exact ⟨_, rfl, rfl⟩
      | nan => cases h
      | finite negative units => cases h
  | decimal x =>
      cases x with
      | infinite negative => exact ⟨_, rfl, rfl⟩
      | nan negative signaling payload => cases h
      | finite negative c e => cases h
  | _ => cases h

theorem kind_of_toInteger {f : Fault} (hv : v.isScalar = true) (hfinite : v.isInfinite = false)
    (h : v.toInteger = .error f) : f.kind = .badValue := by
  cases v with
  | bool b => cases h
  | int n => cases h
  | float x =>
      cases x with
      | finite negative units => cases h
      | infinite negative => cases hfinite
      | nan =>
          cases h
          rfl
  | decimal x =>
      cases x with
      | finite negative c e =>
          rw [toInteger, Decimal.toInt_finite] at h
          cases h
      | infinite negative => cases hfinite
      | nan negative signaling payload =>
          cases h
          rfl
  | text s => exact kind_of_toExcept h
  | bytes bs => exact kind_of_toExcept h
  | buffer kind bs => exact kind_of_toExcept h
  | _ => cases hv

end Value

namespace Dialect

/-- The read is exact or refuses the value, naming the column and its declared type. -/
inductive HeldOrRefused (v : Value) (c : Column) : Except Fault Value → Prop where
  | held {n : ℤ} (h : v.Denotes n) : HeldOrRefused v c (.ok (.int n))
  | refused {f : Fault} (source : String)
      (h : f.kind = .coercion source (upperText (c.typeName.getD "")) (some c.position)) :
      HeldOrRefused v c (.error f)

variable {v : Value} {c : Column}

theorem readObject_integer (hv : v.isScalar = true) {target : String}
    (hc : mssql.conversionTarget? c = some target) :
    mssql.readObject v c =
      match v.toInteger with
      | .ok n => .ok (.int n)
      | .error f =>
          .error (if f.kind.isConversionFault then notConvertible v target c f else f) := by
  unfold readObject
  rw [hc]
  cases v with
  | null => cases hv
  | _ => rfl

theorem conversionTarget?_integer {t : String} (ht : c.typeName = some t)
    (hinteger : upperText t ∈ ["TINYINT", "SMALLINT", "INTEGER", "BIGINT"]) :
    mssql.conversionTarget? c = some (upperText t) := by
  have hcontains : mssql.integerTypes.contains (upperText t) = true :=
    List.contains_iff_mem.mpr hinteger
  unfold conversionTarget?
  rw [ht, Option.getD_some]
  exact if_pos hcontains

section IntegerColumn

variable {target : String} (hc : mssql.conversionTarget? c = some target)
include hc

theorem readObject_of_denotes {q : ℚ} (hv : v.isScalar = true) (hq : v.Denotes q)
    (hlength : ¬v.IsTooLong) : mssql.readObject v c = .ok (.int (cutOff q)) := by
  rw [readObject_integer hv hc, Value.toInteger_of_denotes hq hlength]

/-- An overflow is no failed conversion, so it is not explained. -/
theorem readObject_of_isInfinite (hv : v.isScalar = true) (hinfinite : v.isInfinite = true) :
    ∃ f, mssql.readObject v c = .error f ∧ f.kind = .overflow := by
  obtain ⟨f, hf, hkind⟩ := Value.toInteger_of_isInfinite hinfinite
  have hpasses : f.kind.isConversionFault = false := by
    rw [hkind]
    rfl
  refine ⟨f, ?_, hkind⟩
  rw [readObject_integer hv hc, hf]
  simp only [hpasses, Bool.false_eq_true, if_false]

theorem readObject_of_error {f : Fault} (hv : v.isScalar = true) (hfinite : v.isInfinite = false)
    (hf : v.toInteger = .error f) :
    mssql.readObject v c = .error (notConvertible v target c f) := by
  have hkind : f.kind.isConversionFault = true := by
    rw [Value.kind_of_toInteger hv hfinite hf]
    rfl
  rw [readObject_integer hv hc, hf]
  simp only [hkind, if_true]

theorem not_heldOrRefused_of_isInfinite (hv : v.isScalar = true) (hinfinite : v.isInfinite = true) :
    ¬HeldOrRefused v c (mssql.readObject v c) := by
  obtain ⟨f, hf, hkind⟩ := readObject_of_isInfinite hc hv hinfinite
  rw [hf]
  intro h
  cases h with
  | refused source hrefused => cases hkind.symm.trans hrefused

theorem not_heldOrRefused_of_fraction {q : ℚ} (hv : v.isScalar = true) (hq : v.Denotes q)
    (hfraction : ¬∃ n : ℤ, q = n) : ¬HeldOrRefused v c (mssql.readObject v c) := by
  rw [readObject_of_denotes hc hv hq (Value.not_isTooLong_of_fraction hq hfraction)]
  intro h
  cases h with
  | held hheld =>
      rcases hq.eq_intCast_or_unique with hint | hunique
      · exact hfraction hint
      · exact hfraction ⟨_, (hunique _ hheld).symm⟩

end IntegerColumn

/-- The read of a scalar value is exact or refused if and only if the value is finite and no
fraction. A fraction is cut off, and an infinity overflows. -/
theorem integer_read_exact_iff {t : String} (hv : v.isScalar = true) (ht : c.typeName = some t)
    (hinteger : upperText t ∈ ["TINYINT", "SMALLINT", "INTEGER", "BIGINT"]) :
    (HeldOrRefused v c (mssql.readObject v c) ↔
      v.isInfinite = false ∧ ∀ q, v.Denotes q → ∃ n : ℤ, q = n) ∧
    (∀ q, v.Denotes q → ¬v.IsTooLong → mssql.readObject v c = .ok (.int (cutOff q))) ∧
    (v.isInfinite = true → ∃ f, mssql.readObject v c = .error f ∧ f.kind = .overflow) := by
  have hc := conversionTarget?_integer ht hinteger
  refine ⟨⟨fun h => ⟨?_, fun q hq => ?_⟩, fun ⟨hfinite, hwhole⟩ => ?_⟩,
    fun q hq hlength => readObject_of_denotes hc hv hq hlength,
    fun hinfinite => readObject_of_isInfinite hc hv hinfinite⟩
  · rw [← Bool.not_eq_true]
    exact fun hinfinite => not_heldOrRefused_of_isInfinite hc hv hinfinite h
  · by_contra hfraction
    exact not_heldOrRefused_of_fraction hc hv hq hfraction h
  · cases hread : v.toInteger with
    | ok n =>
        obtain ⟨q, hq, rfl⟩ := Value.denotes_of_toInteger hv hread
        obtain ⟨n, rfl⟩ := hwhole q hq
        rw [readObject_integer hv hc, hread, cutOff_intCast]
        exact .held hq
    | error f =>
        rw [readObject_of_error hc hv hfinite hread]
        refine .refused (sourceName v) ?_
        rw [ht]
        rfl

def wholeNumbers : Column where
  position := 1
  label := "n"
  typeName := some "Integer"

theorem whole_decimal_read_exactly :
    HeldOrRefused (.decimal (.finite false 120 (-1))) wholeNumbers
      (mssql.readObject (.decimal (.finite false 120 (-1))) wholeNumbers) ∧
    mssql.readObject (.decimal (.finite false 120 (-1))) wholeNumbers = .ok (.int 12) := by
  have htwelve : signedRat false (120 * 10 ^ (-1 : ℤ)) = (12 : ℤ) := by norm_num [signedRat]
  have hdenotes := Value.Denotes.decimal false 120 (-1)
  obtain ⟨hiff, hcut, -⟩ := integer_read_exact_iff (v := .decimal (.finite false 120 (-1)))
    (c := wholeNumbers) rfl rfl (by decide)
  refine ⟨hiff.mpr ⟨rfl, fun q hq => ?_⟩, ?_⟩
  · cases hq with
    | decimal => exact ⟨12, htwelve⟩
    | spelled h => exact h.elim
  · refine (hcut _ hdenotes fun ⟨_, _, h, _⟩ => h).trans ?_
    rw [Nat.cast_ofNat, htwelve, cutOff_intCast]

def oneAndHalf : Value := .decimal (.finite false 15 (-1))

theorem oneAndHalf_fraction : ∃ q, oneAndHalf.Denotes q ∧ ¬∃ n : ℤ, q = n := by
  refine ⟨_, .decimal false 15 (-1), ?_⟩
  rintro ⟨n, hn⟩
  have hthree : (3 : ℚ) = 2 * n := by
    rw [← hn]
    norm_num [signedRat]
  have hthree' : (3 : ℤ) = 2 * n := by exact_mod_cast hthree
  omega

theorem infinity_and_fraction_not_refused :
    (¬HeldOrRefused (.float (.infinite false)) wholeNumbers
      (mssql.readObject (.float (.infinite false)) wholeNumbers)) ∧
    ¬HeldOrRefused oneAndHalf wholeNumbers (mssql.readObject oneAndHalf wholeNumbers) := by
  have hc : mssql.conversionTarget? wholeNumbers = some "INTEGER" := by decide
  obtain ⟨q, hq, hfraction⟩ := oneAndHalf_fraction
  exact ⟨not_heldOrRefused_of_isInfinite hc rfl rfl,
    not_heldOrRefused_of_fraction hc rfl hq hfraction⟩

end Dialect

end StatementWalk
