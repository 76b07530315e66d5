import StatementWalk.Proofs.CellFaults
import StatementWalk.Proofs.DeclaredTypes
import StatementWalk.Proofs.IntegerColumns

/-!
# Texts in integer columns

One dialect describes all integer columns by the same class and tells their sizes apart by the
precision. A text in such a column is read as an integer. One that is none is refused, except in the
column of small integers, where it is kept. In every other column a text is left as it is.
-/

namespace StatementWalk

open Number

namespace Number

/-- The text is read as the integer: it writes it, in no more digits than are ever read. -/
def ReadsAs (t : String) (n : Int) : Prop :=
  ∃ negative ds, anyNumerals.Writes t.toList negative ds ∧ ds.length ≤ digitLimit ∧
    n = signed negative (ofDigits ds)

theorem intOfText_eq_ok {t : String} {n : Int} : intOfText t = .ok n ↔ ReadsAs t n := by
  constructor
  · intro h
    exact writes_of_readInt (toExcept_eq_ok.mp h)
  · rintro ⟨negative, ds, hwrites, hlength, rfl⟩
    exact toExcept_eq_ok.mpr ((readInt_of_writes hwrites).trans (if_neg (Nat.not_lt.mpr hlength)))

end Number

namespace Dialect

variable {c : Column} {entry : Entry} {position p : Int} {target t : String}

/-- What becomes of a text in a column of an integer type, or of none. -/
inductive TextInColumn (t : String) (position : Int) :
    Option String → Except Fault Value → Prop where
  | read {target : String} {n : Int} (h : ReadsAs t n) :
      TextInColumn t position (some target) (.ok (.int n))
  | kept (h : ∀ n, ¬ReadsAs t n) : TextInColumn t position (some "SMALLINT") (.ok (.text t))
  | refused {target : String} {f : Fault} (h : ∀ n, ¬ReadsAs t n) (htarget : target ≠ "SMALLINT")
      (hf : f.kind = .coercion "char" target (some position)) :
      TextInColumn t position (some target) (.error f)
  | unchanged : TextInColumn t position none (.ok (.text t))

/-- Of the failures to convert a text, the known one is that in a column of small integers. -/
theorem isTextInSmallint_notConvertible (h : PrecisionNames p target) (t : String) (c : Column)
    (f : Fault) :
    isTextInSmallint (notConvertible (.text t) target c f) = (target == "SMALLINT") := by
  have hupper : upperText target = target := by
    cases h with
    | tiny => decide
    | small => decide
    | whole => decide
    | big => decide
  simp [isTextInSmallint, notConvertible, sourceName, hupper]

theorem textInColumn_named (hname : PrecisionNames p target) (htype : c.typeName = some target)
    {r : Except Fault Value} (h : Normalizes mssql c (.text t) r) :
    TextInColumn t c.position (some target) r := by
  have htarget := conversionTarget?_of_precisionNames hname htype
  -- A failed read has one cause only, so the fault carries the names that are then matched.
  have hread : ∀ f, mssql.readObject (.text t) c = .error f →
      (∀ n, ¬ReadsAs t n) ∧ ∃ g, f = notConvertible (.text t) target c g := by
    intro f hf
    cases ht : (Value.text t).toInteger with
    | ok n =>
        rw [readObject_integer rfl htarget, ht] at hf
        cases hf
    | error g =>
        rw [readObject_of_error htarget rfl rfl ht] at hf
        refine ⟨fun n hn => ?_, g, (Except.error.inj hf).symm⟩
        cases ht.symm.trans (intOfText_eq_ok.mpr hn)
  cases h with
  | unconverted hnone => cases htarget.symm.trans hnone
  | null _ hraw => cases hraw
  | integer _ hn => exact .read (intOfText_eq_ok.mp hn)
  | retried _ hf htext =>
      obtain ⟨hnot, g, rfl⟩ := hread _ hf
      rw [isTextInSmallint_notConvertible hname, beq_iff_eq] at htext
      subst htext
      exact .kept hnot
  | refused _ hf htext =>
      obtain ⟨hnot, g, rfl⟩ := hread _ hf
      rw [isTextInSmallint_notConvertible hname, beq_eq_false_iff_ne] at htext
      exact .refused hnot htext rfl

theorem textInColumn_none (htype : c.typeName = none) {r : Except Fault Value}
    (h : Normalizes mssql c (.text t) r) : TextInColumn t c.position none r := by
  rw [(h.corrects (conversionTarget?_of_no_type mssql htype)).eq_of_isCanonical rfl]
  exact .unchanged

theorem textInColumn_of_normalizes {type? : Option String} (htells : TellsIntegerType entry type?)
    (hdescribed : mssql.describe position entry = .ok c) {r : Except Fault Value}
    (h : Normalizes mssql c (.text t) r) : TextInColumn t c.position type? r := by
  have htype : c.typeName = type? := Except.ok.inj
    ((describe_eq_ok hdescribed).2.2.symm.trans (declaredType_of_tellsIntegerType htells))
  cases htells with
  | named _ _ hname => exact textInColumn_named hname htype h
  | otherPrecision => exact textInColumn_none htype h
  | noPrecision => exact textInColumn_none htype h
  | otherCode => exact textInColumn_none htype h

end Dialect

namespace Session

open Dialect

/-- A text is read as an integer, kept or refused as the declared type of its column says. -/
theorem text_follows_declared_type {κ : Type} {b : Backend} {c : Cursor κ} {i : Nat} {s : Session κ}
    {columns : List Column} {column : Column} {entry : Entry} {type? : Option String} {t : String}
    (hb : b.dialect = mssql) (hdescribed : mssql.describe column.position entry = .ok column)
    (htells : TellsIntegerType entry type?) (h : HoldsCell c i columns column (.text t) s)
    (j : Journal) :
    TextInColumn t column.position type?
      ((normalize b.dialect (resultSet b c i columns) column.position).run ⟨s, j⟩).1 := by
  have hcases := h.normalizes b j
  rw [hb] at hcases ⊢
  exact textInColumn_of_normalizes htells hdescribed hcases

def smallEntry : Entry := [.text "n", .typeRef "builtins" "int", .null, .null, .int 5]

def smallColumn : Column where
  position := 1
  label := "n"
  className := some "builtins.int"
  typeName := some "SMALLINT"
  typeCode := .typeRef "builtins" "int"

theorem unreadable_text_kept_in_small_column :
    let rs := resultSet (.ofDialect .mssql) ScriptedCursor.cursor 0 [smallColumn]
    TextInColumn " n/a " 1 (some "SMALLINT")
        ((normalize .mssql rs 1).run ⟨atCell .mssql smallEntry (.text " n/a "), {}⟩).1 ∧
      ((normalize .mssql rs 1).run ⟨atCell .mssql smallEntry (.text " n/a "), {}⟩).1 =
        .ok (.text " n/a ") := by
  have hdescribed : mssql.describe smallColumn.position smallEntry = .ok smallColumn := rfl
  have hholds : HoldsCell ScriptedCursor.cursor 0 [smallColumn] smallColumn (.text " n/a ")
      (atCell .mssql smallEntry (.text " n/a ")) := ⟨rfl, rfl, rfl⟩
  exact ⟨text_follows_declared_type (b := .ofDialect .mssql) rfl hdescribed (.named rfl rfl .small)
    hholds {}, rfl⟩

end Session

end StatementWalk
