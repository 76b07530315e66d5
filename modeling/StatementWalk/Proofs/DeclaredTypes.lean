import StatementWalk.Proofs.NormalForm

/-!
# Declared types of columns

One dialect describes all integer columns by the same class and tells their sizes apart by the
precision. Only the columns whose type it can tell in this way are converted when they are read, so
no column of timestamps is.
-/

namespace StatementWalk.Dialect

variable {d : Dialect} {c : Column} {entry : Entry} {position p : Int} {target : String}

/-- The integer types, with the precisions that stand for them. -/
inductive PrecisionNames : Int → String → Prop where
  | tiny : PrecisionNames 3 "TINYINT"
  | small : PrecisionNames 5 "SMALLINT"
  | whole : PrecisionNames 10 "INTEGER"
  | big : PrecisionNames 19 "BIGINT"

/-- The integer type that a description tells, and nothing where it tells none. -/
inductive TellsIntegerType (entry : Entry) : Option String → Prop where
  | named {p : Int} {target : String} (hcode : entry.getD 1 .null = .typeRef "builtins" "int")
      (hp : (entry.getD 4 .null).asInt? = some p) (hname : PrecisionNames p target) :
      TellsIntegerType entry (some target)
  | otherPrecision {p : Int} (hcode : entry.getD 1 .null = .typeRef "builtins" "int")
      (hp : (entry.getD 4 .null).asInt? = some p) (hname : ∀ target, ¬PrecisionNames p target) :
      TellsIntegerType entry none
  | noPrecision (hcode : entry.getD 1 .null = .typeRef "builtins" "int")
      (hp : entry.getD 4 .null = .null) : TellsIntegerType entry none
  | otherCode (hcode : entry.getD 1 .null ≠ .typeRef "builtins" "int") : TellsIntegerType entry none

theorem precisionNames_of_mem (h : (p, target) ∈ precisionTypeNames) : PrecisionNames p target := by
  simp only [precisionTypeNames, List.mem_cons, Prod.mk.injEq, List.not_mem_nil, or_false] at h
  rcases h with ⟨rfl, rfl⟩ | ⟨rfl, rfl⟩ | ⟨rfl, rfl⟩ | ⟨rfl, rfl⟩
  · exact .tiny
  · exact .small
  · exact .whole
  · exact .big

theorem find?_precisionTypeNames (hname : ∀ target, ¬PrecisionNames p target) :
    (precisionTypeNames.find? fun (n, _) => p == n) = none := by
  apply List.find?_eq_none.mpr
  rintro ⟨n, target⟩ hmem heq
  obtain rfl : p = n := by simpa using heq
  exact hname target (precisionNames_of_mem hmem)

theorem declaredType_of_precision (hcode : entry.getD 1 .null = .typeRef "builtins" "int")
    (hp : (entry.getD 4 .null).asInt? = some p) :
    mssql.declaredType entry = .ok ((precisionTypeNames.find? fun (n, _) => p == n).map (·.2)) := by
  simp only [declaredType, hcode]
  cases hprecision : entry.getD 4 .null with
  | bool truth =>
      rw [hprecision] at hp
      cases hp
      rfl
  | int n =>
      rw [hprecision] at hp
      cases hp
      rfl
  | _ =>
      rw [hprecision] at hp
      cases hp

theorem declaredType_of_tellsIntegerType {type? : Option String}
    (h : TellsIntegerType entry type?) :
    mssql.declaredType entry = .ok type? := by
  cases h with
  | named hcode hp hname =>
      rw [declaredType_of_precision hcode hp]
      cases hname <;> rfl
  | otherPrecision hcode hp hname =>
      rw [declaredType_of_precision hcode hp, find?_precisionTypeNames hname]
      rfl
  | noPrecision hcode hp =>
      have hnone : (precisionTypeNames.find? fun (n, _) => Value.null.eqInt n) = none := rfl
      simp only [declaredType, hcode, hp, Value.notAKey?, hnone, Option.map_none]
  | otherCode hcode => simp only [declaredType]

theorem conversionTarget?_of_no_type (d : Dialect) (hname : c.typeName = none) :
    d.conversionTarget? c = none := by
  unfold conversionTarget?
  rw [hname]
  cases d <;> rfl

theorem conversionTarget?_of_precisionNames (h : PrecisionNames p target)
    (hname : c.typeName = some target) : mssql.conversionTarget? c = some target := by
  unfold conversionTarget?
  rw [hname]
  cases h with
  | tiny => decide
  | small => decide
  | whole => decide
  | big => decide

theorem conversionTarget?_of_isTimestampColumn (hdescribed : d.describe position entry = .ok c)
    (hc : d.isTimestampColumn c = true) : d.conversionTarget? c = none := by
  obtain ⟨-, hclass, htype⟩ := describe_eq_ok hdescribed
  cases d with
  | mssql =>
      by_cases hcode : entry.getD 1 .null = .typeRef "builtins" "int"
      · rw [hcode] at hclass
        have hinteger : mssql.isTimestampColumn c = false := by
          rw [isTimestampColumn, hclass]
          decide
        cases hc.symm.trans hinteger
      · rw [declaredType_of_tellsIntegerType (.otherCode hcode)] at htype
        exact conversionTarget?_of_no_type mssql (Except.ok.inj htype).symm
  | _ => rfl

end StatementWalk.Dialect
