import StatementWalk.Dialect.Basic
import StatementWalk.Record.Column

/-!
# Descriptions of columns

A driver describes a column by up to seven values: name, type code, two sizes, precision, scale and
whether it may be null. From them a dialect derives the class and the declared type of the column.
-/

namespace StatementWalk

abbrev Entry := List Value

namespace Dialect

/-- Looks up a number or a name; numbers of any kind are compared by value. -/
def lookupClass (d : Dialect) (key : Value) : Option String :=
  match key with
  | .text name => d.nameClasses.lookup name
  | key => (d.codeClasses.find? fun (n, _) => key.eqInt n).map (·.2)

/-- The class of the values of a type code, if it is known. -/
def classOfCode (d : Dialect) (code : Value) : Option String :=
  match code with
  | .null => none
  | .typeRef module name => some (module ++ "." ++ name)
  | code =>
    let key := (code.attribute? "name").getD code
    if (Value.notAKey? key).isSome then none else d.lookupClass key

/-- The declared type of a column, if it can be derived. -/
def declaredType (d : Dialect) (entry : Entry) : Except Fault (Option String) :=
  match d with
  | mysql =>
    match (entry.getD 1 .null).asInt? with
    | some n => .ok (fieldTypeNames.lookup n)
    | none => .ok none
  | mssql =>
    match entry.getD 1 .null with
    | .typeRef "builtins" "int" =>
      let precision := entry.getD 4 .null
      match Value.notAKey? precision with
      | some f => .error f
      | none => .ok ((precisionTypeNames.find? fun (n, _) => precision.eqInt n).map (·.2))
    | _ => .ok none
  | _ => .ok none

/-- The column at a position, counted from one. -/
def describe (d : Dialect) (position : Int) (entry : Entry) : Except Fault Column := do
  let code := entry.getD 1 .null
  let label ← match entry with
    | [] => .error (.badPosition "tuple" 0)
    | name :: _ => name.display
  let declared ← d.declaredType entry
  if position < 1 then
    .error (Record.faultOf "ColumnDescriptor"
      [⟨["position"], "greater_than_equal", "Input should be greater than or equal to 1",
        .int position⟩])
  else
    return { position, label, className := d.classOfCode code, typeName := declared,
             typeCode := code }

/-- The columns of a description, numbered from `position` on. -/
def describeAll (d : Dialect) (position : Int) : List Entry → Except Fault (List Column)
  | [] => .ok []
  | entry :: rest => do
    let column ← d.describe position entry
    return column :: (← d.describeAll (position + 1) rest)

def isTimestampColumn (d : Dialect) (c : Column) : Bool :=
  match c.className with
  | some name => d.timestampClasses.contains name
  | none => false

end Dialect

end StatementWalk
