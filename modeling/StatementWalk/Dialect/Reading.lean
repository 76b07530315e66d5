import StatementWalk.Dialect.Description

/-!
# Generic reads and their corrections

A cell is first read as the driver gives it, integers of a declared type being converted. The value
then runs through an ordered table of corrections; the first one that applies decides how the cell
is read again.
-/

namespace StatementWalk

open Text

inductive Reading where
  | text
  | bytes
  | timestamp
  | date
deriving DecidableEq, Repr

def Reading.convert : Reading → Value → Except Fault Value
  | .text, v => Value.ofText? <$> v.toText
  | .bytes, v => Value.ofBytes? <$> v.toBytes
  | .timestamp, v => Value.ofTimestamp? <$> v.toTimestamp
  | .date, v => Value.ofDate? <$> v.toDate

structure Correction where
  name : String
  applies : Value → Column → Except Fault Bool
  reading : Column → Reading

namespace Dialect

/-- The name by which a failed conversion calls the class of a value. -/
def sourceName : Value → String
  | .text _ => "char"
  | v => v.className

def upperText (s : String) : String := String.ofList (upperChars s.toList)

/-- The declared type that a column is converted to, if its cells are converted. -/
def conversionTarget? (d : Dialect) (c : Column) : Option String :=
  let target := upperText (c.typeName.getD "")
  if d.integerTypes.contains target then some target else none

/-- A value that does not convert to the declared type of its column. -/
def notConvertible (v : Value) (target : String) (c : Column) (f : Fault) : Fault :=
  ⟨.coercion (sourceName v) target (some c.position),
    "The conversion from " ++ sourceName v ++ " to " ++ target ++ " is unsupported.",
    some f.kind⟩

def readObject (d : Dialect) (v : Value) (c : Column) : Except Fault Value :=
  match d.conversionTarget? c, v with
  | none, v => .ok v
  | some _, .null => .ok .null
  | some target, v =>
    match v.toInteger with
    | .ok n => .ok (.int n)
    | .error f => .error (if f.kind.isConversionFault then notConvertible v target c f else f)

def unreadableSmallint : String := "The conversion from char to SMALLINT is unsupported."

/-- Whether a failed generic read is the known one of characters in a small integer column, for
which the cell is read as text. -/
def isTextInSmallint (f : Fault) : Bool :=
  match f.kind with
  | .coercion source target _ => source == "char" && upperText target == "SMALLINT"
  | _ => Value.hasInfix unreadableSmallint.toList f.message.toList

def isKind (kind : LargeObjectKind) (v : Value) : Except Fault Bool := do
  return (← v.largeObjectKind) == some kind

def isOfClass (name : String) (v : Value) : Except Fault Bool := do
  return name.toList.isPrefixOf (← v.implementationName).toList

/-- Corrections for the wrapper types of one dialect. -/
def vendorCorrections (d : Dialect) : List Correction :=
  match d with
  | oracle =>
    [{ name := "oracle-timestamp"
       applies := fun v _ => isOfClass "oracle.sql.TIMESTAMP" v
       reading := fun _ => .timestamp },
     { name := "oracle-date"
       applies := fun v _ => isOfClass "oracle.sql.DATE" v
       reading := fun c => if d.isTimestampColumn c then .timestamp else .date }]
  | _ => []

def isBareDate : Value → Bool
  | .date _ => true
  | _ => false

def corrections (d : Dialect) : List Correction :=
  [{ name := "binary-large-object"
     applies := fun v _ => isKind .binary v
     reading := fun _ => .bytes },
   { name := "character-large-object"
     applies := fun v _ => isKind .character v
     reading := fun _ => .text }] ++
  d.vendorCorrections ++
  [{ name := "date-in-timestamp-column"
     applies := fun v c => .ok (isBareDate v && d.isTimestampColumn c)
     reading := fun _ => .timestamp },
   { name := "non-canonical-as-text"
     applies := fun v _ => .ok (!v.isCanonical)
     reading := fun _ => .text }]

def firstApplying (v : Value) (c : Column) : List Correction → Except Fault (Option Correction)
  | [] => .ok none
  | q :: rest => do
    if ← q.applies v c then return some q else firstApplying v c rest

def correctionOf (d : Dialect) (v : Value) (c : Column) : Except Fault (Option Correction) :=
  firstApplying v c d.corrections

end Dialect

end StatementWalk
