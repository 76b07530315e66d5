import StatementWalk.Record.Field

/-!
# Columns

The description of one column of a result set.
-/

namespace StatementWalk

open Record

structure Column where
  /-- Counted from one. -/
  position : Int
  label : String
  /-- The implementation class that the driver reports. -/
  className : Option String := none
  /-- The declared type, where the driver tells it. -/
  typeName : Option String := none
  typeCode : Value := .null

instance : Inhabited Column := ⟨{ position := 1, label := "" }⟩

namespace Column

def ofFields (r : Fields) : Checked Column :=
  ((((Column.mk <$> r.required "position" (readIntIn 1 none)).and
    (r.required "label" readText)).and
    (r.optional "class_name" readText)).and
    (r.optional "type_name" readText)).and
    (.ok ((r.lookup "type_code").getD .null))

def toValue (c : Column) : Value :=
  .dict [(.text "position", .int c.position), (.text "label", .text c.label),
    (.text "class_name", Value.ofText? c.className), (.text "type_name", Value.ofText? c.typeName),
    (.text "type_code", exported c.typeCode)]

end Column

end StatementWalk
