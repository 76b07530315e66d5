import StatementWalk.Text.Case
import StatementWalk.Value.Basic

/-!
# Declared types

Names of declared types: those that drivers use numbers for, and those that are numeric.
-/

namespace StatementWalk

open Text

namespace Dialect

/-- Declared types by the number that a driver uses for a field. -/
def fieldTypeNames : List (Int × String) :=
  [(0, "DECIMAL"), (1, "TINYINT"), (2, "SMALLINT"), (3, "INTEGER"), (4, "FLOAT"), (5, "DOUBLE"),
    (7, "TIMESTAMP"), (8, "BIGINT"), (9, "MEDIUMINT"), (10, "DATE"), (11, "TIME"),
    (12, "DATETIME"), (13, "YEAR"), (15, "VARCHAR"), (16, "BIT"), (245, "JSON"),
    (246, "DECIMAL"), (252, "BLOB"), (253, "VARCHAR"), (254, "CHAR")]

/-- Integer types by their precision, where the driver has one class for all of them. -/
def precisionTypeNames : List (Int × String) :=
  [(3, "TINYINT"), (5, "SMALLINT"), (10, "INTEGER"), (19, "BIGINT")]

end Dialect

namespace SqlType

def unknown : Int := -0x80000000

def numeric : List String :=
  ["BIT", "BIGINT", "DECIMAL", "DOUBLE", "FLOAT", "INTEGER", "NUMERIC", "REAL", "SMALLINT",
    "TINYINT"]

/-- Whether a value is the name of a numeric type, in any letter case and with outer blanks. -/
def isNumeric : Value → Bool
  | .text name => numeric.contains (String.ofList (upperChars (stripChars name.toList)))
  | _ => false

end SqlType

end StatementWalk
