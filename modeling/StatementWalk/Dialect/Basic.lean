import StatementWalk.Record.Field
import StatementWalk.Text.Case
import StatementWalk.Value.SqlType

/-!
# Dialects

The databases that can be walked, each with the type codes of its driver and what the driver can
report: several outcomes, warnings, bound parameters. The plain dialect stands for a driver about
which nothing is known.
-/

namespace StatementWalk

open Record Text

/-- What a driver can report about an execution. -/
structure Capabilities where
  multipleResults : Bool := false
  warnings : Bool := false
  preparedStatements : Bool := true
deriving DecidableEq, Repr

namespace Capabilities

def ofFields (r : Fields) : Checked Capabilities :=
  ((Capabilities.mk <$> r.withDefault "multiple_results" false readFlag).and
    (r.withDefault "warnings" false readFlag)).and
    (r.withDefault "prepared_statements" true readFlag)

def fields (c : Capabilities) : List (String × Bool) :=
  [("multiple_results", c.multipleResults), ("warnings", c.warnings),
    ("prepared_statements", c.preparedStatements)]

def toValue (c : Capabilities) : Value := .dict (c.fields.map fun (k, b) => (.text k, .bool b))

def features (c : Capabilities) : List String := (c.fields.filter (·.2)).map (·.1)

end Capabilities

inductive Dialect where
  | sqlite
  | postgresql
  | mysql
  | mssql
  | oracle
  | plain
deriving DecidableEq, Repr

namespace Dialect

def named : List (String × Dialect) :=
  [("sqlite", sqlite), ("postgresql", postgresql), ("mysql", mysql), ("mssql", mssql),
    ("oracle", oracle)]

def capabilities : Dialect → Capabilities
  | sqlite => { multipleResults := false, warnings := false }
  | postgresql => { multipleResults := false, warnings := true }
  | mysql => { multipleResults := true, warnings := false }
  | mssql => { multipleResults := true, warnings := true }
  | oracle => { multipleResults := false, warnings := true }
  | plain => { multipleResults := true, warnings := true }

def timestampClass : String := "datetime.datetime"

def dateClass : String := "datetime.date"

def timestampClasses : Dialect → List String
  | oracle => [timestampClass, "java.sql.Timestamp", "oracle.sql.TIMESTAMP"]
  | _ => [timestampClass]

/-- Classes by the number that a driver uses for a type. -/
def codeClasses : Dialect → List (Int × String)
  | postgresql =>
    [(16, "builtins.bool"), (17, "builtins.memoryview"), (20, "builtins.int"),
      (21, "builtins.int"), (23, "builtins.int"), (25, "builtins.str"), (700, "builtins.float"),
      (701, "builtins.float"), (1042, "builtins.str"), (1043, "builtins.str"), (1082, dateClass),
      (1083, "datetime.time"), (1114, timestampClass), (1184, timestampClass),
      (1700, "decimal.Decimal")]
  | mysql =>
    [(0, "decimal.Decimal"), (1, "builtins.int"), (2, "builtins.int"), (3, "builtins.int"),
      (4, "builtins.float"), (5, "builtins.float"), (7, timestampClass), (8, "builtins.int"),
      (9, "builtins.int"), (10, dateClass), (11, "datetime.timedelta"), (12, timestampClass),
      (13, "builtins.int"), (15, "builtins.str"), (246, "decimal.Decimal"),
      (252, "builtins.bytes"), (253, "builtins.str"), (254, "builtins.str")]
  | _ => []

/-- Classes by the name that a driver uses for a type. -/
def nameClasses : Dialect → List (String × String)
  | oracle =>
    [("DB_TYPE_DATE", timestampClass), ("DB_TYPE_TIMESTAMP", timestampClass),
      ("DB_TYPE_TIMESTAMP_TZ", timestampClass), ("DB_TYPE_TIMESTAMP_LTZ", timestampClass),
      ("DB_TYPE_CHAR", "builtins.str"), ("DB_TYPE_NCHAR", "builtins.str"),
      ("DB_TYPE_VARCHAR", "builtins.str"), ("DB_TYPE_NVARCHAR", "builtins.str"),
      ("DB_TYPE_RAW", "builtins.bytes"), ("DB_TYPE_BLOB", "oracledb.LOB"),
      ("DB_TYPE_CLOB", "oracledb.LOB"), ("DB_TYPE_NCLOB", "oracledb.LOB")]
  | _ => []

/-- The declared types whose cells are converted to integers when they are read. -/
def integerTypes : Dialect → List String
  | mssql => ["TINYINT", "SMALLINT", "INTEGER", "BIGINT"]
  | _ => []

end Dialect

/-- A dialect with what the driver at hand can report. -/
structure Backend where
  dialect : Dialect
  capabilities : Capabilities
deriving DecidableEq, Repr

namespace Backend

def ofDialect (d : Dialect) : Backend := ⟨d, d.capabilities⟩

def ofName (name : String) : Except Fault Backend :=
  match Dialect.named.lookup name with
  | some d => .ok (ofDialect d)
  | none =>
    .error (.badValue ("Unsupported database dialect: " ++ name ++ ". Supported dialects: " ++
      ", ".intercalate (Dialect.named.map (·.1))))

end Backend

end StatementWalk
