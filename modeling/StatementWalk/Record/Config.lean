import StatementWalk.Record.Field
import StatementWalk.Record.Url

/-!
# Configuration of a connection

The address of the database with the sizes of the pool and the settings of a statement.
-/

namespace StatementWalk

open Record

structure Config where
  url : String
  poolSize : Int := 5
  maxOverflow : Int := 10
  /-- Seconds. -/
  poolTimeout : Int := 30
  /-- Every statement is its own transaction. -/
  autocommit : Bool := true
  /-- Seconds. -/
  statementTimeout : Option Int := none
  echoSql : Bool := false
deriving DecidableEq, Repr

namespace Config

def supportedDialects : List String := ["mssql", "mysql", "oracle", "postgresql", "sqlite"]

def readUrl (v : Value) : Checked String := do
  let s ← readText v
  match Url.parse s with
  | .error f => refuse "value_error" ("Value error, Invalid database URL: " ++ f.message) v
  | .ok url =>
    if supportedDialects.contains url.dialectName then return s
    else
      refuse "value_error" ("Value error, Unsupported database dialect: " ++ url.dialectName ++
        ". Supported: " ++ ", ".intercalate supportedDialects) v

def ofFields (r : Fields) : Checked Config :=
  ((((((Config.mk <$> r.required "url" readUrl).and
    (r.withDefault "pool_size" 5 (readIntIn 1 (some 50)))).and
    (r.withDefault "max_overflow" 10 (readIntIn 0 (some 100)))).and
    (r.withDefault "pool_timeout" 30 (readIntIn 1 (some 300)))).and
    (r.withDefault "autocommit" true readFlag)).and
    (r.optional "statement_timeout" (readIntIn 1 (some 3600)))).and
    (r.withDefault "echo_sql" false readFlag)

def check (r : Fields) : Except Fault Config := (ofFields r).orFault "DatabaseConfig"

def urlNames (c : Config) : Url :=
  match Url.parse c.url with
  | .ok url => url
  | .error _ => ⟨[], none⟩

def dialectName (c : Config) : String := c.urlNames.dialectName

def driverName (c : Config) : String := c.urlNames.driverName

def toValue (c : Config) : Value :=
  .dict [(.text "url", .text c.url), (.text "pool_size", .int c.poolSize),
    (.text "max_overflow", .int c.maxOverflow), (.text "pool_timeout", .int c.poolTimeout),
    (.text "autocommit", .bool c.autocommit),
    (.text "statement_timeout", Value.ofInt? c.statementTimeout),
    (.text "echo_sql", .bool c.echoSql)]

end Config

end StatementWalk
