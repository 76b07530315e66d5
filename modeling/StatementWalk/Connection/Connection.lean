import StatementWalk.Session.Driver
import StatementWalk.Record.Config
import StatementWalk.Session.Session
import StatementWalk.Value.Collection
import StatementWalk.Walk.Walk

/-!
# Connections

A connection creates the engine of its configuration when it is initialized and opens a statement
for each run. The statement is closed and the engine's connection released on every path; work is
committed when it ended well and the engine does not commit by itself.
-/

namespace StatementWalk

/-- A configuration with the backend it is used with. -/
structure Connection where
  config : Config
  backend : Backend

/-- An engine's state, and whether the connection refers to an engine. -/
structure Hosted (ε : Type) where
  engine : ε
  live : Bool := false

namespace Connection

variable {ε α : Type}

/-- The connection of a configuration, with the backend of its dialect unless another is given. -/
def ofConfig (config : Config) (backend : Option Backend) : Except Fault Connection :=
  match backend with
  | some b => .ok ⟨config, b⟩
  | none => do return ⟨config, ← Backend.ofName config.dialectName⟩

def onEngine (x : Action ε α) : Action (World (Hosted ε)) α :=
  World.onDriver (x.within Hosted.engine fun e h => { h with engine := e })

def setLive (b : Bool) : Action (World (Hosted ε)) Unit :=
  World.onDriver (Action.modify fun h => { h with live := b })

/-- The settings of the engine. The file-based dialect takes no pool sizes. -/
def settings (c : Config) : EngineSettings where
  echo := c.echoSql
  autocommit := c.autocommit
  pool :=
    if c.dialectName == "sqlite" then none
    else some ⟨c.poolSize, c.maxOverflow, c.poolTimeout⟩

def establish (c : Connection) (e : Engine ε) : Action (World (Hosted ε)) Unit := do
  if (← Action.state).driver.live then return
  else
    onEngine (e.create c.config.url (settings c.config))
    setLive true
    let features := c.backend.capabilities.features
    World.log .debug .connections ("Created " ++ c.config.dialectName ++
      " engine (driver features: " ++
      (if features.isEmpty then "none" else ", ".intercalate features) ++ ")")

def dispose (e : Engine ε) : Action (World (Hosted ε)) Unit := do
  if (← Action.state).driver.live then
    onEngine e.dispose
    setLive false

def notInitialized : Fault :=
  ⟨.runtime, "DatabaseConnection not initialized. Call initialize() first.", none⟩

/-- The text that limits the time of statements, where the dialect has one. -/
def timeoutText? (c : Config) : Option String :=
  c.statementTimeout.bind fun seconds =>
    if c.dialectName == "postgresql" then
      some ("SET statement_timeout = " ++ toString (seconds * 1000))
    else if c.dialectName == "mysql" then
      some ("SET SESSION max_execution_time = " ++ toString (seconds * 1000))
    else none

/-- Runs an action with a connection of the engine, which is released after it. -/
def withConnection (c : Connection) (e : Engine ε) (body : Action (World (Hosted ε)) α) :
    Action (World (Hosted ε)) α := do
  if (← Action.state).driver.live then
    onEngine e.connect
    Action.thenAlways
      (do
        match timeoutText? c.config with
        | some text => onEngine (e.run text)
        | none => pure ()
        body)
      (onEngine e.release)
  else Action.fail notInitialized

def inSession (body : Action (World (Session ε)) α) : Action (World (Hosted ε)) α := fun w =>
  let out := body.run ⟨Session.fresh w.driver.engine, w.journal⟩
  (out.1, ⟨{ w.driver with engine := out.2.driver.cursor }, out.2.journal⟩)

/-- Runs an action with an open statement, which is closed after it. Then the work is committed,
unless the engine commits by itself or the action failed. -/
def withStatement (c : Connection) (e : Engine ε) (own : Option Session.Prepared)
    (body : Statement (Session ε) → Action (World (Session ε)) α) : Action (World (Hosted ε)) α :=
  c.withConnection e do
    let number ← onEngine e.openCursor
    let st := Session.statement c.backend (e.cursor number) own
    let result ← inSession (quietlyClosing (some st.closable) (body st))
    if !c.config.autocommit then onEngine e.commit
    return result

def noParameters (c : Connection) (sql : String) : Fault :=
  ⟨.execution (some sql), c.config.dialectName ++ " driver does not accept bound parameters", none⟩

/-- Executes a text and walks every outcome. With parameters the statement is prepared. -/
def run (c : Connection) (e : Engine ε) (sink : Sink) (sql : String) (params : Option Value) :
    Action (World (Hosted ε)) WalkResult :=
  match params with
  | none =>
    c.withStatement e none fun st => walk c.backend.dialect sink st (some sql)
  | some p =>
    if c.backend.capabilities.preparedStatements then
      c.withStatement e (some ⟨sql, some p⟩) fun st => walk c.backend.dialect sink st none
    else Action.fail (c.noParameters sql)

/-- The first cell of the only row of the first result set. -/
def scalarOf (result : WalkResult) : Except Fault Value :=
  match result.resultSets with
  | [] => .error ⟨.database, "Statement returned no result set", none⟩
  | o :: _ => do
    match ← requireSingle o.rows with
    | v :: _ => return v
    | [] => .error (.badPosition "list" 0)

def scalar (c : Connection) (e : Engine ε) (sql : String) (params : Option Value) :
    Action (World (Hosted ε)) Value := do
  let result ← c.run e (Sink.logging .debug .connections) sql params
  Action.ofExcept (scalarOf result)

end Connection

end StatementWalk
