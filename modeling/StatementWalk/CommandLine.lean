import StatementWalk.Connection.Connection

/-!
# The command line

The command runs one text on the database of a URL and prints what comes out, as plain lines or as
JSON. Options may be shortened as long as they stay unambiguous, and two hyphens end them.
-/

namespace StatementWalk.CommandLine

open Text

structure Request where
  sql : Option String := none
  url : Option String := none
  json : Bool := false
deriving DecidableEq, Repr

inductive Refusal where
  | help
  | misuse (message : String)
deriving DecidableEq, Repr

inductive Switch where
  | help
  | url
  | json
deriving DecidableEq, Repr

/-- The spellings of the options, in the order in which choices are listed. -/
def spellings : List (String × Switch) :=
  [("-h", .help), ("--help", .help), ("--url", .url), ("--json", .json)]

def Switch.title : Switch → String
  | .help => "-h/--help"
  | .url => "--url"
  | .json => "--json"

inductive Argument where
  | plain (text : String)
  /-- Two hyphens, after which everything is plain. -/
  | dashes
  | switch (s : Switch) (spelling : String) (attached : Option String)
  | unknown (text : String)
deriving DecidableEq, Repr

def splitAssignment (cs : List Char) : List Char × Option (List Char) :=
  match cs.dropWhile (· != '=') with
  | _ :: value => (cs.takeWhile (· != '='), some value)
  | [] => (cs, none)

/-- The options that a shortened spelling may mean. -/
def candidates (cs : List Char) : List (Switch × String × Option String) :=
  match cs with
  | '-' :: '-' :: _ =>
    let (stem, value) := splitAssignment cs
    spellings.filterMap fun (spelling, s) =>
      if stem.isPrefixOf spelling.toList then some (s, spelling, value.map String.ofList) else none
  | _ =>
    spellings.filterMap fun (spelling, s) =>
      if spelling.toList == cs.take 2 then some (s, spelling, some (String.ofList (cs.drop 2)))
      else if cs.isPrefixOf spelling.toList then some (s, spelling, none)
      else none

/-- A minus sign and a number, which is no option. -/
def isNegativeNumber (cs : List Char) : Bool :=
  match cs with
  | '-' :: body =>
    let body := if body.getLast? == some '\n' then body.dropLast else body
    let rest := body.dropWhile isDigit
    match rest with
    | [] => !body.isEmpty
    | '.' :: places => !places.isEmpty && places.all isDigit
    | _ => false
  | _ => false

def classifyOne (arg : String) : Except Refusal Argument :=
  match arg.toList with
  | '-' :: c :: rest =>
    let cs := '-' :: c :: rest
    let (stem, value) := splitAssignment cs
    match spellings.lookup arg, value, spellings.lookup (String.ofList stem) with
    | some s, _, _ => .ok (.switch s arg none)
    | none, some v, some s => .ok (.switch s (String.ofList stem) (some (String.ofList v)))
    | none, _, _ =>
      match candidates cs with
      | [(s, spelling, attached)] => .ok (.switch s spelling attached)
      | [] =>
        if isNegativeNumber cs || cs.contains ' ' then .ok (.plain arg) else .ok (.unknown arg)
      | many =>
        .error (.misuse ("ambiguous option: " ++ arg ++ " could match " ++
          ", ".intercalate (many.map fun (_, spelling, _) => spelling)))
  | _ => .ok (.plain arg)

def classify : List String → Except Refusal (List Argument)
  | [] => .ok []
  | arg :: rest =>
    if arg == "--" then .ok (.dashes :: rest.map .plain)
    else do return (← classifyOne arg) :: (← classify rest)

structure Draft where
  request : Request
  /-- Whether the place of the text is taken. -/
  taken : Bool := false
  extra : List String := []

def Draft.setSql (d : Draft) (text : String) : Draft :=
  { d with request := { d.request with sql := some text }, taken := true }

def Draft.setUrl (d : Draft) (url : String) : Draft :=
  { d with request := { d.request with url := some url } }

def Draft.setJson (d : Draft) : Draft := { d with request := { d.request with json := true } }

def Draft.addExtra (d : Draft) (text : String) : Draft := { d with extra := d.extra ++ [text] }

def ignoredValue (s : Switch) (value : String) : Refusal :=
  .misuse ("argument " ++ s.title ++ ": ignored explicit argument " ++ quoted value)

/-- What follows a short help option in the same argument: only more of the same may. -/
def helpTail : List Char → Refusal
  | [] => ignoredValue .help ""
  | ['h'] => .help
  | 'h' :: rest => helpTail rest
  | cs => ignoredValue .help (String.ofList cs)

/-- Fills the request argument by argument. The first plain one is the text; two hyphens beside it
belong to it. -/
def fill (d : Draft) : List Argument → Except Refusal Draft
  | [] => .ok d
  | .unknown text :: rest => fill (d.addExtra text) rest
  | .switch .help _ none :: _ => .error .help
  | .switch .help spelling (some value) :: _ =>
    .error (if spelling == "-h" then helpTail value.toList else ignoredValue .help value)
  | .switch .json _ none :: rest => fill d.setJson rest
  | .switch .json _ (some value) :: _ => .error (ignoredValue .json value)
  | .switch .url _ (some value) :: rest => fill (d.setUrl value) rest
  | .switch .url _ none :: .plain value :: rest => fill (d.setUrl value) rest
  | .switch .url _ none :: _ => .error (.misuse "argument --url: expected one argument")
  | .plain text :: .dashes :: rest =>
    if d.taken then fill ((d.addExtra text).addExtra "--") rest else fill (d.setSql text) rest
  | .plain text :: rest =>
      if d.taken then fill (d.addExtra text) rest else fill (d.setSql text) rest
  | .dashes :: .plain text :: rest =>
    if d.taken then fill ((d.addExtra "--").addExtra text) rest else fill (d.setSql text) rest
  | .dashes :: rest => fill (if d.taken then d.addExtra "--" else { d with taken := true }) rest

def request (args : List String) (defaultUrl : Option String) : Except Refusal Request := do
  let d ← fill { request := { url := defaultUrl } } (← classify args)
  if d.extra.isEmpty then return d.request
  else .error (.misuse ("unrecognized arguments: " ++ " ".intercalate d.extra))

def usage : String := "usage: db-result-walker [-h] [--url URL] [--json] [sql]"

def helpText : String :=
  usage ++ "\n\nExecute SQL and print every result set, update count and warning.\n\n" ++
  "positional arguments:\n" ++
  "  sql         SQL to execute (default: read stdin)\n\n" ++
  "options:\n" ++
  "  -h, --help  show this help message and exit\n" ++
  "  --url URL   Database URL (default: $DATABASE_URL)\n" ++
  "  --json      Print the walk result as JSON"

structure Report where
  status : Nat
  output : List String := []
  complaint : String := ""
  log : List LogRecord := []

def misuse (message : String) : Report :=
  { status := 2, complaint := usage ++ "\ndb-result-walker: error: " ++ message }

/-- A request that is complete: a checked configuration and a text to run. -/
structure Job where
  config : Config
  sql : String
  json : Bool

/-- Completes a request. The text is read from the input if the arguments have none. -/
def job (r : Request) (input : String) : Except Refusal Job := do
  match r.url with
  | none | some "" =>
    .error (.misuse "DATABASE_URL environment variable or --url must be set")
  | some url =>
    let sql := r.sql.getD input
    if (stripChars sql.toList).isEmpty then .error (.misuse "no SQL given")
    else
      match Config.check [("url", .text url)] with
      | .ok config => return { config, sql, json := r.json }
      | .error f => .error (.misuse f.message)

/-- The line that reports a failed run. The kinds of this library are named. -/
def failureLine (kindName : FaultKind → String) (f : Fault) : String :=
  if f.kind.isWalkerFault then kindName f.kind ++ ": " ++ f.message
  else "Database error: " ++ f.message

variable {ε : Type}

/-- Runs a text on a connection that is open for as long as the run lasts. -/
def perform (e : Engine ε) (j : Job) : Action (World (Hosted ε)) WalkResult := do
  let c ← Action.ofExcept (Connection.ofConfig j.config none)
  c.establish e
  let sink := if j.json then Sink.logging .debug .commandLine else Sink.collecting
  (c.run e sink j.sql none).thenAlways (Connection.dispose e)

/-- The names of the kinds of faults that this library raises. -/
def faultName : FaultKind → String
  | .execution _ => "ExecutionError"
  | .valueRead _ => "ValueReadError"
  | .coercion .. => "CoercionError"
  | .database => "DatabaseError"
  | .unexpectedDriver => "UnexpectedDriverError"
  | .resourceClose => "ResourceCloseError"
  | _ => "WalkerError"

/-- Runs a job and reports it. Writing the result as data may fail in a way that is not reported. -/
def runJob (e : Engine ε) (j : Job) (engine : ε) : Except Fault Report × ε :=
  let out := (perform e j).run ⟨{ engine }, {}⟩
  let journal := out.2.journal
  let report : Except Fault Report :=
    match out.1 with
    | .error f =>
      .ok { status := 1, output := journal.lines,
            log := journal.log ++ [⟨.error, .commandLine, failureLine faultName f⟩] }
    | .ok result => do
      let extra ← if j.json then (fun s => [s]) <$> result.toJson else pure []
      return { status := 0, output := journal.lines ++ extra, log := journal.log }
  (report, out.2.driver.engine)

/-- Runs the program on its arguments, the address in the environment and the input. -/
def program (e : Engine ε) (args : List String) (defaultUrl : Option String) (input : String)
    (engine : ε) : Except Fault Report × ε :=
  match request args defaultUrl >>= fun r => job r input with
  | .ok j => runJob e j engine
  | .error .help => (.ok { status := 0, output := [helpText] }, engine)
  | .error (.misuse message) => (.ok (misuse message), engine)

end StatementWalk.CommandLine
