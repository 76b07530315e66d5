import StatementWalk.Record.Field

/-!
# Warnings

A driver attaches warnings to an execution step as a chain of records. A record with neither an
error code nor a state is plain output of the server; every other one is a diagnostic.
-/

namespace StatementWalk

open Record

/-- What one record of a chain says. -/
structure Notice where
  /-- The vendor's code, zero if there is none. -/
  code : Int := 0
  state : Option String := none
  message : String
deriving DecidableEq, Repr

inductive WarningRecord where
  | mk (notice : Notice) (next : Option WarningRecord)

namespace WarningRecord

def notice : WarningRecord → Notice
  | ⟨n, _⟩ => n

def single (n : Notice) : WarningRecord := ⟨n, none⟩

def before (r : WarningRecord) (rest : Option WarningRecord) : WarningRecord := ⟨r.notice, rest⟩

/-- Links records into a chain and gives its head. Links that they already had are lost. -/
def chain (records : List WarningRecord) : Option WarningRecord :=
  records.foldr (fun r head => some (r.before head)) none

def notices : WarningRecord → List Notice
  | ⟨n, none⟩ => [n]
  | ⟨n, some rest⟩ => n :: rest.notices

def noticesOf : Option WarningRecord → List Notice
  | none => []
  | some r => r.notices

theorem noticesOf_before (r : WarningRecord) (rest : Option WarningRecord) :
    noticesOf (some (r.before rest)) = r.notice :: noticesOf rest := by
  cases rest <;> rfl

theorem noticesOf_chain (records : List WarningRecord) :
    noticesOf (chain records) = records.map notice := by
  induction records with
  | nil => rfl
  | cons r rest ih => simp only [List.map_cons, ← ih]; exact noticesOf_before r (chain rest)

def tooDeep {α : Type} (v : Value) : Checked α :=
  refuse "recursion_depth_exceeded" "Recursion error - maximum validation depth exceeded" v

/-- Reads the fields of a record and of the records that it links to, of which there may be
`linked`. -/
def ofFieldsWithin (linked : Nat) (r : Fields) : Checked WarningRecord :=
  ((((fun code state message next => ⟨⟨code, state, message⟩, next⟩) <$>
    r.withDefault "error_code" 0 readInt).and
    (r.optional "sql_state" readText)).and
    (r.required "message" readText)).and
    (r.optional "next_warning" (match linked with
      | 0 => tooDeep
      | n + 1 => readRecord "WarningRecord" (ofFieldsWithin n)))

/-- The number of records that a chain may have when it is read. -/
def chainLimit : Nat := 255

def ofFields (r : Fields) : Checked WarningRecord := ofFieldsWithin (chainLimit - 1) r

def toValue : WarningRecord → Value
  | ⟨n, next⟩ =>
    .dict [(.text "error_code", .int n.code), (.text "sql_state", Value.ofText? n.state),
      (.text "message", .text n.message),
      (.text "next_warning",
        match next with
        | none => .null
        | some r => r.toValue)]

end WarningRecord

inductive WarningKind where
  | info
  | diagnostic
deriving DecidableEq, Repr

def WarningKind.name : WarningKind → String
  | .info => "info"
  | .diagnostic => "diagnostic"

structure ClassifiedWarning where
  kind : WarningKind
  message : String
  code : Int := 0
  state : Option String := none
deriving DecidableEq, Repr

def readWarningKind (v : Value) : Checked WarningKind :=
  match v with
  | .text "info" => .ok .info
  | .text "diagnostic" => .ok .diagnostic
  | v => refuse "literal_error" "Input should be 'info' or 'diagnostic'" v

namespace ClassifiedWarning

def ofFields (r : Fields) : Checked ClassifiedWarning :=
  (((ClassifiedWarning.mk <$> r.required "kind" readWarningKind).and
    (r.required "message" readText)).and
    (r.withDefault "error_code" 0 readInt)).and
    (r.optional "sql_state" readText)

def isInfo (w : ClassifiedWarning) : Bool := w.kind == .info

def render (w : ClassifiedWarning) : Except Fault String :=
  match w.kind with
  | .info => .ok ("SQLOUT: " ++ w.message)
  | .diagnostic => do
    let code ← Number.intText w.code
    return "***** Database Message *****\nCode:   " ++ code ++ "\nMessage:  " ++ w.message ++
      "\nSQLState: " ++ w.state.getD "None"

def toValue (w : ClassifiedWarning) : Value :=
  .dict [(.text "kind", .text w.kind.name), (.text "message", .text w.message),
    (.text "error_code", .int w.code), (.text "sql_state", Value.ofText? w.state)]

end ClassifiedWarning

/-- Plain output has neither a code nor a state. -/
def Notice.classify (n : Notice) : ClassifiedWarning :=
  if n.code = 0 ∧ n.state = none then { kind := .info, message := n.message }
  else { kind := .diagnostic, message := n.message, code := n.code, state := n.state }

theorem Notice.isInfo_classify (n : Notice) :
    n.classify.isInfo = true ↔ n.code = 0 ∧ n.state = none := by
  unfold Notice.classify ClassifiedWarning.isInfo
  split <;> simp_all

end StatementWalk
