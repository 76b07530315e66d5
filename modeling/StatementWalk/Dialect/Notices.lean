import StatementWalk.Dialect.Basic
import StatementWalk.Record.Warning

/-!
# Notices of drivers

Drivers leave what the server said in different places: messages on the cursor, a list of notices on
the connection, or one warning on the cursor. Collecting turns them into notices of one form, and
takes away those that the driver would keep.
-/

namespace StatementWalk

open Text Number Record

structure NoticeBoard where
  /-- The messages of the cursor, each with what it consists of. -/
  messages : List (List Value) := []
  /-- The warning of the cursor, if the cursor has one. -/
  warning : Option Value := none
  /-- The notices of the connection, if there is a connection. -/
  pending : Option Value := none

namespace Dialect

def isStateChar (c : Char) : Bool := decide ('0' ≤ c ∧ c ≤ '9') || decide ('A' ≤ c ∧ c ≤ 'Z')

/-- What stands before a closing parenthesis: a number with a sign, in digits of any script. -/
def codeText? (cs : List Char) : Option (List Char) :=
  let (sign, rest) := match cs with
    | '-' :: r => (['-'], r)
    | r => ([], r)
  let digits := rest.takeWhile isDigit
  match digits, rest.dropWhile isDigit with
  | _ :: _, ')' :: _ => some (sign ++ digits)
  | _, _ => none

/-- The state and the text of the code that a message begins with: five characters in brackets, and
a number in parentheses. -/
def messageTag? (cs : List Char) : Option (String × String) :=
  match cs with
  | '[' :: rest =>
    let state := rest.take 5
    match rest.drop 5 with
    | ']' :: more =>
      if state.length = 5 ∧ state.all isStateChar then
        match more.dropWhile isBlank with
        | '(' :: body => (codeText? body).map fun code => (String.ofList state, String.ofList code)
        | _ => none
      else none
    | _ => none
  | _ => none

/-- Drops the bracketed names of driver and server in front of a message. `fuel` is at least the
length of the text. -/
def dropTagsWithin : Nat → List Char → List Char
  | 0, cs => cs
  | fuel + 1, cs =>
    match cs with
    | '[' :: rest =>
      match rest.dropWhile (· != ']') with
      | ']' :: more => dropTagsWithin fuel more
      | _ => cs
    | _ => cs

def dropTags (cs : List Char) : List Char := dropTagsWithin cs.length cs

/-- The state of printed output, which is no diagnostic. -/
def printedState : String := "01000"

def noticeOfMessage (tag text : Value) : Except Fault Notice := do
  let body ← text.display
  let message := String.ofList (stripChars (dropTags body.toList))
  match messageTag? (← tag.display).toList with
  | none => return { message }
  | some (state, codeText) =>
    let code ← intOfText codeText
    return { code, state := if code = 0 ∧ state = printedState then none else some state, message }

def noticeOfParts : List Value → Except Fault Notice
  | [tag, text] => noticeOfMessage tag text
  | [] => .error (.badValue "not enough values to unpack (expected 2, got 0)")
  | [_] => .error (.badValue "not enough values to unpack (expected 2, got 1)")
  | _ => .error (.badValue "too many values to unpack (expected 2)")

def plainSeverities : List String := ["NOTICE", "INFO", "LOG", "DEBUG"]

/-- A severity in capital letters and the text after its colon, which a blank must follow. -/
def severityOf? (cs : List Char) : Option (String × List Char) :=
  let body := cs.dropWhile isBlank
  let isCapital (c : Char) := decide ('A' ≤ c ∧ c ≤ 'Z')
  match body.takeWhile isCapital, body.dropWhile isCapital with
  | s@(_ :: _), ':' :: c :: rest =>
    if isBlank c then some (String.ofList s, stripChars (c :: rest)) else none
  | _, _ => none

def noticeOfText (s : String) : Notice :=
  match severityOf? s.toList with
  | some (severity, message) =>
    { state := if plainSeverities.contains severity then none else some printedState,
      message := String.ofList message }
  | none => { message := String.ofList (stripChars s.toList) }

/-- What is left of the connection's notices once they are taken away. -/
def emptied : Value → Except Fault Value
  | .list _ => .ok (.list [])
  | .buffer .growable _ => .ok (.buffer .growable [])
  | .buffer .view _ => .error (.badType "cannot modify read-only memory")
  | .dict _ => .error (.badType "unhashable type: 'slice'")
  | v => .error (.badType ("'" ++ v.faultName 200 ++ "' object does not support item deletion"))

/-- Takes the notices of a connection. -/
def takePending (v : Value) : Except Fault (List Notice × Value) :=
  if v.isTruthy then do
    let items ← v.toRow
    let texts ← items.mapM Value.display
    return (texts.map noticeOfText, ← emptied v)
  else .ok ([], v)

/-- The first value unless it counts as false. -/
def orElse (v : Option Value) (other : Except Fault Value) : Except Fault Value :=
  match v with
  | some v => if v.isTruthy then .ok v else other
  | none => other

/-- The notice of a warning object. Its attributes are checked as the fields of a record. -/
def noticeOfWarning (w : Value) : Except Fault Notice := do
  let code ← orElse (w.attribute? "code") (.ok (.int 0))
  let state := (w.attribute? "full_code").getD .null
  let message ← orElse (w.attribute? "message") (.text <$> w.display)
  let record ← (WarningRecord.ofFields
    [("error_code", code), ("sql_state", state), ("message", message)]).orFault "WarningRecord"
  return record.notice

/-- Collects what the server said in the last step, and takes away what the driver would keep. -/
def collect (d : Dialect) (b : NoticeBoard) : Except Fault (List Notice × NoticeBoard) :=
  match d with
  | mssql => do return (← b.messages.mapM noticeOfParts, b)
  | postgresql =>
    match b.pending with
    | none => .ok ([], b)
    | some v => do
      let (notices, left) ← takePending v
      return (notices, { b with pending := some left })
  | oracle =>
    match b.warning with
    | none | some .null => .ok ([], b)
    | some w => do return ([← noticeOfWarning w], b)
  | _ => .ok ([], b)

end Dialect

end StatementWalk
