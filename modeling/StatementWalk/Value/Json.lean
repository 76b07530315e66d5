import StatementWalk.Text.Encoding
import StatementWalk.Text.Utf8
import StatementWalk.Value.Kind
import StatementWalk.Value.Display

/-!
# Data interchange text of values

The compact text of a value. Bytes are written as the text they hold, or in base 64 when they hold
none. Decimal numbers keep their digits as a text, and spans are written in seconds.
-/

namespace StatementWalk.Value

open Text

/-- Where a list or a dictionary would reach this depth, writing stops. -/
def depthLimit : UInt8 := 255

/-- The escape of a character inside quotes. Only the quote, the backslash and controls have one. -/
def jsonChar (c : Char) : List Char :=
  if c == '"' then ['\\', '"']
  else if c == '\\' then ['\\', '\\']
  else if c.toNat == 0x08 then ['\\', 'b']
  else if c == '\t' then ['\\', 't']
  else if c == '\n' then ['\\', 'n']
  else if c.toNat == 0x0C then ['\\', 'f']
  else if c == '\r' then ['\\', 'r']
  else if c.toNat < 0x20 then '\\' :: 'u' :: hexDigits 4 c.toNat
  else [c]

def jsonText (s : String) : String :=
  String.ofList ('"' :: s.toList.flatMap jsonChar ++ ['"'])

/-- Bytes as a text: decoded where they are one, in base 64 otherwise. -/
def bytesAsText (bs : Bytes) : String :=
  match decodeUtf8 bs with
  | .ok s => s
  | .error _ => base64 bs

def jsonInt (n : Int) : Except Fault String :=
  if -wordBound ≤ n ∧ n < 2 * wordBound then .ok (toString n)
  else .error (.badType "Integer exceeds 64-bit range")

/-- Values without members of their own. -/
def jsonLeaf : Value → Except Fault String
  | .null => .ok "null"
  | .bool b => .ok (if b then "true" else "false")
  | .int n => jsonInt n
  | .float x => .ok (Binary64.interchange.write x)
  | .decimal x => .ok (jsonText x.text)
  | .text s => .ok (jsonText s)
  | .bytes bs | .buffer _ bs => .ok (jsonText (bytesAsText bs))
  | .timestamp t => .ok (jsonText t.interchangeText)
  | .date d => .ok (jsonText d.text)
  | .time t =>
    if t.zone.isSome then .error (.badType "datetime.time must not have tzinfo set")
    else .ok (jsonText t.clock.text)
  | .span s => .ok (Binary64.interchange.write s.toSeconds)
  | .uuid n => .ok (jsonText (uuidText n))
  | v => .error (.badType ("Type is not JSON serializable: " ++ v.fullFaultName))

def tooDeep : Fault := .badType "Recursion limit reached"

mutual

/-- Writes a value under `depth` enclosing containers. The depth is counted in one byte. Lists and
dictionaries are checked against the limit; a tuple adds to the depth and is not checked. -/
def json (depth : UInt8) : Value → Except Fault String
  | .list items =>
    if depth + 1 = depthLimit then .error tooDeep
    else do return "[" ++ ",".intercalate (← jsonItems (depth + 1) items) ++ "]"
  | .tuple items => do return "[" ++ ",".intercalate (← jsonItems (depth + 1) items) ++ "]"
  | .dict entries =>
    if depth + 1 = depthLimit then .error tooDeep
    else do return "\x7b" ++ ",".intercalate (← jsonEntries (depth + 1) entries) ++ "\x7d"
  | v => jsonLeaf v

def jsonItems (depth : UInt8) : List Value → Except Fault (List String)
  | [] => .ok []
  | v :: rest => do return (← json depth v) :: (← jsonItems depth rest)

def jsonEntries (depth : UInt8) : List (Value × Value) → Except Fault (List String)
  | [] => .ok []
  | (.text k, v) :: rest => do
    return (jsonText k ++ ":" ++ (← json depth v)) :: (← jsonEntries depth rest)
  | _ :: _ => .error (.badType "Dict key must be str")

end

def toJson (v : Value) : Except Fault String := json 0 v

end StatementWalk.Value
