import StatementWalk.Calendar.TimestampText
import StatementWalk.Value.Json
import StatementWalk.Value.LargeObject

/-!
# Conversions of driver values

The typed readings of a cell: as text, bytes, timestamp, date or integer. Large objects are read
first; objects of a bridge are asked for the value they wrap.
-/

namespace StatementWalk

open Text Number Calendar

def Fault.ofRefusal (r : DecodeRefusal) : Fault := ⟨.undecodable, r.message, none⟩

namespace Value

def decodeText (bs : Bytes) : Except Fault String := (decodeUtf8 bs).mapError Fault.ofRefusal

/-- A value with its content read if it is a large object. -/
def materialized (v : Value) : Except Fault Value := do
  match ← v.largeObjectKind with
  | some _ => v.readLargeObject
  | none => return v

def textOfContent : Value → Except Fault String
  | .bytes bs | .buffer .growable bs => decodeText bs
  | .dict entries => toJson (.dict entries)
  | .list items => toJson (.list items)
  | v => v.display

def toText : Value → Except Fault (Option String)
  | .null => .ok none
  | .text s => .ok (some s)
  | v => do return some (← textOfContent (← v.materialized))

def linesBy {α : Type} (ends : α → Bool) : List α → List (List α)
  | [] => []
  | c :: rest =>
    if ends c then [c] :: linesBy ends rest
    else match linesBy ends rest with
      | line :: more => (c :: line) :: more
      | [] => [[c]]

/-- The members of a collection, as the cells of a row. A stream has its lines. -/
def toRow : Value → Except Fault (List Value)
  | .list items | .tuple items => .ok items
  | .text s => .ok (s.toList.map fun c => .text (String.singleton c))
  | .dict entries => .ok (entries.map Prod.fst)
  | .bytes bs | .buffer _ bs => .ok (bs.map fun b => .int b.toNat)
  | .textStream unread =>
    .ok ((linesBy (· == '\n') unread.toList).map fun cs => .text (String.ofList cs))
  | .byteStream unread => .ok ((linesBy (· == 10) unread).map .bytes)
  | v => .error (.badType ("'" ++ v.faultName 200 ++ "' object is not iterable"))

def toByte (v : Value) : Except Fault UInt8 :=
  match v.asInt? with
  | some n =>
    if 0 ≤ n ∧ n < 256 then .ok (UInt8.ofNat n.toNat)
    else .error (.badValue "bytes must be in range(0, 256)")
  | none =>
      .error (.badType ("'" ++ v.faultName 200 ++ "' object cannot be interpreted as an integer"))

/-- The longest byte string, in bytes, that memory can hold. -/
def memoryBound : Nat := Nat.pow 2 40

/-- The room, in bytes, that a byte string needs beside its content. -/
def bytesOverhead : Nat := 33

/-- A byte string of zeros. -/
def zeroBytes (n : Int) : Except Fault Bytes :=
  if n < -wordBound ∨ wordBound ≤ n then
    .error (.overflow "cannot fit 'int' into an index-sized integer")
  else if n < 0 then .error (.badValue "negative count")
  else if wordBound - 1 - bytesOverhead < n then .error (.overflow "byte string is too large")
  else if n < memoryBound then .ok (List.replicate n.toNat 0)
  else .error ⟨.outOfMemory, "", none⟩

/-- The bytes of a value that is no large object. A number counts zero bytes, and a collection gives
one byte for each member; the lines of a stream are no bytes. -/
def bytesOfContent : Value → Except Fault Bytes
  | .text s => .ok (encodeUtf8 s)
  | .bytes bs | .buffer _ bs => .ok bs
  | .bool b => zeroBytes (if b then 1 else 0)
  | .int n => zeroBytes n
  | .list items | .tuple items => items.mapM toByte
  | .dict entries => entries.mapM fun (k, _) => toByte k
  | .textStream unread => do (← (textStream unread).toRow).mapM toByte
  | .byteStream unread => do (← (byteStream unread).toRow).mapM toByte
  | v => .error (.badType ("cannot convert '" ++ v.faultName 200 ++ "' object to bytes"))

/-- A value as bytes. -/
def toBytes : Value → Except Fault (Option Bytes)
  | .null => .ok none
  | .bytes bs => .ok (some bs)
  | v => do return some (← bytesOfContent (← v.materialized))

/-- A value that wraps no other value as a timestamp. -/
def plainTimestamp : Value → Except Fault (Option Timestamp)
  | .null => .ok none
  | .timestamp t => .ok (some t)
  | .date d => .ok (some (.ofDate d))
  | .bytes bs => do
    let s ← (decodeAscii bs).mapError Fault.ofRefusal
    return some (← parseTimestamp s)
  | v => do return some (← parseTimestamp (← v.display))

mutual

/-- A value as a timestamp. An object that knows its timestamp is asked for it. -/
def toTimestamp : Value → Except Fault (Option Timestamp)
  | .object module name shown bound members =>
    match timestampVia "timestampValue" members with
    | some outcome => outcome
    | none =>
      match timestampVia "to_pydatetime" members with
      | some outcome => outcome
      | none => plainTimestamp (.object module name shown bound [])
  | v => plainTimestamp v

/-- The timestamp that the named member gives, if it can be called. -/
def timestampVia (accessor : String) :
    List (String × Member Value) → Option (Except Fault (Option Timestamp))
  | [] => none
  | (key, m) :: rest =>
    if accessor == key then
      match m with
      | .method (.ok v) => some (toTimestamp v)
      | .method (.error f) => some (.error f)
      | .attribute (.typeRef module name) => some (callClass module name >>= plainTimestamp)
      | .attribute _ => none
    else timestampVia accessor rest

end

/-- A text as a date: ten characters are a date, more a timestamp. -/
def dateOfText (s : String) : Except Fault Date := do
  let body := stripChars s.toList
  if 10 < body.length then return (← parseTimestamp (String.ofList body)).date
  else dateOfIso (String.ofList body)

/-- A value that wraps no other value as a date. -/
def plainDate : Value → Except Fault (Option Date)
  | .null => .ok none
  | .timestamp t => .ok (some t.date)
  | .date d => .ok (some d)
  | v => do return some (← dateOfText (← v.display))

mutual

/-- A value as a date. An object that knows its date is asked for it. -/
def toDate : Value → Except Fault (Option Date)
  | .object module name shown bound members =>
    match dateVia members with
    | some outcome => outcome
    | none => plainDate (.object module name shown bound [])
  | v => plainDate v

/-- The date that an object gives, if it can be asked. -/
def dateVia : List (String × Member Value) → Option (Except Fault (Option Date))
  | [] => none
  | (key, m) :: rest =>
    if "dateValue" == key then
      match m with
      | .method (.ok v) => some (toDate v)
      | .method (.error f) => some (.error f)
      | .attribute (.typeRef module name) => some (callClass module name >>= plainDate)
      | .attribute _ => none
    else dateVia rest

end

/-- A value as an integer. Texts and bytes are read, other numbers are cut off towards zero. -/
def toInteger : Value → Except Fault Int
  | .bool b => .ok (if b then 1 else 0)
  | .int n => .ok n
  | .float x =>
    match x with
    | .nan => .error (.badValue "cannot convert float NaN to integer")
    | .infinite _ => .error (.overflow "cannot convert float infinity to integer")
    | .finite negative units => .ok ((Binary64.finite negative units).truncate?.getD 0)
  | .decimal x => x.toInt
  | .text s => intOfText s
  | .bytes bs | .buffer _ bs => intOfBytes bs
  | .uuid n => .ok n
  | v =>
    .error (.badType ("int() argument must be a string, a bytes-like object or a real number, " ++
      "not '" ++ v.faultName 200 ++ "'"))

def cellText : Value → Except Fault String
  | .null => .ok "NULL"
  | .bytes bs => .ok ("0x" ++ hexOfBytes bs)
  | v => v.display

end Value

end StatementWalk
