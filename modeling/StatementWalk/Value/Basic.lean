import StatementWalk.Calendar.Clock
import StatementWalk.Number.Decimal

/-!
# Driver values

What a driver may hand over as a cell, a parameter or a type code. Most of it is plain data. Streams
carry what is still unread, and a driver object is known only by its class, its text, its attributes
and the outcome of each of its methods.
-/

namespace StatementWalk

open Text

/-- Byte buffers other than a detached byte string. -/
inductive BufferKind where
  | growable
  | view
deriving DecidableEq, Repr

/-- A named part of a driver object. A method gives the same outcome at each call. -/
inductive Member (α : Type) where
  | attribute (value : α)
  | method (outcome : Except Fault α)

inductive Value where
  | null
  | bool (b : Bool)
  | int (n : Int)
  | float (x : Binary64)
  | decimal (x : Decimal)
  | text (s : String)
  | bytes (bs : Bytes)
  | buffer (kind : BufferKind) (bs : Bytes)
  | timestamp (t : Timestamp)
  | date (d : Date)
  | time (t : TimeOfDay)
  | span (s : Span)
  /-- A universally unique identifier, as the number it is. -/
  | uuid (n : Nat)
  | list (items : List Value)
  | tuple (items : List Value)
  | dict (entries : List (Value × Value))
  | typeRef (module name : String)
  | textStream (unread : String)
  | byteStream (unread : Bytes)
  /-- A value of a built-in class of which no more than its class and its text are known. -/
  | sealed (module name shown : String)
  /-- A driver object. A bound one can be read only while its row is current. -/
  | object (module name shown : String) (bound : Bool) (members : List (String × Member Value))

namespace Value

instance : Inhabited Value := ⟨.null⟩

def ofText? : Option String → Value
  | some s => .text s
  | none => .null

def ofBytes? : Option Bytes → Value
  | some bs => .bytes bs
  | none => .null

def ofTimestamp? : Option Timestamp → Value
  | some t => .timestamp t
  | none => .null

def ofDate? : Option Date → Value
  | some d => .date d
  | none => .null

def ofInt? : Option Int → Value
  | some n => .int n
  | none => .null

def isCanonical : Value → Bool
  | .bool _ | .int _ | .float _ | .decimal _ | .text _ | .bytes _ | .timestamp _ | .date _ => true
  | _ => false

def isNull : Value → Bool
  | .null => true
  | _ => false

/-- Whether a value counts as true: zeros and empty collections do not. -/
def isTruthy : Value → Bool
  | .null => false
  | .bool b => b
  | .int n => n != 0
  | .float x => !x.isZero
  | .decimal x => !x.isZero
  | .text s => !s.isEmpty
  | .bytes bs | .buffer _ bs => !bs.isEmpty
  | .span s => s.micros != 0
  | .list items | .tuple items => !items.isEmpty
  | .dict entries => !entries.isEmpty
  | _ => true

/-- The number that a Boolean or an integer stands for. -/
def asInt? : Value → Option Int
  | .bool b => some (if b then 1 else 0)
  | .int n => some n
  | _ => none

/-- Numeric equality with an integer, whatever kind of number the value is. -/
def eqInt (v : Value) (n : Int) : Bool :=
  match v with
  | .bool b => (if b then 1 else 0) == n
  | .int m => m == n
  | .float x => x.eqInt n
  | .decimal x => x.eqInt n
  | _ => false

def notAKey? : Value → Option Fault
  | .list _ => some (.badType "unhashable type: 'list'")
  | .dict _ => some (.badType "unhashable type: 'dict'")
  | .buffer .growable _ => some (.badType "unhashable type: 'bytearray'")
  | .tuple items => notAKeyAmong? items
  | .decimal x =>
      if x.isSignaling then some (.badType "Cannot hash a signaling NaN value.") else none
  | _ => none
where
  notAKeyAmong? : List Value → Option Fault
    | [] => none
    | v :: rest =>
      match notAKey? v with
      | some f => some f
      | none => notAKeyAmong? rest

end Value

end StatementWalk
