import StatementWalk.Text.Case
import StatementWalk.Value.Member

/-!
# Large objects

A large object holds the content of a cell outside the row: a buffer, a stream, or a driver object
that can be read. A bound one can be read only while its row is current.
-/

namespace StatementWalk

open Text

inductive LargeObjectKind where
  | binary
  | character
deriving DecidableEq, Repr

namespace Value

/-- The text that tells character objects apart: the declared type if there is one, else the class
name. -/
def largeObjectType (v : Value) : Except Fault String :=
  match v.attribute? "type" with
  | some t => if t.isTruthy then t.display else .ok v.className
  | none => .ok v.className

/-- Whether the characters of a pattern follow one another in a text. -/
def hasInfix (pattern : List Char) : List Char → Bool
  | [] => pattern.isEmpty
  | c :: rest => pattern.isPrefixOf (c :: rest) || hasInfix pattern rest

def namesCharacters (declared : String) : Bool :=
  hasInfix "CLOB".toList (upperChars declared.toList)

/-- The kind of a large object, and nothing for every other value. -/
def largeObjectKind (v : Value) : Except Fault (Option LargeObjectKind) :=
  match v with
  | .buffer .. | .byteStream _ => .ok (some .binary)
  | .textStream _ => .ok (some .character)
  | v =>
    match v.call? "read" with
    | none => .ok none
    | some _ => do
      let declared ← v.largeObjectType
      return some (if namesCharacters declared then .character else .binary)

def readLargeObject (v : Value) : Except Fault Value :=
  match v with
  | .buffer _ bs => .ok (.bytes bs)
  | .textStream unread => .ok (.text unread)
  | .byteStream unread => .ok (.bytes unread)
  | v => v.call "read"

/-- What a large object is after it was read: a stream has nothing left. -/
def spent : Value → Value
  | .textStream _ => .textStream ""
  | .byteStream _ => .byteStream []
  | v => v

def staleHandle : Fault := ⟨.runtime, "LOB handle used after cursor moved", none⟩

/-- A handle whose row is no longer current: a bound object refuses to be read. -/
def expired : Value → Value
  | .object module name shown true members =>
    .object module name shown true (members.map fun
      | ("read", .method _) => ("read", .method (.error staleHandle))
      | m => m)
  | v => v

/-- The same value with no tie to a cursor. -/
def unbound : Value → Value
  | .object module name shown _ members => .object module name shown false members
  | v => v

end Value

end StatementWalk
