import StatementWalk.Session.Handles
import StatementWalk.Text.Case

/-!
# Columns by name

A name is brought into the form in which the database stores it; then the first column matches whose
label is the same text when letter case is ignored.
-/

namespace StatementWalk

open Text

namespace Dialect

def foldName (d : Dialect) (cs : List Char) : List Char :=
  match d with
  | postgresql => lowerChars cs
  | oracle => upperChars cs
  | _ => cs

def closingQuote? : Char → Option Char
  | '"' => some '"'
  | '\u0060' => some '\u0060'
  | '[' => some ']'
  | _ => none

/-- The text between a quote and its closing quote, if the name is quoted. -/
def unquoted? : List Char → Option (List Char)
  | [] => none
  | c :: rest =>
    match rest.getLast?, closingQuote? c with
    | some last, some close => if close == last then some rest.dropLast else none
    | _, _ => none

/-- The stored form of the characters of a name: quoted names as they stand, others folded. -/
def storedName (d : Dialect) (cs : List Char) : List Char :=
  let name := stripChars cs
  match unquoted? name with
  | some inner => inner
  | none => d.foldName name

def storeName (d : Dialect) (name : String) : String := String.ofList (d.storedName name.toList)

end Dialect

variable {σ : Type}

/-- The first column whose label matches a stored name. -/
def findColumn (columns : List Column) (name : String) (stored : String → String) :
    Option Column :=
  let key := foldChars (stored name).toList
  columns.find? fun c => foldChars c.label.toList == key

/-- The text of the named column on the current row, null if there is no such column. -/
def resolve (rs : ResultSet σ) (name : String) (stored : String → String) : Action σ Value :=
  match findColumn rs.columns name stored with
  | none => return .null
  | some c => rs.get .text c.position

end StatementWalk
