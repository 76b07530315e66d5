import StatementWalk.Value.Convert
import StatementWalk.Value.Key

/-!
# Collections

The members of a value that has a size, the only member of a collection that must have one, and
dictionaries, which have each key once.
-/

namespace StatementWalk

def requireSingle {α : Type} : List α → Except Fault α
  | [] => .error ⟨.database, "Empty result set, expected one row", none⟩
  | [x] => .ok x
  | _ => .error ⟨.database, "Result set larger than one row", none⟩

namespace Value

/-- The members of a value that has a size. Null has none. -/
def members (v : Value) : Except Fault (List Value) :=
  let sizeless : Except Fault (List Value) :=
    .error (.badType ("object of type '" ++ v.faultName 200 ++ "' has no len()"))
  match v with
  | .null => .ok []
  | .textStream _ | .byteStream _ => sizeless
  | v =>
    match v.toRow with
    | .ok items => .ok items
    | .error _ => sizeless

def onlyMember (v : Value) : Except Fault Value := do requireSingle (← v.members)

/-- Adds an entry; an entry with the same key keeps its place and takes the new value. -/
def putEntry (key value : Value) : List (Value × Value) → List (Value × Value)
  | [] => [(key, value)]
  | (k, v) :: rest =>
      if sameKey k key then (k, value) :: rest else (k, v) :: putEntry key value rest

/-- The dictionary of entries that are added one after the other. -/
def dictOf (entries : List (Value × Value)) : Value :=
  .dict (entries.foldl (fun es (k, v) => putEntry k v es) [])

end Value

end StatementWalk
