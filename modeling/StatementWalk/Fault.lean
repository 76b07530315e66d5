/-!
# Faults

A fault is a failed driver call, conversion or check: its kind, its message and, where one fault
was raised on account of another, the kind of that other one. Kinds form families, because some
handlers stop a whole family and let every other fault pass.
-/

namespace StatementWalk

structure Issue where
  /-- Field names and list positions from the record down to the value. -/
  place : List String
  code : String
  text : String
deriving DecidableEq, Repr

inductive FaultKind where
  | general
  | runtime
  | badValue
  | badType
  | system
  | lookup
  | badIndex
  | overflow
  | outOfMemory
  | nesting
  | undecodable
  | missingAttribute
  | invalidOperation
  | validation (issues : List Issue)
  | walker
  | database
  /-- The driver contradicts its own earlier answers. -/
  | unexpectedDriver
  | resourceClose
  /-- The initial execution of a statement failed. -/
  | execution (sql : Option String)
  | valueRead (column : Option Int)
  /-- A driver value does not convert to the declared type of its column. -/
  | coercion (source target : String) (column : Option Int)
deriving DecidableEq, Repr

namespace FaultKind

/-- The kinds that stand for a value outside the domain of an operation. -/
def isValueFault : FaultKind → Bool
  | .badValue | .undecodable | .validation _ => true
  | _ => false

/-- The kinds that a failed conversion of a cell may have. -/
def isConversionFault (k : FaultKind) : Bool := k == .badType || k.isValueFault

def isWalkerFault : FaultKind → Bool
  | .walker | .database | .unexpectedDriver | .resourceClose => true
  | .execution _ | .valueRead _ | .coercion .. => true
  | _ => false

end FaultKind

structure Fault where
  kind : FaultKind
  message : String
  /-- The kind of the fault on whose account this one was raised. -/
  cause : Option FaultKind := none
deriving DecidableEq, Repr

/-- A number fits into a signed machine word if it is less than this. -/
def wordBound : Int := 0x8000000000000000

namespace Fault

def badValue (message : String) : Fault := ⟨.badValue, message, none⟩

def badType (message : String) : Fault := ⟨.badType, message, none⟩

/-- The fault of a position that no collection has. A position must fit into a machine word
first. -/
def badPosition (collection : String) (position : Int) : Fault :=
  if -wordBound ≤ position ∧ position < wordBound then
    ⟨.badIndex, collection ++ " index out of range", none⟩
  else ⟨.badIndex, "cannot fit 'int' into an index-sized integer", none⟩

def overflow (message : String) : Fault := ⟨.overflow, message, none⟩

end Fault

theorem except_ok_bind {α β ε : Type} (a : α) (f : α → Except ε β) :
    (Except.ok a >>= f : Except ε β) = f a := rfl

theorem except_error_bind {α β ε : Type} (e : ε) (f : α → Except ε β) :
    (Except.error e >>= f : Except ε β) = .error e := rfl

theorem except_map_eq_ok {α β ε : Type} {x : Except ε α} {f : α → β} {b : β} :
    f <$> x = .ok b ↔ ∃ a, x = .ok a ∧ f a = b := by
  cases x with
  | error e => exact ⟨nofun, fun ⟨_, h, _⟩ => nomatch h⟩
  | ok a =>
      refine ⟨fun h => ⟨a, rfl, Except.ok.inj h⟩, fun ⟨_, ha, hb⟩ => ?_⟩
      cases ha
      exact congrArg _ hb

theorem except_mapError_eq_ok {α ε ε' : Type} {x : Except ε α} {g : ε → ε'} {a : α} :
    x.mapError g = .ok a ↔ x = .ok a := by
  cases x with
  | error e => exact ⟨nofun, nofun⟩
  | ok b => exact ⟨fun h => congrArg _ (Except.ok.inj h), fun h => congrArg _ (Except.ok.inj h)⟩

/-- Checks in sequence succeed one by one. -/
theorem except_bind_eq_ok {α β ε : Type} {x : Except ε α} {f : α → Except ε β} {b : β} :
    x >>= f = .ok b ↔ ∃ a, x = .ok a ∧ f a = .ok b := by
  cases x with
  | error e => simp [except_error_bind]
  | ok a => simp [except_ok_bind]

end StatementWalk
