import StatementWalk.Session.Handles

/-!
# Normalized cells

A cell is read in the generic way and, where a correction applies to the value, once more in the
way that the correction says. What comes out is detached from the cursor.
-/

namespace StatementWalk

variable {σ : Type}

/-- The member at a position counted from zero; negative positions count from the end. -/
def atPosition? {α : Type} (xs : List α) (i : Int) : Option α :=
  if 0 ≤ i then xs[i.toNat]?
  else if -i ≤ xs.length then xs[(xs.length + i).toNat]?
  else none

/-- The fault of a cell that could not be read, with the column in it. -/
def cellFault (f : Fault) (index : Int) : Fault :=
  match f.kind with
  | .valueRead none => { f with kind := .valueRead (some index) }
  | .coercion source target none => { f with kind := .coercion source target (some index) }
  | .valueRead (some _) | .coercion _ _ (some _) => f
  | kind =>
    ⟨.valueRead (some index),
      "Failed to read column " ++ toString index ++ ": " ++ f.message, some kind⟩

def readAgain (rs : ResultSet σ) (reading : Reading) (index : Int) : Action (World σ) Value := do
  match ← (World.onDriver (rs.get reading index)).attempt with
  | .ok v => return v
  | .error f => Action.fail (cellFault f index)

/-- The generic read of a cell, or its text where the read fails in the known way. -/
def readGeneric (rs : ResultSet σ) (index : Int) : Action (World σ) Value := do
  match ← (World.onDriver (rs.getObject index)).attempt with
  | .ok v => return v
  | .error f =>
    if Dialect.isTextInSmallint f then
      World.log .debug .normalization
        ("Column " ++ toString index ++ " hit a coercion quirk, reading as text: " ++ f.message)
      readAgain rs .text index
    else Action.fail (cellFault f index)

/-- Leaves null as it is, and reads any other value once more if a correction applies to it. -/
def correct (d : Dialect) (rs : ResultSet σ) (index : Int) (v : Value) :
    Action (World σ) Value :=
  if v.isNull then return .null
  else
    match atPosition? rs.columns (index - 1) with
    | none => Action.fail (.badPosition "list" (index - 1))
    | some column => do
      match ← Action.ofExcept (d.correctionOf v column) with
      | some q => readAgain rs (q.reading column) index
      | none => return v

/-- Reads the cell of the current row at a column counted from one. -/
def normalize (d : Dialect) (rs : ResultSet σ) (index : Int) : Action (World σ) Value := do
  correct d rs index (← readGeneric rs index)

def normalizeColumns (d : Dialect) (rs : ResultSet σ) : List Column → Action (World σ) (List Value)
  | [] => return []
  | c :: rest => do
    let v ← normalize d rs c.position
    return v :: (← normalizeColumns d rs rest)

def normalizeRow (d : Dialect) (rs : ResultSet σ) : Action (World σ) (List Value) :=
  normalizeColumns d rs rs.columns

end StatementWalk
