import StatementWalk.Number.FloatText

/-!
# Decimal numbers

A decimal number keeps its trailing zeros: it is a coefficient and a power of ten. Infinities and
two kinds of values that are not numbers complete the type; the signaling kind refuses comparison.
-/

namespace StatementWalk

open Text Number

inductive Decimal where
  | finite (negative : Bool) (coefficient : Nat) (exponent : Int)
  | infinite (negative : Bool)
  /-- The payload is a number that is written after the name unless it is zero. -/
  | nan (negative signaling : Bool) (payload : Nat)
deriving DecidableEq, Repr, Inhabited

namespace Decimal

def signText (negative : Bool) : String := if negative then "-" else ""

/-- Scientific notation that keeps every digit: positional as long as the exponent is not positive
and at most five zeros follow the point. -/
def finiteText (coefficient : Nat) (exponent : Int) : List Char :=
  let ds := (toString coefficient).toList
  let left := exponent + ds.length
  let point := if exponent ≤ 0 ∧ -6 < left then left else 1
  let body :=
    if point ≤ 0 then '0' :: '.' :: (List.replicate (-point).toNat '0' ++ ds)
    else if (ds.length : Int) ≤ point then ds ++ List.replicate (point.toNat - ds.length) '0'
    else ds.take point.toNat ++ '.' :: ds.drop point.toNat
  if left = point then body
  else
    let e := left - point
    body ++ 'E' :: (if e < 0 then '-' else '+') :: (toString e.natAbs).toList

def text : Decimal → String
  | .finite negative c e => signText negative ++ String.ofList (finiteText c e)
  | .infinite negative => signText negative ++ "Infinity"
  | .nan negative signaling payload =>
    signText negative ++ (if signaling then "sNaN" else "NaN") ++
      (if payload = 0 then "" else toString payload)

def truncate (negative : Bool) (coefficient : Nat) (exponent : Int) : Int :=
  let n : Int :=
    if 0 ≤ exponent then (coefficient * Nat.pow 10 exponent.toNat : Nat)
    else (coefficient / Nat.pow 10 (-exponent).toNat : Nat)
  if negative then -n else n

/-- A decimal number as an integer, cut off towards zero. -/
def toInt : Decimal → Except Fault Int
  | .finite negative c e =>
    if e < -(toString c).length then .ok 0 else .ok (truncate negative c e)
  | .infinite _ => .error (.overflow "cannot convert Infinity to integer")
  | .nan .. => .error (.badValue "cannot convert NaN to integer")

def isWhole : Decimal → Bool
  | .finite _ c e =>
    c == 0 || decide (0 ≤ e) ||
      (decide ((-e).toNat < (toString c).length) && c % Nat.pow 10 (-e).toNat == 0)
  | _ => false

def isFinite : Decimal → Bool
  | .finite .. => true
  | _ => false

def isSignaling : Decimal → Bool
  | .nan _ signaling _ => signaling
  | _ => false

def isZero : Decimal → Bool
  | .finite _ c _ => c == 0
  | _ => false

/-- Numeric equality with an integer. The numbers of digits are compared first, so that a large
power of ten is never computed. -/
def eqInt : Decimal → Int → Bool
  | .finite negative c e, n =>
    if c = 0 then n == 0
    else
      (Decimal.finite negative c e).isWhole &&
        e + (toString c).length == (toString n.natAbs).length && truncate negative c e == n
  | _, _ => false

/-- What a comparison with a value that is not a number says. -/
def notComparable : Fault := ⟨.invalidOperation, "[<class 'decimal.InvalidOperation'>]", none⟩

/-- Order against zero, which a value that is not a number has none of. -/
def geZero? : Decimal → Option Bool
  | .finite negative c _ => some (!negative || c == 0)
  | .infinite negative => some (!negative)
  | .nan .. => none

/-- The payload that follows the name of a value that is not a number. -/
def payload? (cs : List Char) : Option Nat :=
  if cs.all isAsciiDigit then some (ofDigits (cs.map (·.toNat - 48))) else none

/-- Reads the scientific notation and the names of the values that are not finite. Digits of every
script are digits. -/
def ofText? (s : String) : Option Decimal :=
  let (negative, signless) := splitSign (stripChars s.toList)
  let body := (signless.filter (· != '_')).map asciiStandIn
  let named := lowerChars body
  if named = "inf".toList ∨ named = "infinity".toList then some (.infinite negative)
  else if named.take 3 = "nan".toList then (payload? (body.drop 3)).map (nan negative false)
  else if named.take 4 = "snan".toList then (payload? (body.drop 4)).map (nan negative true)
  else
    (Binary64.Literal.ofChars? body).map fun l => .finite negative (ofDigits l.digits) l.exponent

theorem eqInt_of_geZero {x : Decimal} (h : x.geZero? = some true) : x.eqInt (-1) = false := by
  cases x with
  | infinite negative => rfl
  | nan negative signaling payload => rfl
  | finite negative c e =>
      simp only [geZero?, Option.some.injEq, Bool.or_eq_true, Bool.not_eq_true', beq_iff_eq] at h
      by_cases hc : c = 0
      · simp [eqInt, hc]
      · rcases h with rfl | h
        · have hn : truncate false c e ≠ -1 := by
            have h0 (n : Nat) : (n : Int) ≠ -1 := by omega
            simp only [truncate, Bool.false_eq_true, if_false]
            split
            · exact h0 _
            · exact h0 _
          simp [eqInt, hc, hn]
        · exact absurd h hc

theorem isSignaling_of_geZero {x : Decimal} {b : Bool} (h : x.geZero? = some b) :
    x.isSignaling = false := by
  cases x with
  | nan negative signaling payload => cases h
  | _ => rfl

end Decimal

end StatementWalk
