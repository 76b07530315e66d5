/-!
# Binary floating point of double precision

Every finite double is a whole multiple of the smallest positive one, so a finite value is kept as a
sign and that multiple. Comparison, truncation and rounding are then exact arithmetic on natural
numbers.
-/

namespace StatementWalk

/-- A double. Both zeros have no units and differ in sign. -/
inductive Binary64 where
  | nan
  | infinite (negative : Bool)
  /-- The magnitude in units of the smallest positive double. -/
  | finite (negative : Bool) (units : Nat)
deriving DecidableEq, Repr, Inhabited

namespace Binary64

/-- Units in one. -/
def one : Nat := Nat.pow 2 1074

/-- The number of significant binary digits. -/
def precision : Nat := 53

/-- The least magnitude, in units, past the finite doubles. -/
def unitBound : Nat := Nat.pow 2 (1074 + 1024)

/-- The number of binary digits of a number. -/
def bitLength (n : Nat) : Nat := if n = 0 then 0 else n.log2 + 1

/-- The quotient rounded to the nearest whole number, a tie to the even one. -/
def divNearestEven (n d : Nat) : Nat :=
  let q := n / d
  let r := n % d
  if d < 2 * r ∨ (2 * r = d ∧ q % 2 = 1) then q + 1 else q

/-- The distance, in units, between doubles of this magnitude. -/
def spacing (units : Nat) : Nat := Nat.pow 2 (bitLength units - precision)

/-- The double nearest to a quotient. -/
def ofRatio (negative : Bool) (num den : Nat) : Binary64 :=
  let step := spacing (num * one / den)
  let units := divNearestEven (num * one) (den * step) * step
  if unitBound ≤ units then .infinite negative else .finite negative units

/-- A whole double as an integer; a fraction is cut off. -/
def truncate? : Binary64 → Option Int
  | .finite negative units =>
    let n : Int := (units / one : Nat)
    some (if negative then -n else n)
  | _ => none

def isWhole : Binary64 → Bool
  | .finite _ units => units % one == 0
  | _ => false

def isZero : Binary64 → Bool
  | .finite _ units => units == 0
  | _ => false

def eqInt (x : Binary64) (n : Int) : Bool := x.isWhole && x.truncate? == some n

/-- Numeric order; a value that is not a number is at least nothing. -/
def geZero : Binary64 → Bool
  | .nan => false
  | .infinite negative => !negative
  | .finite negative units => !negative || units == 0

/-- A number that is not negative is not minus one. -/
theorem eqInt_of_geZero {x : Binary64} (h : x.geZero = true) : x.eqInt (-1) = false := by
  cases x with
  | nan => cases h
  | infinite negative => rfl
  | finite negative units =>
      have hn : (Binary64.finite negative units).truncate? ≠ some (-1) := by
        simp only [geZero, Bool.or_eq_true, Bool.not_eq_true', beq_iff_eq] at h
        simp only [truncate?, ne_eq, Option.some.injEq]
        rcases h with rfl | rfl
        · have h0 : (0 : Int) ≤ (units / one : Nat) := Int.natCast_nonneg _
          simp only [Bool.false_eq_true, if_false]
          omega
        · have h0 : 0 / one = 0 := Nat.zero_div one
          simp only [h0]
          split <;> decide
      simp [eqInt, hn]

end Binary64

end StatementWalk
