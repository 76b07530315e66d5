import StatementWalk.Number.Binary64

/-!
# Shortest decimal digits

The decimal digits of a positive double are the fewest that read back as the same double and,
among those, the nearest to it. They are found by trying decimal grids of growing fineness: where a
grid has a point that reads back, one of the two grid points around the value does.
-/

namespace StatementWalk.Binary64

/-- Decimal digits with the place of the point counted from before the first digit: the value is
`0.digits` times ten to the power of `point`. -/
structure DecimalDigits where
  digits : List Char
  point : Int
deriving DecidableEq, Repr

/-- The number of times a value below one may grow tenfold and stay below one. -/
def leadingZeros (units : Nat) : Nat → Nat
  | 0 => 0
  | fuel + 1 => if units * 10 < one then leadingZeros (units * 10) fuel + 1 else 0

/-- The least power of ten above a positive value. -/
def decimalPoint (units : Nat) : Int :=
  if units < one then -(leadingZeros units 330 : Int)
  else (toString (units / one)).length

/-- The values that read back as a double lie between these bounds, in quarters of a unit. Below a
power of two the doubles are twice as dense. -/
def readBackBounds (units : Nat) : Nat × Nat :=
  let step := spacing units
  let below := if 1 < step ∧ units = Nat.pow 2 units.log2 then step else 2 * step
  (4 * units - below, 4 * units + 2 * step)

/-- Whether a bound itself reads back: a tie goes to the even neighbour. -/
def boundsReadBack (units : Nat) : Bool := units / spacing units % 2 == 0

/-- A grid of `n` digits: both sides of a comparison are scaled to whole numbers, a grid point by
`pointScale` and a quarter of a unit by `unitScale`. -/
structure Grid where
  pointScale : Nat
  unitScale : Nat
deriving DecidableEq, Repr

def Grid.ofDigits (point : Int) (n : Nat) : Grid :=
  let k := point - n
  if 0 ≤ k then ⟨4 * one * Nat.pow 10 k.toNat, 1⟩ else ⟨4 * one, Nat.pow 10 (-k).toNat⟩

def Grid.readsBack (g : Grid) (units c : Nat) : Bool :=
  let (low, high) := readBackBounds units
  let x := c * g.pointScale
  if boundsReadBack units then decide (low * g.unitScale ≤ x ∧ x ≤ high * g.unitScale)
  else decide (low * g.unitScale < x ∧ x < high * g.unitScale)

/-- The point of a grid that reads back and is nearest to the value; a tie goes to the even one. -/
def Grid.nearest? (g : Grid) (units : Nat) : Option Nat :=
  let v := 4 * units * g.unitScale
  let c := v / g.pointScale
  let down := v - c * g.pointScale
  let up := (c + 1) * g.pointScale - v
  match g.readsBack units c, g.readsBack units (c + 1) with
  | true, true => some (if down < up ∨ (down = up ∧ c % 2 = 0) then c else c + 1)
  | true, false => some c
  | false, true => some (c + 1)
  | false, false => none

/-- The first grid, from `n` digits on, with a point that reads back. -/
def firstGrid (units : Nat) (point : Int) : Nat → Nat → Nat × Nat
  | n, 0 => (n, (4 * units * (Grid.ofDigits point n).unitScale) /
    (Grid.ofDigits point n).pointScale)
  | n, fuel + 1 =>
    match (Grid.ofDigits point n).nearest? units with
    | some c => (n, c)
    | none => firstGrid units point (n + 1) fuel

/-- The shortest digits of a positive double. -/
def shortest (units : Nat) : DecimalDigits :=
  let point := decimalPoint units
  let (n, c) := firstGrid units point 1 17
  let cs := (toString c).toList
  ⟨(cs.reverse.dropWhile (· == '0')).reverse, point + cs.length - n⟩

end StatementWalk.Binary64
