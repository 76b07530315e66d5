import StatementWalk.Number.IntText
import StatementWalk.Number.Shortest
import StatementWalk.Text.Case

/-!
# Texts of doubles

A style says which magnitudes are written positionally and how an exponent looks. The digits
themselves are always the shortest that read back.
-/

namespace StatementWalk.Binary64

open Text Number

structure Style where
  /-- Positional notation begins above this place of the point. -/
  above : Int
  /-- Positional notation ends at this place of the point. -/
  upTo : Int
  /-- The least number of digits in an exponent. -/
  exponentWidth : Nat
  nan : String
  infinity : String

/-- Plain text: positional from `0.0001` to below ten to the sixteenth. -/
def plain : Style := ⟨-4, 16, 2, "nan", "inf"⟩

/-- Data interchange: positional from `0.00001`, exponents not padded, no text for what is not
finite. -/
def interchange : Style := ⟨-5, 16, 1, "null", "null"⟩

def padLeft (width : Nat) (c : Char) (cs : List Char) : List Char :=
  List.replicate (width - cs.length) c ++ cs

def positional (d : DecimalDigits) : List Char :=
  if d.point ≤ 0 then '0' :: '.' :: (List.replicate (-d.point).toNat '0' ++ d.digits)
  else
    let p := d.point.toNat
    if p < d.digits.length then d.digits.take p ++ '.' :: d.digits.drop p
    else d.digits ++ List.replicate (p - d.digits.length) '0' ++ ['.', '0']

def scientific (width : Nat) (d : DecimalDigits) : List Char :=
  let e := d.point - 1
  let mantissa := match d.digits with
    | [] => []
    | [c] => [c]
    | c :: rest => c :: '.' :: rest
  mantissa ++ 'e' :: (if e < 0 then '-' else '+') :: padLeft width '0' (toString e.natAbs).toList

def Style.write (style : Style) : Binary64 → String
  | .nan => style.nan
  | .infinite negative => if negative ∧ style.infinity ≠ "null" then "-" ++ style.infinity
      else style.infinity
  | .finite negative units =>
    let body :=
      if units = 0 then ['0', '.', '0']
      else
        let d := shortest units
        if style.above < d.point ∧ d.point ≤ style.upTo then positional d
        else scientific style.exponentWidth d
    String.ofList (if negative then '-' :: body else body)

/-- A decimal number: digits without the point, and the power of ten of the last digit. -/
structure Literal where
  digits : List Nat
  exponent : Int
deriving DecidableEq, Repr

def spanDigits (cs : List Char) : List Nat × List Char :=
  ((cs.takeWhile isAsciiDigit).map (·.toNat - 48), cs.dropWhile isAsciiDigit)

def Literal.exponentOf? : List Char → Option Int
  | [] => some 0
  | c :: rest =>
    if c == 'e' || c == 'E' then
      let (negative, body) := splitSign rest
      let (ds, tail) := spanDigits body
      if ds.isEmpty || !tail.isEmpty then none
      else some (if negative then -(ofDigits ds : Int) else ofDigits ds)
    else none

/-- Reads digits, an optional point with more digits, and an optional exponent. -/
def Literal.ofChars? (cs : List Char) : Option Literal := do
  let (whole, rest) := spanDigits cs
  let (fraction, rest) := match rest with
    | '.' :: r => spanDigits r
    | r => ([], r)
  if whole.isEmpty && fraction.isEmpty then none
  else
    let e ← exponentOf? rest
    return ⟨whole ++ fraction, e - fraction.length⟩

/-- The double nearest to a decimal number. Magnitudes far outside the range are not computed. -/
def ofLiteral (negative : Bool) (l : Literal) : Binary64 :=
  let n := ofDigits l.digits
  let size := l.exponent + l.digits.length
  if n = 0 ∨ size < -400 then .finite negative 0
  else if 400 + (l.digits.takeWhile (· == 0)).length < size then .infinite negative
  else if 0 ≤ l.exponent then ofRatio negative (n * Nat.pow 10 l.exponent.toNat) 1
  else ofRatio negative n (Nat.pow 10 (-l.exponent).toNat)

/-- Reads a double from any decimal notation, or from the name of a value that is not finite. Digits
of every script are digits. -/
def ofText? (s : String) : Option Binary64 :=
  let (negative, body) := splitSign (stripChars s.toList)
  match String.ofList (lowerChars body) with
  | "nan" => some .nan
  | "inf" | "infinity" => some (.infinite negative)
  | _ =>
    (Literal.ofChars? ((body.filter (· != '_')).map asciiStandIn)).map (ofLiteral negative)

end StatementWalk.Binary64
