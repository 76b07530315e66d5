import StatementWalk.Fault
import StatementWalk.Text.Character
import StatementWalk.Text.Quoted

/-!
# Decimal texts of integers

An integer is written in decimal digits and read from them; both directions stop at `digitLimit`
digits. A text may have blanks around the number, a sign, and single underscores between digits.
-/

namespace StatementWalk.Number

open Text

/-- The longest number, in digits, that is written or read. -/
def digitLimit : Nat := 4300

/-- The least number that is too long to write. -/
def digitBound : Nat := Nat.pow 10 digitLimit

def limitMessage : String :=
  "Exceeds the limit (" ++ toString digitLimit ++ " digits) for integer string conversion"

def limitAdvice : String := "; use sys.set_int_max_str_digits() to increase the limit"

/-- The decimal text of an integer that is not too long. -/
def intText (n : Int) : Except Fault String :=
  if n.natAbs < digitBound then .ok (toString n)
  else .error (.badValue (limitMessage ++ limitAdvice))

theorem intText_eq_ok {n : Int} (h : n.natAbs < digitBound) : intText n = .ok (toString n) :=
  if_pos h

theorem intText_eq_error {n : Int} (h : ¬ n.natAbs < digitBound) :
    intText n = .error (.badValue (limitMessage ++ limitAdvice)) := if_neg h

/-- The number that decimal digits write, the most significant digit first. -/
def ofDigits (ds : List Nat) : Nat := ds.foldl (fun n d => 10 * n + d) 0

inductive IntReading where
  | number (n : Int)
  | tooLong (digits : Nat)
  | malformed
deriving DecidableEq, Repr

/-- The leading digits of a text and what follows them. Underscores stand between two digits only;
there is at least one digit. -/
def takeDigits (afterDigit : Bool) : List Char → Option (List Nat × List Char)
  | [] => if afterDigit then some ([], []) else none
  | c :: rest =>
    if isAsciiDigit c then
      (takeDigits true rest).map fun (ds, r) => ((c.toNat - 48) :: ds, r)
    else if c == '_' then
      if afterDigit then takeDigits false rest else none
    else if afterDigit then some ([], c :: rest) else none

/-- Splits a sign off; the flag says whether it is a minus. -/
def splitSign : List Char → Bool × List Char
  | '-' :: rest => (true, rest)
  | '+' :: rest => (false, rest)
  | cs => (false, cs)

/-- Reads an ASCII text as a number. A number that is too long is reported as such even when
something else follows it. -/
def readAsciiInt (cs : List Char) : IntReading :=
  let (negative, body) := splitSign (cs.dropWhile isAsciiSpace)
  match takeDigits false body with
  | none => .malformed
  | some (ds, rest) =>
    if digitLimit < ds.length then .tooLong ds.length
    else if (rest.dropWhile isAsciiSpace).isEmpty then
      .number (if negative then -(ofDigits ds : Int) else ofDigits ds)
    else .malformed

/-- The ASCII stand-in of a character in a text that is not all ASCII: blanks become spaces and
digits of every script ASCII digits. -/
def asciiStandIn (c : Char) : Char :=
  if c.toNat < 0x80 then c
  else if isBlank c then ' '
  else match digitValue? c with
    | some d => digitChar d
    | none => '?'

/-- Reads a text as a number. -/
def readInt (cs : List Char) : IntReading :=
  if cs.all (·.toNat < 0x80) then readAsciiInt cs else readAsciiInt (cs.map asciiStandIn)

/-- The first two hundred characters of a quoted form. -/
def clipped (shown : String) : String := String.ofList (shown.toList.take 200)

def IntReading.toExcept (shown : String) : IntReading → Except Fault Int
  | .number n => .ok n
  | .tooLong digits =>
    .error (.badValue (limitMessage ++ ": value has " ++ toString digits ++ " digits" ++
      limitAdvice))
  | .malformed =>
    .error (.badValue ("invalid literal for int() with base 10: " ++ clipped shown))

def intOfText (s : String) : Except Fault Int :=
  (readInt s.toList).toExcept (quoted s)

/-- The number that a byte string denotes, read as ASCII. -/
def intOfBytes (bs : Bytes) : Except Fault Int :=
  (readAsciiInt (bs.map fun b => Char.ofNat b.toNat)).toExcept (quotedBytes (bs.take 200))

end StatementWalk.Number
