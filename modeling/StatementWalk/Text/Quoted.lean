import StatementWalk.Text.Encoding
import StatementWalk.Text.Printable

/-!
# Quoted texts and byte strings

A quoted form stands between single quotes, or between double quotes when the content holds a
single quote and no double quote. Backslash, the quote in use, tab, line feed and carriage return
are escaped by name, every other character that is not printable by its number.
-/

namespace StatementWalk.Text

/-- The quote that needs fewer escapes; single quotes win ties. -/
def chooseQuote (hasSingle hasDouble : Bool) : Char :=
  if hasSingle && !hasDouble then '"' else '\''

/-- The escape by number of a character that is not printable. -/
def numberEscape (n : Nat) : List Char :=
  if n < 0x100 then '\\' :: 'x' :: hexDigits 2 n
  else if n < 0x10000 then '\\' :: 'u' :: hexDigits 4 n
  else '\\' :: 'U' :: hexDigits 8 n

/-- The escape of a character that has a name of its own under a quote. -/
def namedEscape? (quote c : Char) : Option (List Char) :=
  if c == '\\' || c == quote then some ['\\', c]
  else if c == '\t' then some ['\\', 't']
  else if c == '\n' then some ['\\', 'n']
  else if c == '\r' then some ['\\', 'r']
  else none

def escapeChar (quote c : Char) : List Char :=
  match namedEscape? quote c with
  | some cs => cs
  | none => if isPrintable c then [c] else numberEscape c.toNat

/-- A byte is shown as an ASCII character where it is a printable one. -/
def escapeByte (quote : Char) (b : UInt8) : List Char :=
  let c := Char.ofNat b.toNat
  match namedEscape? quote c with
  | some cs => cs
  | none => if decide (0x20 ≤ b.toNat ∧ b.toNat < 0x7F) then [c] else numberEscape b.toNat

def quoted (s : String) : String :=
  let cs := s.toList
  let q := chooseQuote (cs.contains '\'') (cs.contains '"')
  String.ofList (q :: cs.flatMap (escapeChar q) ++ [q])

/-- Bytes between quotes, marked by a leading `b`. -/
def quotedBytesWith (escape : Char → UInt8 → List Char) (bs : Bytes) : String :=
  let q := chooseQuote (bs.contains 0x27) (bs.contains 0x22)
  String.ofList ('b' :: q :: bs.flatMap (escape q) ++ [q])

def quotedBytes (bs : Bytes) : String := quotedBytesWith escapeByte bs

/-- The quoted form of the content of a growable buffer, where a single quote is always escaped. -/
def quotedBuffer (bs : Bytes) : String :=
  quotedBytesWith (fun q b => if b == 0x27 then ['\\', '\''] else escapeByte q b) bs

end StatementWalk.Text
