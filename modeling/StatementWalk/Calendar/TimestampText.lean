import StatementWalk.Calendar.Iso

/-!
# Timestamps as drivers write them

A driver writes a date, a space or a `T`, a time with a fraction of any length, and a zone. The
fraction is cut to six places before the text is read by the standard rules; a text of another
form is read by those rules as it stands.
-/

namespace StatementWalk.Calendar

open Text

structure TimestampParts where
  day : List Char
  clock : List Char
  fraction : List Char
  zone : List Char
deriving DecidableEq, Repr

/-- Takes characters that fit a pattern: digits of any script where it has a `0`, the character
itself elsewhere. -/
def takePattern? : List Char → List Char → Option (List Char × List Char)
  | [], cs => some ([], cs)
  | _ :: _, [] => none
  | p :: ps, c :: cs =>
    if (if p == '0' then isDigit c else c == p) then
      (takePattern? ps cs).map fun (taken, rest) => (c :: taken, rest)
    else none

/-- A fraction and what follows it. A point without digits belongs to what follows. -/
def splitFraction : List Char → List Char × List Char
  | '.' :: rest =>
    if (rest.takeWhile isDigit).isEmpty then ([], '.' :: rest)
    else (rest.takeWhile isDigit, rest.dropWhile isDigit)
  | cs => ([], cs)

/-- Splits a driver's timestamp text; the zone lies on one line. -/
def TimestampParts.ofChars? (cs : List Char) : Option TimestampParts := do
  let (day, rest) ← takePattern? "0000-00-00".toList cs
  let rest ← match rest with
    | ' ' :: r => some r
    | 'T' :: r => some r
    | _ => none
  let (clock, rest) ← takePattern? "00:00:00".toList rest
  let (fraction, rest) := splitFraction rest
  let zone := rest.dropWhile isBlank
  if zone.contains '\n' then none else return ⟨day, clock, fraction, zone⟩

/-- The six places of a fraction: cut off or filled up with zeros. -/
def sixPlaces (fraction : List Char) : List Char :=
  let cs := if fraction.isEmpty then ['0'] else fraction.take 6
  cs ++ List.replicate (6 - cs.length) '0'

/-- The parts put together again with a fraction of six places. -/
def TimestampParts.toText (p : TimestampParts) : String :=
  String.ofList (p.day ++ ' ' :: p.clock ++ '.' :: sixPlaces p.fraction ++ p.zone)

/-- Reads a driver's timestamp text, outer blanks left out. -/
def parseTimestamp (text : String) : Except Fault Timestamp :=
  let body := stripChars text.toList
  match TimestampParts.ofChars? body with
  | some parts => timestampOfIso parts.toText
  | none => timestampOfIso (String.ofList body)

end StatementWalk.Calendar
