import StatementWalk.Calendar.Date
import StatementWalk.Number.FloatText

/-!
# Spans of time

A span is a whole number of microseconds. It is shown as days, which carry the sign, and a time of
day.
-/

namespace StatementWalk

open Calendar

structure Span where
  micros : Int
deriving DecidableEq, Repr, Inhabited

namespace Span

def ofParts (days seconds micros : Int) : Span :=
  ⟨(days * 86400 + seconds) * 1000000 + micros⟩

/-- Whole days, rounded down. -/
def days (s : Span) : Int := s.micros.fdiv 86400000000

/-- Seconds past the whole days. -/
def seconds (s : Span) : Nat := (s.micros.fmod 86400000000).toNat / 1000000

/-- Microseconds past the whole seconds. -/
def subMicros (s : Span) : Nat := (s.micros.fmod 86400000000).toNat % 1000000

def fractionText (micros : Nat) : String := if micros = 0 then "" else "." ++ padded 6 micros

def text (s : Span) : String :=
  let dayText :=
    if s.days = 0 then ""
    else toString s.days ++ (if s.days = 1 ∨ s.days = -1 then " day, " else " days, ")
  dayText ++ toString (s.seconds / 3600) ++ ":" ++ padded 2 (s.seconds / 60 % 60) ++ ":" ++
    padded 2 (s.seconds % 60) ++ fractionText s.subMicros

/-- The parts that are not zero, named. -/
def shown (s : Span) : String :=
  let parts :=
    (if s.days = 0 then [] else ["days=" ++ toString s.days]) ++
    (if s.seconds = 0 then [] else ["seconds=" ++ toString s.seconds]) ++
    (if s.subMicros = 0 then [] else ["microseconds=" ++ toString s.subMicros])
  "datetime.timedelta(" ++ (if parts.isEmpty then "0" else ", ".intercalate parts) ++ ")"

/-- The length in seconds, to the nearest double. -/
def toSeconds (s : Span) : Binary64 :=
  Binary64.ofRatio (s.micros < 0) s.micros.natAbs 1000000

end Span

end StatementWalk
