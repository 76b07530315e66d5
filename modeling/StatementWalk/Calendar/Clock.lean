import StatementWalk.Calendar.Span

/-!
# Times of day and timestamps

A time of day counts microseconds and may carry an offset from universal time. A timestamp is a
date with such a time.
-/

namespace StatementWalk

open Calendar

namespace Calendar

def isClock (hour minute second micro : Nat) : Bool :=
  decide (hour < 24) && decide (minute < 60) && decide (second < 60) && decide (micro < 1000000)

/-- Microseconds in a day. -/
def dayMicros : Nat := 86400000000

end Calendar

/-- Hours, minutes, seconds and microseconds of a day. -/
structure Clock where
  hour : Nat
  minute : Nat
  second : Nat
  micro : Nat
  valid : isClock hour minute second micro = true
deriving DecidableEq, Repr

/-- An offset from universal time, shorter than a day. -/
structure Offset where
  micros : Int
  inDay : micros.natAbs < dayMicros
deriving DecidableEq, Repr

structure TimeOfDay where
  clock : Clock
  zone : Option Offset
deriving DecidableEq, Repr

structure Timestamp where
  date : Date
  clock : Clock
  zone : Option Offset
deriving DecidableEq, Repr

namespace Clock

def midnight : Clock := ⟨0, 0, 0, 0, by decide⟩

instance : Inhabited Clock := ⟨midnight⟩

/-- The time with the given fields. The first field out of range is reported. -/
def ofFields (hour minute second micro : Nat) : Except Fault Clock :=
  if h : isClock hour minute second micro = true then .ok ⟨hour, minute, second, micro, h⟩
  else if 24 ≤ hour then .error (.badValue "hour must be in 0..23")
  else if 60 ≤ minute then .error (.badValue "minute must be in 0..59")
  else if 60 ≤ second then .error (.badValue "second must be in 0..59")
  else .error (.badValue "microsecond must be in 0..999999")

/-- Hours, minutes and seconds, and six places of microseconds unless there are none. -/
def text (c : Clock) : String :=
  padded 2 c.hour ++ ":" ++ padded 2 c.minute ++ ":" ++ padded 2 c.second ++
    Span.fractionText c.micro

/-- The fields of a quoted form, the trailing ones only where they are needed. -/
def shownFields (c : Clock) : String :=
  ", ".intercalate
    ([toString c.hour, toString c.minute] ++
      (if c.second = 0 ∧ c.micro = 0 then [] else [toString c.second]) ++
      (if c.micro = 0 then [] else [toString c.micro]))

end Clock

namespace Offset

def utc : Offset := ⟨0, by decide⟩

def ofSpan (s : Span) : Except Fault Offset :=
  if h : s.micros.natAbs < dayMicros then .ok ⟨s.micros, h⟩
  else
    .error (.badValue ("offset must be a timedelta strictly between -timedelta(hours=24) and " ++
      "timedelta(hours=24), not " ++ s.shown ++ "."))

/-- Sign, hours and minutes, then seconds and their fraction only where they are not zero. -/
def text (o : Offset) : String :=
  let n := o.micros.natAbs
  let s := n / 1000000
  let tail :=
    if n % 60000000 = 0 then "" else ":" ++ padded 2 (s % 60) ++ Span.fractionText (n % 1000000)
  (if o.micros < 0 then "-" else "+") ++ padded 2 (s / 3600) ++ ":" ++
    padded 2 (s / 60 % 60) ++ tail

def shown (o : Offset) : String :=
  if o.micros = 0 then "datetime.timezone.utc"
  else "datetime.timezone(" ++ (Span.mk o.micros).shown ++ ")"

/-- The offset to the minute, as data interchange writes it: an excess of half a minute or more adds
one to the minutes. -/
def interchangeText (o : Offset) : String :=
  let span := Span.mk o.micros
  if span.seconds = 0 then "+00:00"
  else
    let n := if span.days < 0 then 86400 - span.seconds else span.seconds
    let minute := n / 60 % 60 + (if 30 ≤ n % 60 then 1 else 0)
    (if span.days < 0 then "-" else "+") ++ padded 2 (n / 3600) ++ ":" ++ padded 2 minute

end Offset

namespace Calendar

def zoneText : Option Offset → String
  | some o => o.text
  | none => ""

def zoneShown : Option Offset → String
  | some o => ", tzinfo=" ++ o.shown
  | none => ""

end Calendar

namespace TimeOfDay

instance : Inhabited TimeOfDay := ⟨⟨default, none⟩⟩

def text (t : TimeOfDay) : String := t.clock.text ++ zoneText t.zone

def shown (t : TimeOfDay) : String :=
  "datetime.time(" ++ t.clock.shownFields ++ zoneShown t.zone ++ ")"

end TimeOfDay

namespace Timestamp

instance : Inhabited Timestamp := ⟨⟨default, default, none⟩⟩

def ofDate (d : Date) : Timestamp := ⟨d, .midnight, none⟩

def textWith (separator : String) (t : Timestamp) : String :=
  t.date.text ++ separator ++ t.clock.text ++ zoneText t.zone

def text (t : Timestamp) : String := t.textWith " "

def isoText (t : Timestamp) : String := t.textWith "T"

def interchangeText (t : Timestamp) : String :=
  t.date.text ++ "T" ++ t.clock.text ++
    match t.zone with
    | some o => o.interchangeText
    | none => ""

def shown (t : Timestamp) : String :=
  "datetime.datetime(" ++ toString t.date.year ++ ", " ++ toString t.date.month ++ ", " ++
    toString t.date.day ++ ", " ++ t.clock.shownFields ++ zoneShown t.zone ++ ")"

end Timestamp

namespace Date

def shown (d : Date) : String :=
  "datetime.date(" ++ toString d.year ++ ", " ++ toString d.month ++ ", " ++ toString d.day ++ ")"

end Date

end StatementWalk
