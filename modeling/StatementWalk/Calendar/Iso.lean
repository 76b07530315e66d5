import StatementWalk.Calendar.Clock
import StatementWalk.Text.Quoted
import StatementWalk.Text.Utf8

/-!
# Reading standard date and time texts

A date is `YYYY-MM-DD`, `YYYYMMDD`, or a year with a week and perhaps a day of the week. A timestamp
is a date, one character of any kind, and a time with one to three fields, a fraction and an offset.
Lengths are counted in bytes of the text's UTF-8 form.
-/

namespace StatementWalk.Calendar

open Text

def isDigitByte (b : UInt8) : Bool := decide (48 ≤ b.toNat ∧ b.toNat ≤ 57)

/-- Exactly `n` digits, as a number added to the digits before them, and the rest. -/
def takeNumberFrom (acc : Nat) : Nat → Bytes → Option (Nat × Bytes)
  | 0, bs => some (acc, bs)
  | _ + 1, [] => none
  | n + 1, b :: rest =>
    if isDigitByte b then takeNumberFrom (10 * acc + (b.toNat - 48)) n rest else none

def takeNumber (n : Nat) (bs : Bytes) : Option (Nat × Bytes) := takeNumberFrom 0 n bs

def dropHyphen? : Bytes → Option Bytes
  | 45 :: rest => some rest
  | _ => none

/-- Drops the hyphen that a separated date has and a compact one has not. -/
def dropSeparator? (separated : Bool) (bs : Bytes) : Option Bytes :=
  if separated then dropHyphen? bs else some bs

/-- The day of the week that follows a week, Monday when the date ends with the week. `width` is the
length of the date. -/
def takeWeekDay (width : Nat) (separated : Bool) (bs rest : Bytes) : Option Nat :=
  if bs.length - rest.length < width then do
    let rest ← dropSeparator? separated rest
    let (day, _) ← takeNumber 1 rest
    return day
  else some 1

/-- The fields of a date at the start of a text. `width` tells how much of the text is the date;
only a date by weeks looks at it. -/
def dateFields? (width : Nat) (bs : Bytes) : Option (Nat × Nat × Nat) := do
  let (year, rest) ← takeNumber 4 bs
  let separated := rest.head? == some 45
  let rest := if separated then rest.drop 1 else rest
  if rest.head? == some 87 then
    let (week, rest) ← takeNumber 2 (rest.drop 1)
    let day ← takeWeekDay width separated bs rest
    ofWeek? year week day
  else
    let (month, rest) ← takeNumber 2 rest
    let rest ← dropSeparator? separated rest
    let (day, _) ← takeNumber 2 rest
    return (year, month, day)

/-- The position of the character between date and time. A date by weeks leaves a choice that the
digits after it decide. -/
def separatorAt? (bs : Bytes) : Option Nat :=
  let at_ (i : Nat) : UInt8 := bs.getD i 0
  if bs.length = 7 then some 7
  else if at_ 4 == 45 then
    if at_ 5 == 87 then
      if bs.length < 8 then none
      else if 8 < bs.length ∧ at_ 8 == 45 then
        if bs.length = 9 then none
        else if 10 < bs.length ∧ isDigitByte (at_ 10) then some 8
        else some 10
      else some 8
    else some 10
  else if at_ 4 == 87 then
    let pos := 7 + ((bs.drop 7).takeWhile isDigitByte).length
    if pos < 9 then some pos
    else if pos % 2 = 0 then some 7
    else some 8
  else some 8

/-- Hours, minutes, seconds and microseconds before any check of their ranges. -/
structure ClockFields where
  hour : Nat := 0
  minute : Nat := 0
  second : Nat := 0
  micro : Nat := 0
deriving DecidableEq, Repr, Inhabited

def ClockFields.set (f : ClockFields) (i n : Nat) : ClockFields :=
  match i with
  | 0 => { f with hour := n }
  | 1 => { f with minute := n }
  | _ => { f with second := n }

/-- Whether something is left: a byte that is not zero. The bytes of a field end at `stop`. -/
def somethingLeft (stop : UInt8) (bs : Bytes) : Bool := bs.headD stop != 0

/-- Up to six digits of a fraction, filled up to microseconds. Further digits are dropped. The flag
says whether something is left. -/
def fractionField? (stop : UInt8) (f : ClockFields) (bs : Bytes) : Option (ClockFields × Bool) := do
  let n := min 6 bs.length
  let (value, rest) ← takeNumber n bs
  return ({ f with micro := value * Nat.pow 10 (6 - n) },
    somethingLeft stop (rest.dropWhile isDigitByte))

/-- The fields of a time from field `i` on; `todo` of the three are left. Fields are separated all
or none, and a point or comma begins the fraction after any field. -/
def clockFieldsFrom? (stop : UInt8) (separated : Bool) (i : Nat) (f : ClockFields) :
    Nat → Bytes → Option (ClockFields × Bool)
  | 0, bs => fractionField? stop f bs
  | todo + 1, bs => do
    let (n, rest) ← takeNumber 2 bs
    let f := f.set i n
    match rest with
    | [] => return (f, stop != 0)
    | [c] => return (f, c != 0)
    | c :: more =>
      let separated := if i = 0 then c == 58 else separated
      if separated && c == 58 then clockFieldsFrom? stop separated (i + 1) f todo more
      else if c == 46 || c == 44 then fractionField? stop f more
      else if separated then none
      else clockFieldsFrom? stop separated (i + 1) f todo rest

def clockFields? (stop : UInt8) (bs : Bytes) : Option (ClockFields × Bool) :=
  clockFieldsFrom? stop true 0 {} 3 bs

/-- Begins an offset: a plus, a minus or a `Z`. -/
def isZoneByte (b : UInt8) : Bool := b == 43 || b == 45 || b == 90

/-- An offset: nothing, or a signed span. A span of whole-second length zero is universal time. -/
def zoneFields? : Bytes → Option (Option Span)
  | [] => some none
  | [90] => some (some ⟨0⟩)
  | 90 :: b :: _ => if b == 0 then some (some ⟨0⟩) else none
  | sign :: rest =>
    match clockFields? 0 rest with
    | some (f, false) =>
      let seconds : Int := f.hour * 3600 + f.minute * 60 + f.second
      let micros : Int := if seconds = 0 then 0 else seconds * 1000000 + f.micro
      some (some ⟨if sign == 45 then -micros else micros⟩)
    | _ => none

/-- A time of day and its offset. The first byte never begins an offset that may be empty. -/
def timeFields? (bs : Bytes) : Option (ClockFields × Option Span) := do
  let body := bs.takeWhile (!isZoneByte ·)
  let zone := bs.dropWhile (!isZoneByte ·)
  let (f, left) ← clockFields? (zone.headD 0) body
  if zone.isEmpty && left then none
  else
    let z ← zoneFields? zone
    return (f, z)

/-- The bytes after a separator, which may be a character of several bytes. -/
def dropCharacter : Bytes → Bytes
  | [] => []
  | b :: rest =>
    if b.toNat < 0x80 then rest
    else if b.toNat / 16 = 0xE then rest.drop 2
    else if b.toNat / 16 = 0xF then rest.drop 3
    else rest.drop 1

/-- The fields of a timestamp. A date alone is midnight. -/
def timestampFields? (bs : Bytes) : Option ((Nat × Nat × Nat) × ClockFields × Option Span) := do
  if bs.length < 7 then none
  else
    let pos ← separatorAt? bs
    let date ← dateFields? pos bs
    if pos < bs.length then
      let (f, z) ← timeFields? (dropCharacter (bs.drop pos))
      return (date, f, z)
    else return (date, {}, none)

def notIso (s : String) : Fault := .badValue ("Invalid isoformat string: " ++ quoted s)

/-- Reads a timestamp. The offset is checked before the date, and the date before the time. -/
def timestampOfIso (s : String) : Except Fault Timestamp :=
  match timestampFields? (encodeUtf8 s) with
  | none => .error (notIso s)
  | some ((year, month, day), f, z) => do
    let zone ← match z with
      | none => pure none
      | some span => some <$> Offset.ofSpan span
    let date ← Date.ofFields year month day
    let clock ← Clock.ofFields f.hour f.minute f.second f.micro
    return ⟨date, clock, zone⟩

def dateOfIso (s : String) : Except Fault Date :=
  let bs := encodeUtf8 s
  let n := bs.length
  if n = 7 ∨ n = 8 ∨ n = 10 then
    match dateFields? n bs with
    | none => .error (notIso s)
    | some (year, month, day) => Date.ofFields year month day
  else .error (notIso s)

end StatementWalk.Calendar
