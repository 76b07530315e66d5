import StatementWalk.Value.Basic

/-!
# Keys of dictionaries

Two values are one key when they are equal as values, not only when they are of one kind: numbers
are compared by value, and times with a zone by the moment that they stand for. Streams and driver
objects equal only themselves, and no two of them are ever the same.
-/

namespace StatementWalk

namespace Binary64

/-- Numeric equality. Both zeros are equal, and a value that is not a number equals nothing. -/
def eq : Binary64 → Binary64 → Bool
  | .finite s a, .finite t b => a == b && (s == t || a == 0)
  | .infinite s, .infinite t => s == t
  | _, _ => false

end Binary64

namespace Decimal

/-- The number of digits before the point, or minus the zeros after it. -/
def magnitude (coefficient : Nat) (exponent : Int) : Int :=
  exponent + (toString coefficient).length

/-- Numeric equality. Magnitudes are compared first, so that a large power of ten is never
computed. -/
def eq : Decimal → Decimal → Bool
  | .finite s c e, .finite t d f =>
    if c = 0 ∨ d = 0 then c == d
    else
      s == t && magnitude c e == magnitude d f &&
        c * Nat.pow 10 (e - min e f).toNat == d * Nat.pow 10 (f - min e f).toNat
  | .infinite s, .infinite t => s == t
  | _, _ => false

/-- Numeric equality with a double. No finite double has more than four hundred digits before the
point, or zeros after it. -/
def eqFloat : Decimal → Binary64 → Bool
  | .finite s c e, .finite t units =>
    if c = 0 ∨ units = 0 then c == units
    else
      s == t && decide ((magnitude c e).natAbs < 400) &&
        c * Nat.pow 10 e.toNat * Binary64.one == units * Nat.pow 10 (-e).toNat
  | .infinite s, .infinite t => s == t
  | _, _ => false

end Decimal

namespace Clock

/-- Microseconds since midnight. -/
def micros (c : Clock) : Nat := ((c.hour * 60 + c.minute) * 60 + c.second) * 1000000 + c.micro

end Clock

namespace TimeOfDay

/-- Equality of the fields, or of the time in the universal zone where both know it. -/
def eq (a b : TimeOfDay) : Bool :=
  match a.zone, b.zone with
  | none, none => a.clock == b.clock
  | some o, some p =>
    a.clock.micros - o.micros == b.clock.micros - p.micros && a.clock.micro == b.clock.micro
  | _, _ => false

end TimeOfDay

namespace Timestamp

/-- Microseconds since the day before the first of the calendar. -/
def micros (t : Timestamp) : Int :=
  Calendar.dayNumber t.date.year t.date.month t.date.day * Calendar.dayMicros + t.clock.micros

/-- Equality of the fields, or of the moment where both have a zone. -/
def eq (a b : Timestamp) : Bool :=
  match a.zone, b.zone with
  | none, none => a.date == b.date && a.clock == b.clock
  | some o, some p => a.micros - o.micros == b.micros - p.micros
  | _, _ => false

end Timestamp

namespace Value

def sameKey : Value → Value → Bool
  | .null, .null => true
  | .text s, .text t => s == t
  | .bytes xs, .bytes ys | .bytes xs, .buffer .view ys | .buffer .view xs, .bytes ys
  | .buffer .view xs, .buffer .view ys => xs == ys
  | .float x, .float y => x.eq y
  | .decimal x, .decimal y => x.eq y
  | .decimal x, .float y | .float y, .decimal x => x.eqFloat y
  | .timestamp t, .timestamp u => t.eq u
  | .date d, .date e => d == e
  | .time t, .time u => t.eq u
  | .span s, .span t => s == t
  | .uuid m, .uuid n => m == n
  | .tuple xs, .tuple ys => sameKeys xs ys
  | .typeRef m s, .typeRef n t => m == n && s == t
  | a, b =>
    match a.asInt?, b.asInt? with
    | some n, _ => b.eqInt n
    | none, some m => a.eqInt m
    | none, none => false
where
  /-- Whether the members of two tuples are the same, one by one. -/
  sameKeys : List Value → List Value → Bool
    | [], [] => true
    | x :: xs, y :: ys => sameKey x y && sameKeys xs ys
    | _, _ => false

end Value

end StatementWalk
