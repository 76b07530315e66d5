import StatementWalk.Value.Convert

/-!
# Checked fields of records

A record is read from named values. Every field is checked on its own and all problems are
reported together, in the order of the declaration. The readers are lenient: a number may come as
its text, a text as UTF-8 bytes, a truth value as a word. Where a record is written out, a stream
in a field becomes an iterator over its lines, and every other value is written as it is.
-/

namespace StatementWalk.Record

open Text Number

/-- A field that does not fit, with the value that was given for it. -/
structure Problem where
  place : List String
  code : String
  text : String
  given : Value

abbrev Checked (α : Type) := Except (List Problem) α

abbrev Fields := List (String × Value)

def refuse {α : Type} (code text : String) (given : Value) : Checked α :=
  .error [⟨[], code, text, given⟩]

namespace Checked

/-- Checks one more field; problems of both sides are kept. -/
def and {α β : Type} (f : Checked (α → β)) (x : Checked α) : Checked β :=
  match f, x with
  | .ok f, .ok a => .ok (f a)
  | .error ps, .ok _ => .error ps
  | .ok _, .error qs => .error qs
  | .error ps, .error qs => .error (ps ++ qs)

def within {α : Type} (step : String) (x : Checked α) : Checked α :=
  x.mapError fun ps => ps.map fun p => { p with place := step :: p.place }

end Checked

/-- A value shown in a report, cut in the middle when it is long. Lengths are in bytes. -/
def shortened (s : String) : String :=
  if s.utf8ByteSize ≤ 50 then s
  else
    String.ofList (takeBytes 25 s.toList) ++ "..." ++
      String.ofList (takeBytes 24 s.toList.reverse).reverse
where
  takeBytes : Nat → List Char → List Char
    | _, [] => []
    | room, c :: rest => if c.utf8Size ≤ room then c :: takeBytes (room - c.utf8Size) rest else []

def Problem.line (p : Problem) : String :=
  let shown := match p.given.shown with
    | .ok s => s
    | .error _ => "<unprintable " ++ p.given.className ++ " object>"
  ".".intercalate p.place ++ "\n  " ++ p.text ++ " [type=" ++ p.code ++ ", input_value=" ++
    shortened shown ++ ", input_type=" ++ p.given.className ++ "]"

def faultOf (record : String) (ps : List Problem) : Fault :=
  let head := toString ps.length ++ " validation error" ++ (if ps.length = 1 then "" else "s") ++
    " for " ++ record
  ⟨.validation (ps.map fun p => ⟨p.place, p.code, p.text⟩),
    "\n".intercalate (head :: ps.map Problem.line), none⟩

def Checked.orFault {α : Type} (record : String) (x : Checked α) : Except Fault α :=
  x.mapError (faultOf record)

namespace Fields

def asValue (r : Fields) : Value := .dict (r.map fun (k, v) => (.text k, v))

def required {α : Type} (r : Fields) (name : String) (read : Value → Checked α) : Checked α :=
  match r.lookup name with
  | some v => (read v).within name
  | none => .error [⟨[name], "missing", "Field required", r.asValue⟩]

def withDefault {α : Type} (r : Fields) (name : String) (absent : α) (read : Value → Checked α) :
    Checked α :=
  match r.lookup name with
  | some v => (read v).within name
  | none => .ok absent

/-- A field that may be null, and is when it is absent. -/
def optional {α : Type} (r : Fields) (name : String) (read : Value → Checked α) :
    Checked (Option α) :=
  match r.lookup name with
  | none | some .null => .ok none
  | some v => (some <$> read v).within name

end Fields

/-- The text that a text or UTF-8 bytes hold. -/
def readText (v : Value) : Checked String :=
  match v with
  | .text s => .ok s
  | .bytes bs | .buffer .growable bs =>
    match decodeUtf8 bs with
    | .ok s => .ok s
    | .error _ =>
      refuse "string_unicode"
        "Input should be a valid string, unable to parse raw data as a unicode string" v
  | v => refuse "string_type" "Input should be a valid string" v

/-- What follows the leading zeros of a number and the underscores among them: a digit that is no
zero, a minus sign, or a point with the last zero before it. Of nothing but zeros the last is kept.
A text that does not start with a digit is none. -/
def dropZeros (cs : List Char) : Option (List Char) :=
  match cs with
  | '0' :: rest => go '0' rest
  | c :: _ => if isAsciiDigit c then some cs else none
  | [] => none
where
  go (before : Char) : List Char → Option (List Char)
    | [] => some [before]
    | c :: rest =>
      if c == '0' || c == '_' then go c rest
      else if isAsciiDigit c || c == '-' then some (c :: rest)
      else if c == '.' then some (before :: c :: rest)
      else none

/-- Leaves out a point with one zero or more after it. -/
def dropZeroFraction (cs : List Char) : List Char :=
  match cs.dropWhile (· != '.') with
  | _ :: zero :: zeros =>
    if (zero :: zeros).all (· == '0') then cs.takeWhile (· != '.') else cs
  | _ => cs

/-- Leaves out single underscores between digits; others refuse the text. -/
def dropUnderscores (cs : List Char) : Option (List Char) :=
  if cs.head? == some '_' || cs.getLast? == some '_' || Value.hasInfix ['_', '_'] cs then none
  else some (cs.filter (· != '_'))

/-- Reads a minus sign, if there is one, and digits without superfluous zeros. -/
def readPlainInt (cs : List Char) : IntReading :=
  let (negative, body) := match cs with
    | '-' :: rest => (true, rest)
    | cs => (false, cs)
  let digits := body.takeWhile isAsciiDigit
  let complete := (body.dropWhile isAsciiDigit).isEmpty
  if digits.isEmpty then .malformed
  else if digits.head? == some '0' then
    if complete && digits.length == 1 then .number 0 else .malformed
  else if digitLimit < digits.length then .tooLong digits.length
  else if complete then
    let n : Int := ofDigits (digits.map (·.toNat - 48))
    .number (if negative then -n else n)
  else .malformed

/-- A plain integer text from one with outer blanks, a sign, leading zeros, underscores or a
fraction of zeros. A minus sign may also follow leading zeros. -/
def plainIntText? (cs : List Char) : Option (List Char) := do
  let (sign, magnitude) := match trimBy isWhite cs with
    | '+' :: rest => ([], rest)
    | '-' :: rest => (['-'], rest)
    | rest => ([], rest)
  let digits ← dropUnderscores (dropZeroFraction (← dropZeros magnitude))
  return sign ++ digits

def readWrittenInt (s : String) : IntReading :=
  match readPlainInt s.toList with
  | .malformed =>
    match (plainIntText? s.toList).map readPlainInt with
    | some (.number n) => .number n
    | _ => .malformed
  | r => r

def tooLongInt (v : Value) : Checked Int :=
  refuse "int_parsing_size" "Unable to parse input string as an integer, exceeded maximum size" v

def notWrittenInt (v : Value) : Checked Int :=
  refuse "int_parsing" "Input should be a valid integer, unable to parse string as an integer" v

def fractionalInt (v : Value) : Checked Int :=
  refuse "int_from_float" "Input should be a valid integer, got a number with a fractional part" v

def infiniteInt (v : Value) : Checked Int :=
  refuse "finite_number" "Input should be a finite number" v

def intOfWritten (v : Value) (s : String) : Checked Int :=
  match readWrittenInt s with
  | .number n => .ok n
  | .tooLong _ => tooLongInt v
  | .malformed => notWrittenInt v

/-- An integer from any number without a fraction or from its text. -/
def readInt (v : Value) : Checked Int :=
  match v with
  | .bool b => .ok (if b then 1 else 0)
  | .int n => .ok n
  | .float x =>
    match x.truncate? with
    | none => infiniteInt v
    | some n =>
      if !x.isWhole then fractionalInt v
      else if -wordBound < n ∧ n < wordBound then .ok n
      else tooLongInt v
  | .decimal x =>
    if !x.isFinite then infiniteInt v
    else if !x.isWhole then fractionalInt v
    else match x.toInt with
      | .ok n => .ok n
      | .error _ => infiniteInt v
  | .text s => intOfWritten v s
  | .bytes bs =>
    match decodeUtf8 bs with
    | .ok s => intOfWritten v s
    | .error _ => notWrittenInt v
  | v => refuse "int_type" "Input should be a valid integer" v

def readIntIn (low : Int) (high : Option Int) (v : Value) : Checked Int := do
  let n ← readInt v
  if n < low then
    refuse "greater_than_equal" ("Input should be greater than or equal to " ++ toString low) v
  else
    match high with
    | some h =>
      if h < n then
        refuse "less_than_equal" ("Input should be less than or equal to " ++ toString h) v
      else return n
    | none => return n

def notAFlag (v : Value) : Checked Bool :=
  refuse "bool_parsing" "Input should be a valid boolean, unable to interpret input" v

def noFlag (v : Value) : Checked Bool := refuse "bool_type" "Input should be a valid boolean" v

def flagOfInt (v : Value) (n : Int) : Checked Bool :=
  if n = 0 then .ok false else if n = 1 then .ok true else notAFlag v

/-- Words for yes and no, in any letter case. -/
def flagOfText (v : Value) (s : String) : Checked Bool :=
  let word := String.ofList (s.toList.map Char.toLower)
  if ["0", "off", "f", "false", "n", "no"].contains word then .ok false
  else if ["1", "on", "t", "true", "y", "yes"].contains word then .ok true
  else notAFlag v

def flagOfFloat (v : Value) (x : Binary64) : Checked Bool :=
  match x.truncate? with
  | some n =>
      if x.isWhole && decide (-wordBound < n ∧ n < wordBound) then flagOfInt v n else noFlag v
  | none => noFlag v

def nearestFloat : Decimal → Binary64
  | .finite negative c e =>
    Binary64.ofLiteral negative ⟨(toString c).toList.map (·.toNat - 48), e⟩
  | .infinite negative => .infinite negative
  | .nan .. => .nan

/-- A truth value from one, from zero or one, or from a word. -/
def readFlag (v : Value) : Checked Bool :=
  match v with
  | .bool b => .ok b
  | .int n => if -wordBound ≤ n ∧ n < wordBound then flagOfInt v n else noFlag v
  | .float x => flagOfFloat v x
  | .decimal x => flagOfFloat v (nearestFloat x)
  | .text s => flagOfText v s
  | .bytes bs =>
    match decodeUtf8 bs with
    | .ok s => flagOfText v s
    | .error _ => notAFlag v
  | v => noFlag v

/-- Checks the members of a list from position `i` on. -/
def readItems {α : Type} (read : Value → Checked α) : Nat → List Value → Checked (List α)
  | _, [] => .ok []
  | i, v :: rest =>
    Checked.and (List.cons <$> (read v).within (toString i)) (readItems read (i + 1) rest)

/-- A collection whose members all pass a check. Texts, byte strings and dictionaries are none. -/
def readList {α : Type} (read : Value → Checked α) (v : Value) : Checked (List α) :=
  let noList : Checked (List α) := refuse "list_type" "Input should be a valid list" v
  match v with
  | .text _ | .bytes _ | .buffer .growable _ | .dict _ => noList
  | v =>
    match v.toRow with
    | .ok items => readItems read 0 items
    | .error _ => noList

def fieldsOf? (v : Value) : Option Fields :=
  match v with
  | .dict entries =>
    some (entries.filterMap fun (k, x) =>
      match k with
      | .text name => some (name, x)
      | _ => none)
  | _ => none

def notARecord {α : Type} (record : String) (v : Value) : Checked α :=
  refuse "model_type" ("Input should be a valid dictionary or instance of " ++ record) v

def readRecord {α : Type} (record : String) (read : Fields → Checked α) (v : Value) : Checked α :=
  match fieldsOf? v with
  | some fields => read fields
  | none => notARecord record v

def lineIterator : Value :=
  .sealed "pydantic_core._pydantic_core" "SerializationIterator" "<iterator>"

/-- Containers nested deeper than this are not looked into. -/
def exportDepth : Nat := 255

/-- The value with its streams replaced, down to a depth. -/
def exportWithin : Nat → Value → Value
  | 0, v => v
  | _ + 1, .textStream _ | _ + 1, .byteStream _ => lineIterator
  | n + 1, .list items => .list (items.map (exportWithin n))
  | n + 1, .tuple items => .tuple (items.map (exportWithin n))
  | n + 1, .dict entries => .dict (entries.map fun (k, v) => (k, exportWithin n v))
  | _ + 1, v => v

/-- The form in which a record hands a free value out. -/
def exported (v : Value) : Value := exportWithin exportDepth v

end StatementWalk.Record
