import StatementWalk.Text.Encoding

/-!
# UTF-8

Writing a text as bytes, and reading bytes as a text one byte at a time. The reader keeps the
character it is in the middle of; a refusal names the first and the last byte at fault.
-/

namespace StatementWalk.Text

/-- The bytes of one character. -/
def encodeChar (c : Char) : Bytes :=
  let n := c.toNat
  let tail (k : Nat) : UInt8 := UInt8.ofNat (0x80 + n / Nat.pow 2 (6 * k) % 64)
  if n < 0x80 then [UInt8.ofNat n]
  else if n < 0x800 then [UInt8.ofNat (0xC0 + n / 64), tail 0]
  else if n < 0x10000 then [UInt8.ofNat (0xE0 + n / 4096), tail 1, tail 0]
  else [UInt8.ofNat (0xF0 + n / 262144), tail 2, tail 1, tail 0]

def encodeUtf8 (s : String) : Bytes := s.toList.flatMap encodeChar

/-- The characters that fit into a number of bytes. A character that fits in part leaves the mark of
an unreadable one. -/
def clipChars : Nat → List Char → List Char
  | 0, _ | _, [] => []
  | room + 1, c :: rest =>
    if c.utf8Size ≤ room + 1 then c :: clipChars (room + 1 - c.utf8Size) rest
    else [Char.ofNat 0xFFFD]

/-- A text cut to a number of bytes. -/
def clip (room : Nat) (s : String) : String := String.ofList (clipChars room s.toList)

/-- A byte sequence that is not a text: the bytes at fault and what is wrong with them. -/
structure DecodeRefusal where
  codec : String
  first : Nat
  last : Nat
  byte : UInt8
  reason : String
deriving DecidableEq, Repr

/-- One byte is named by its value, several by their positions. -/
def DecodeRefusal.message (r : DecodeRefusal) : String :=
  let head := "'" ++ r.codec ++ "' codec can't decode "
  let place :=
    if r.first == r.last then
      "byte 0x" ++ String.ofList (hexDigits 2 r.byte.toNat) ++ " in position " ++ toString r.first
    else "bytes in position " ++ toString r.first ++ "-" ++ toString r.last
  head ++ place ++ ": " ++ r.reason

structure Partial where
  start : Nat
  lead : UInt8
  value : Nat
  missing : Nat
  low : Nat
  high : Nat
deriving DecidableEq, Repr

/-- The character that a leading byte above ASCII begins; the bounds on its second byte keep out
overlong forms, surrogates and numbers past the last code point. -/
def beginChar? (pos : Nat) (b : UInt8) : Option Partial :=
  let n := b.toNat
  if n < 0xC2 then none
  else if n < 0xE0 then some ⟨pos, b, n - 0xC0, 1, 0x80, 0xBF⟩
  else if n < 0xF0 then
    some ⟨pos, b, n - 0xE0, 2, if n == 0xE0 then 0xA0 else 0x80, if n == 0xED then 0x9F else 0xBF⟩
  else if n < 0xF5 then
    some ⟨pos, b, n - 0xF0, 3, if n == 0xF0 then 0x90 else 0x80, if n == 0xF4 then 0x8F else 0xBF⟩
  else none

/-- Reads on from position `pos`, possibly inside a character. -/
def decodeFrom (pos : Nat) : Option Partial → Bytes → Except DecodeRefusal (List Char)
  | none, [] => .ok []
  | some p, [] => .error ⟨"utf-8", p.start, pos - 1, p.lead, "unexpected end of data"⟩
  | none, b :: rest =>
    if b.toNat < 0x80 then
      (decodeFrom (pos + 1) none rest).map (Char.ofNat b.toNat :: ·)
    else
      match beginChar? pos b with
      | none => .error ⟨"utf-8", pos, pos, b, "invalid start byte"⟩
      | some p => decodeFrom (pos + 1) (some p) rest
  | some p, b :: rest =>
    if decide (p.low ≤ b.toNat ∧ b.toNat ≤ p.high) then
      let value := p.value * 64 + (b.toNat - 0x80)
      if p.missing ≤ 1 then
        (decodeFrom (pos + 1) none rest).map (Char.ofNat value :: ·)
      else
        decodeFrom (pos + 1) (some ⟨p.start, p.lead, value, p.missing - 1, 0x80, 0xBF⟩) rest
    else .error ⟨"utf-8", p.start, pos - 1, p.lead, "invalid continuation byte"⟩

/-- The text that bytes write, or the first fault in them. -/
def decodeUtf8 (bs : Bytes) : Except DecodeRefusal String :=
  (decodeFrom 0 none bs).map String.ofList

/-- The text that ASCII bytes write. -/
def decodeAscii (bs : Bytes) : Except DecodeRefusal String :=
  match bs.findIdx? (fun b => 0x80 ≤ b.toNat) with
  | some i => .error ⟨"ascii", i, i, bs.getD i 0, "ordinal not in range(128)"⟩
  | none => .ok (String.ofList (bs.map fun b => Char.ofNat b.toNat))

end StatementWalk.Text
